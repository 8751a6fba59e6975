import SmartblindsBle.Cloud.TiltCloud

/-! # Which failures of the cloud are translated

Every reply that is not what the code assumes makes some access to it fail. The
exchanges whose failures all become `TiltCloudError` are characterized by the shape
of their documents.
-/

namespace SmartblindsBle

open Foundation

namespace TiltCloud

/-! ## Runs that return -/

def Returns {Value : Type} (run : CloudRaises Value) : Prop := ∃ value, run = .ok value

/-- The run returns, or it raises `TiltCloudError`. -/
def Translated {Value : Type} (run : CloudRaises Value) : Prop :=
  Returns run ∨ ∃ message, run = .error (.tiltCloudError message)

variable {Value Result Item : Type}

@[simp] theorem returns_ok (value : Value) : Returns (.ok value : CloudRaises Value) := ⟨value, rfl⟩

@[simp] theorem not_returns_error (error : CloudException) :
    ¬ Returns (.error error : CloudRaises Value) := nofun

@[simp] theorem returns_pure (value : Value) : Returns (pure value : CloudRaises Value) :=
  ⟨value, rfl⟩

theorem returns_bind_iff {run : CloudRaises Value} {next : Value → CloudRaises Result} :
    Returns (run >>= next) ↔ ∃ value, run = .ok value ∧ Returns (next value) := by
  cases run with
  | error error =>
      constructor
      · exact nofun
      · rintro ⟨_, impossible, _⟩
        cases impossible
  | ok value =>
      constructor
      · intro returns
        exact ⟨value, rfl, returns⟩
      · rintro ⟨_, same, returns⟩
        cases same
        exact returns

@[simp] theorem translated_ok (value : Value) : Translated (.ok value : CloudRaises Value) :=
  .inl ⟨value, rfl⟩

@[simp] theorem translated_tiltCloudError (message : Text) :
    Translated (.error (.tiltCloudError message) : CloudRaises Value) := .inr ⟨message, rfl⟩

theorem translated_error_iff {error : CloudException} :
    Translated (.error error : CloudRaises Value) ↔ ∃ message, error = .tiltCloudError message := by
  constructor
  · rintro (⟨_, impossible⟩ | ⟨message, same⟩)
    · cases impossible
    · exact ⟨message, Except.error.inj same⟩
  · rintro ⟨message, rfl⟩
    exact translated_tiltCloudError message

theorem returns_collect_iff {visit : Item → CloudRaises (List Result)} {items : List Item} :
    Returns (collect visit items) ↔ ∀ item ∈ items, Returns (visit item) := by
  induction items with
  | nil => simp [collect]
  | cons item items induction =>
      rw [collect, returns_bind_iff, List.forall_mem_cons, ← induction]
      constructor
      · rintro ⟨found, first, rest⟩
        rcases returns_bind_iff.mp rest with ⟨later, isLater, _⟩
        exact ⟨⟨found, first⟩, later, isLater⟩
      · rintro ⟨⟨found, first⟩, later, isLater⟩
        exact ⟨found, first, returns_bind_iff.mpr ⟨later, isLater, returns_pure _⟩⟩

/-! ## Runs that never raise `TiltCloudError` -/

def Untranslated {Value : Type} (run : CloudRaises Value) : Prop :=
  ∀ message, run ≠ .error (.tiltCloudError message)

theorem Untranslated.translated_iff {run : CloudRaises Value} (untranslated : Untranslated run) :
    Translated run ↔ Returns run := by
  constructor
  · rintro (returns | ⟨message, same⟩)
    · exact returns
    · exact (untranslated message same).elim
  · exact .inl

theorem untranslated_ok (value : Value) : Untranslated (.ok value : CloudRaises Value) := by
  intro message
  exact nofun

theorem Untranslated.bind {run : CloudRaises Value} {next : Value → CloudRaises Result}
    (first : Untranslated run) (rest : ∀ value, Untranslated (next value)) :
    Untranslated (run >>= next) := by
  intro message raises
  cases run with
  | error error =>
      rw [Except.error.inj raises] at first
      exact first message rfl
  | ok value => exact rest value message raises

theorem untranslated_collect {visit : Item → CloudRaises (List Result)}
    (every : ∀ item, Untranslated (visit item)) (items : List Item) :
    Untranslated (collect visit items) := by
  induction items with
  | nil => exact untranslated_ok []
  | cons item items induction =>
      apply (every item).bind
      intro found
      apply induction.bind
      intro later
      exact untranslated_ok _

theorem untranslated_get (value : Json) (name : Text) : Untranslated (get value name) := by
  intro message
  cases value <;> exact nofun

theorem untranslated_iterate (value : Json) : Untranslated (iterate value) := by
  intro message
  cases value <;> exact nofun

/-! ## Lists of objects -/

/-- A value that is missing or empty, or a list of objects of which each has a
property. -/
def ListsObjects (holds : List (Text × Json) → Prop) (value : Json) : Prop :=
  value.truthy = false ∨
    ∃ items, value = .list items ∧ ∀ item ∈ items, ∃ fields, item = .dict fields ∧ holds fields

/-- Only lists of objects can be looped over by a body that accesses its item as an
object. -/
theorem returns_loop_iff {visit : Json → CloudRaises (List Result)}
    {holds : List (Text × Json) → Prop}
    (visits : ∀ item, Returns (visit item) ↔ ∃ fields, item = .dict fields ∧ holds fields)
    (value : Json) :
    Returns (iterate (value.orElse (.list [])) >>= collect visit) ↔ ListsObjects holds value := by
  unfold ListsObjects Json.orElse
  by_cases truthy : value.truthy = true
  · have notEmpty : ¬ value.truthy = false := by simp [truthy]
    rw [if_pos truthy, or_iff_right notEmpty]
    cases value with
    | list items =>
        have looped : Returns (iterate (.list items) >>= collect visit) ↔
            Returns (collect visit items) := Iff.rfl
        simp [looped, returns_collect_iff, visits]
    | string text =>
        cases text with
        | nil => cases truthy
        | cons point text =>
            have looped : ¬ Returns (collect visit
                ((point :: text).map fun point => .string [point])) := by
              rw [returns_collect_iff]
              intro every
              rcases (visits _).mp (every (.string [point]) (by simp)) with ⟨_, impossible, _⟩
              cases impossible
            exact ⟨fun returns => (looped returns).elim, nofun⟩
    | dict fields =>
        cases fields with
        | nil => cases truthy
        | cons field fields =>
            have looped : ¬ Returns (collect visit
                ((field :: fields).map fun field => .string field.1)) := by
              rw [returns_collect_iff]
              intro every
              rcases (visits _).mp (every (.string field.1) (by simp)) with ⟨_, impossible, _⟩
              cases impossible
            exact ⟨fun returns => (looped returns).elim, nofun⟩
    | _ => exact ⟨nofun, nofun⟩
  · have empty : value.truthy = false := by simpa using truthy
    simp only [empty, Bool.false_eq_true, if_false, true_or, iff_true]
    exact returns_ok _

/-! ## The store -/

variable (python : Library) (transport : Transport)

theorem returns_parseEntry_iff (kind : DeviceKind) (roomName entry : Json) :
    Returns (parseEntry python kind roomName entry) ↔
      ∃ fields, entry = .dict fields ∧ True := by
  cases entry with
  | dict fields =>
      refine ⟨fun _ => ⟨fields, rfl, trivial⟩, fun _ => ?_⟩
      rw [parseEntry, get_dict, get_dict, get_dict]
      simp only [returns_bind_iff, Except.ok.injEq, exists_eq_left']
      split
      · exact returns_pure _
      · exact returns_pure _
  | _ => exact ⟨nofun, nofun⟩

/-- A group of a room that can be read. -/
def GroupReadable (entries : Json) : Prop := ListsObjects (fun _ => True) entries

theorem returns_parseGroup_iff (roomName : Json) (group : DeviceKind × Json) :
    Returns (parseGroup python roomName group) ↔ GroupReadable group.2 :=
  returns_loop_iff (returns_parseEntry_iff python group.1 roomName) group.2

/-- A room of which the groups can be read. -/
def RoomReadable (includeBridges : Bool) (fields : List (Text × Json)) : Prop :=
  GroupReadable (Json.valueOf fields "rollerShades") ∧
    (includeBridges = true → GroupReadable (Json.valueOf fields "bridges"))

theorem returns_parseRoom_iff (includeBridges : Bool) (room : Json) :
    Returns (parseRoom python includeBridges room) ↔
      ∃ fields, room = .dict fields ∧ RoomReadable includeBridges fields := by
  cases room with
  | dict fields =>
      have read : Returns (parseRoom python includeBridges (.dict fields)) ↔
          RoomReadable includeBridges fields := by
        rw [parseRoom, RoomReadable, get_dict, get_dict, get_dict]
        simp only [returns_bind_iff, Except.ok.injEq, exists_eq_left']
        cases includeBridges with
        | true => simp [returns_collect_iff, returns_parseGroup_iff]
        | false => simp [returns_collect_iff, returns_parseGroup_iff]
      simpa using read
  | _ => exact ⟨nofun, nofun⟩

/-- A store of which the rooms can be read. -/
def StoreReadable (includeBridges : Bool) (fields : List (Text × Json)) : Prop :=
  ListsObjects (RoomReadable includeBridges) (Json.valueOf fields "rooms")

theorem returns_parseStore_iff (fields : List (Text × Json)) (includeBridges : Bool) :
    Returns (parseStore python (.dict fields) includeBridges) ↔
      StoreReadable includeBridges fields :=
  returns_loop_iff (returns_parseRoom_iff python includeBridges) _

theorem untranslated_parseEntry (kind : DeviceKind) (roomName entry : Json) :
    Untranslated (parseEntry python kind roomName entry) := by
  apply (untranslated_get entry _).bind
  intro key
  apply (untranslated_get entry _).bind
  intro mac
  split
  · exact untranslated_ok _
  · apply (untranslated_get entry _).bind
    intro name
    exact untranslated_ok _

theorem untranslated_parseGroup (roomName : Json) (group : DeviceKind × Json) :
    Untranslated (parseGroup python roomName group) := by
  apply (untranslated_iterate _).bind
  intro entries
  exact untranslated_collect (untranslated_parseEntry python group.1 roomName) entries

theorem untranslated_parseRoom (includeBridges : Bool) (room : Json) :
    Untranslated (parseRoom python includeBridges room) := by
  apply (untranslated_get room _).bind
  intro roomName
  apply (untranslated_get room _).bind
  intro shades
  split
  · apply (untranslated_get room _).bind
    intro bridges
    exact untranslated_collect (untranslated_parseGroup python roomName) _
  · exact untranslated_collect (untranslated_parseGroup python roomName) _

theorem untranslated_parseStore (store : Json) (includeBridges : Bool) :
    Untranslated (parseStore python store includeBridges) := by
  apply (untranslated_get store _).bind
  intro rooms
  apply (untranslated_iterate _).bind
  intro rooms
  exact untranslated_collect (untranslated_parseRoom python includeBridges) rooms

/-! ## The exchanges -/

/-- The reply of the store: anything but a document that cannot be read. -/
def StoreOutcomeReadable (includeBridges : Bool) : Outcome → Prop
  | .urlError _ => True
  | .httpError _ _ _ => True
  | .reply body =>
      match python.loads body with
      | .ok (.dict fields) => StoreReadable includeBridges fields
      | .ok _ => True
      | .error _ => False

/-- A token that can be sent, and is answered by a store that can be read. -/
def TokenReadable (includeBridges : Bool) (accessToken : Json) : Prop :=
  legalHeaderValue (bearerHeader python accessToken) = true ∧
    StoreOutcomeReadable python includeBridges
      (transport.get tiltStoreUrl (bearerHeader python accessToken))

theorem loadsBody_cases (body : Bytes) :
    (∃ document, python.loads body = .ok document ∧ python.loadsBody body = .ok document) ∨
      (∃ error, python.loads body = .error error) ∧
        (python.loadsBody body = .error .valueError ∨
          python.loadsBody body = .error .recursionError) := by
  unfold Library.loadsBody
  cases python.loads body with
  | ok document => exact .inl ⟨document, rfl, rfl⟩
  | error error =>
      refine .inr ⟨⟨error, rfl⟩, ?_⟩
      cases error with
      | valueError => exact .inl rfl
      | recursionError => exact .inr rfl

theorem translated_storeDevices_iff (includeBridges : Bool) (accessToken : Json) :
    Translated (fetchStore python transport accessToken >>= fun store =>
        parseStore python store includeBridges) ↔
      TokenReadable python transport includeBridges accessToken := by
  unfold fetchStore TokenReadable
  cases legal : legalHeaderValue (bearerHeader python accessToken) with
  | false =>
      rw [getJson_illegal python transport legal]
      simp [bind, Except.bind, translated_error_iff]
  | true =>
      rw [getJson_legal python transport legal]
      cases transport.get tiltStoreUrl (bearerHeader python accessToken) with
      | urlError reason => simp [Outcome.read, bind, Except.bind, StoreOutcomeReadable]
      | httpError code reason body =>
          by_cases rejected : code = 401 <;>
            simp [Outcome.read, bind, Except.bind, StoreOutcomeReadable, rejected]
      | reply body =>
          simp only [Outcome.read, bind, Except.bind, StoreOutcomeReadable]
          rcases loadsBody_cases python body with
            ⟨document, loaded, isDocument⟩ | ⟨⟨error, failed⟩, raises | raises⟩
          · rw [loaded, isDocument]
            cases document with
            | dict fields =>
                have devices := untranslated_parseStore python (.dict fields) includeBridges
                simpa using devices.translated_iff.trans
                  (returns_parseStore_iff python fields includeBridges)
            | _ => simp
          · rw [failed, raises]
            simp [translated_error_iff]
          · rw [failed, raises]
            simp [translated_error_iff]

/-- An error of the login whose body can be read: no JSON at all, or an object whose
error is no list and no object. -/
def LoginFailureReadable (body : Bytes) : Prop :=
  match python.loads body with
  | .ok (.dict fields) => (Json.valueOr fields "error" (.string [])).hashable = true
  | .ok _ => False
  | .error .valueError => True
  | .error .recursionError => False

theorem auth0Failure_hashable (code : Int) (reason : Text) {body : Bytes}
    {fields : List (Text × Json)}
    (read : python.loads body = .ok (.dict fields) ∨
      python.loads body = .error .valueError ∧ fields = [])
    (hashable : (Json.valueOr fields "error" (.string [])).hashable = true) :
    ∃ message, auth0Failure python code reason body = .ok (.tiltCloudError message) := by
  have run : auth0Failure python code reason body =
      auth0Failure { python with loads := fun _ => .ok (.dict fields) } code reason body := by
    rcases read with loaded | ⟨failed, rfl⟩
    · simp [auth0Failure, loaded]
    · simp [auth0Failure, failed]
  rw [run]
  simp only [auth0Failure, getOr, get, bind, Except.bind, hashable, Bool.true_eq_false, if_false]
  split
  · exact ⟨_, rfl⟩
  · split
    · exact ⟨_, rfl⟩
    · split
      · exact ⟨_, rfl⟩
      · exact ⟨_, rfl⟩

theorem auth0Failure_unhashable {code : Int} {reason : Text} {body : Bytes}
    {fields : List (Text × Json)} (read : python.loads body = .ok (.dict fields))
    (unhashable : (Json.valueOr fields "error" (.string [])).hashable = false) :
    auth0Failure python code reason body = .error .typeError := by
  have noText (text : Text) : isText (Json.valueOr fields "error" (.string [])) text = false := by
    revert unhashable
    cases Json.valueOr fields "error" (.string []) <;> simp [Json.hashable, isText]
  simp [auth0Failure, read, getOr, get, bind, Except.bind, noText, unhashable]

theorem translated_auth0Failure_iff (code : Int) (reason : Text) (body : Bytes) :
    Translated (auth0Failure python code reason body >>= fun failure =>
        (.error failure : CloudRaises Json)) ↔ LoginFailureReadable python body := by
  unfold LoginFailureReadable
  cases loaded : python.loads body with
  | error error =>
      cases error with
      | valueError =>
          rcases auth0Failure_hashable python code reason (.inr ⟨loaded, rfl⟩) rfl
            with ⟨message, translated⟩
          rw [translated]
          simp [bind, Except.bind]
      | recursionError => simp [auth0Failure, loaded, bind, Except.bind, translated_error_iff]
  | ok document =>
      cases document with
      | dict fields =>
          cases hashable : (Json.valueOr fields "error" (.string [])).hashable with
          | true =>
              rcases auth0Failure_hashable python code reason (.inl loaded) hashable
                with ⟨message, translated⟩
              rw [translated]
              simp [bind, Except.bind, hashable]
          | false =>
              rw [auth0Failure_unhashable python loaded hashable]
              simp [bind, Except.bind, translated_error_iff, hashable]
      | _ => simp [auth0Failure, loaded, getOr, bind, Except.bind, translated_error_iff]

/-- The outcome of the login: an answer with a token whose store can be read, an answer
without a token, or an error that can be read. -/
def LoginOutcomeReadable (includeBridges : Bool) : Outcome → Prop
  | .urlError _ => True
  | .httpError _ _ body => LoginFailureReadable python body
  | .reply body =>
      match python.loads body with
      | .ok (.dict fields) =>
          (Json.valueOf fields "access_token").truthy = true →
            TokenReadable python transport includeBridges (Json.valueOf fields "access_token")
      | _ => False

/-- The exchanges of a call: those of a token that was given, or of a login. -/
def ExchangesReadable (username password accessToken : Option Text) (includeBridges : Bool) :
    Prop :=
  match accessToken with
  | some accessToken => TokenReadable python transport includeBridges (.string accessToken)
  | none => ∀ name secret, credentials username password = .ok (name, secret) →
      LoginOutcomeReadable python transport includeBridges
        (transport.post auth0TokenUrl (loginPayload name secret))

/-! ## The whole call -/

theorem credentials_cases (username password : Option Text) :
    (∃ name secret, credentials username password = .ok (name, secret)) ∨
      ∃ message, credentials username password = .error (.tiltCloudError message) := by
  unfold credentials
  split
  · split
    · exact .inr ⟨_, rfl⟩
    · exact .inl ⟨_, _, rfl⟩
  · exact .inr ⟨_, rfl⟩

/-- The part of `fetch_devices` behind the login. -/
def devicesOfTokens (includeBridges : Bool) (tokens : Json) : CloudRaises (List TiltDevice) := do
  let accessToken ← get tokens "access_token"
  if accessToken.truthy = false then
    .error (.tiltCloudError "Auth0 login returned no access_token.")
  else
    let store ← fetchStore python transport accessToken
    parseStore python store includeBridges

theorem translated_devicesOfTokens_iff (includeBridges : Bool) (fields : List (Text × Json)) :
    Translated (devicesOfTokens python transport includeBridges (.dict fields)) ↔
      ((Json.valueOf fields "access_token").truthy = true →
        TokenReadable python transport includeBridges (Json.valueOf fields "access_token")) := by
  rw [devicesOfTokens, get_dict, ← translated_storeDevices_iff]
  simp only [bind, Except.bind]
  cases truthy : (Json.valueOf fields "access_token").truthy with
  | true => simp
  | false => simp

theorem translated_login_iff (includeBridges : Bool) (username password : Text) :
    Translated (login python transport username password >>=
        devicesOfTokens python transport includeBridges) ↔
      LoginOutcomeReadable python transport includeBridges
        (transport.post auth0TokenUrl (loginPayload username password)) := by
  unfold login postJson
  cases transport.post auth0TokenUrl (loginPayload username password) with
  | urlError reason => simp [Outcome.read, bind, Except.bind, LoginOutcomeReadable]
  | httpError code reason body =>
      simp only [LoginOutcomeReadable, ← translated_auth0Failure_iff python code reason]
      cases failure : auth0Failure python code reason body with
      | error error => simp [Outcome.read, bind, Except.bind, failure, translated_error_iff]
      | ok error => simp [Outcome.read, bind, Except.bind, failure, translated_error_iff]
  | reply body =>
      rcases loadsBody_cases python body with
        ⟨document, loaded, isDocument⟩ | ⟨⟨error, failed⟩, raises | raises⟩
      · simp only [Outcome.read, bind, Except.bind, LoginOutcomeReadable, loaded, isDocument]
        cases document with
        | dict fields => exact translated_devicesOfTokens_iff python transport includeBridges fields
        | _ => simp [devicesOfTokens, get, getOr, bind, Except.bind, translated_error_iff]
      · simp [Outcome.read, bind, Except.bind, LoginOutcomeReadable, failed, raises,
          translated_error_iff]
      · simp [Outcome.read, bind, Except.bind, LoginOutcomeReadable, failed, raises,
          translated_error_iff]

/-- A call returns or raises `TiltCloudError` exactly if its exchanges can be read: each
document is an object where one is accessed, every list holds objects, and the token
can be sent. -/
theorem fetchDevices_translated_iff (username password accessToken : Option Text)
    (includeBridges : Bool) :
    Translated (fetchDevices python transport username password accessToken includeBridges) ↔
      ExchangesReadable python transport username password accessToken includeBridges := by
  unfold ExchangesReadable
  cases accessToken with
  | some accessToken =>
      exact translated_storeDevices_iff python transport includeBridges (.string accessToken)
  | none =>
      rcases credentials_cases username password with ⟨name, secret, given⟩ | ⟨message, missing⟩
      · have call : fetchDevices python transport username password none includeBridges =
            login python transport name secret >>=
              devicesOfTokens python transport includeBridges := by
          simp only [fetchDevices, given]
          rfl
        rw [call, translated_login_iff]
        simp [given]
      · have call : fetchDevices python transport username password none includeBridges =
            .error (.tiltCloudError message) := by
          simp only [fetchDevices, missing]
          rfl
        rw [call]
        simp [missing]

/-- A library that is given nothing but bytes that are no JSON. -/
def noJson : Library := .ascii fun _ => .error .valueError

/-- Each exchange is answered by `b"<html>"`. -/
def htmlTransport : Transport where
  post _ _ := .reply [0x3C, 0x68, 0x74, 0x6D, 0x6C, 0x3E]
  get _ _ := .reply [0x3C, 0x68, 0x74, 0x6D, 0x6C, 0x3E]

/-- A login that is answered by a page of HTML raises `ValueError`. -/
theorem fetchDevices_raises_valueError :
    fetchDevices noJson htmlTransport (some "user") (some "secret") none false =
        .error .valueError ∧
      ¬ Translated
        (fetchDevices noJson htmlTransport (some "user") (some "secret") none false) := by
  have raises : fetchDevices noJson htmlTransport (some "user") (some "secret") none false =
      .error .valueError := rfl
  refine ⟨raises, ?_⟩
  rw [raises, translated_error_iff]
  rintro ⟨_, impossible⟩
  cases impossible

end TiltCloud

end SmartblindsBle
