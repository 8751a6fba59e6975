import SmartblindsBle.Cloud.Report

/-! # The report does not depend on secrets

Two runs of `diagnose` on accounts that differ in the password, in tokens and in keys of
the same length print the same report.
-/

namespace SmartblindsBle

open Foundation

namespace TiltCloud

/-! ## Documents that differ in secrets -/

def tokenNames : List Text := ["access_token", "id_token", "refresh_token"]

/-- A token may be any other text that is not empty. -/
def TokensDiffer (name : Text) (value other : Json) : Prop :=
  name ∈ tokenNames ∧ ∃ token otherToken : Text,
    value = .string token ∧ other = .string otherToken ∧ token ≠ [] ∧ otherToken ≠ []

/-- A key may be any other text of the same length. -/
def KeysDiffer (name : Text) (value other : Json) : Prop :=
  name = Text.ofString "pairingKey" ∧ ∃ key otherKey : Text,
    value = .string key ∧ other = .string otherKey ∧ key.length = otherKey.length

abbrev EntriesAgree : Json → Json → Prop := ObjectsAgree KeysDiffer

/-- The entries of a room may differ in their keys. -/
def GroupsDiffer (name : Text) (value other : Json) : Prop :=
  name ∈ [Text.ofString "rollerShades", Text.ofString "bridges"] ∧
    ListsAgree EntriesAgree value other

abbrev RoomsAgree : Json → Json → Prop := ObjectsAgree GroupsDiffer

def RoomListsDiffer (name : Text) (value other : Json) : Prop :=
  name = Text.ofString "rooms" ∧ ListsAgree RoomsAgree value other

abbrev StoresAgree : Json → Json → Prop := ObjectsAgree RoomListsDiffer

abbrev TokenResponsesAgree : Json → Json → Prop := ObjectsAgree TokensDiffer

theorem get_agree {mayDiffer : Text → Json → Json → Prop} {value other : Json}
    (agree : ObjectsAgree mayDiffer value other) (name : Text) :
    ResultsAgree (fun found otherFound => found = otherFound ∨ mayDiffer name found otherFound)
      (get value name) (get other name) := by
  cases agree with
  | same => exact .refl (fun _ => .inl rfl) _
  | dict fieldsAgree => exact .ok (fieldsAgree.valueOf name)

/-! ## The lines -/

variable (python : Library)

theorem collect_agree {Item Other Result : Type} {agree : Item → Other → Prop}
    {visit : Item → CloudRaises (List Result)} {otherVisit : Other → CloudRaises (List Result)}
    (same : ∀ item other, agree item other → visit item = otherVisit other)
    {items : List Item} {others : List Other} (every : List.Forall₂ agree items others) :
    collect visit items = collect otherVisit others := by
  induction every with
  | nil => rfl
  | cons first _ induction => rw [collect, collect, same _ _ first, induction]

/-- Values that are looped over: the same, or lists that agree. -/
def LoopsAgree (agree : Json → Json → Prop) (value other : Json) : Prop :=
  value = other ∨ ListsAgree agree value other

theorem LoopsAgree.len {agree : Json → Json → Prop} {value other : Json}
    (loops : LoopsAgree agree value other) :
    len (value.orElse (.list [])) = len (other.orElse (.list [])) := by
  rcases loops with rfl | lists
  · rfl
  · cases lists with
    | list every =>
        cases every with
        | nil => rfl
        | cons _ rest => simp [Json.orElse, Json.truthy, TiltCloud.len, rest.length_eq]

theorem LoopsAgree.iterate {agree : Json → Json → Prop} (reflexive : ∀ value, agree value value)
    {value other : Json} (loops : LoopsAgree agree value other) :
    ResultsAgree (List.Forall₂ agree) (iterate (value.orElse (.list [])))
      (iterate (other.orElse (.list []))) := by
  rcases loops with rfl | lists
  · exact ResultsAgree.refl (fun items => List.forall₂_same.mpr fun item _ => reflexive item) _
  · cases lists with
    | list every =>
        cases every with
        | nil => exact .ok .nil
        | cons first rest => exact .ok (.cons first rest)

theorem KeysDiffer.len {name : Text} {value other : Json} (differ : KeysDiffer name value other) :
    len (value.orElse (.string [])) = len (other.orElse (.string [])) := by
  rcases differ with ⟨_, key, otherKey, rfl, rfl, sameLength⟩
  cases key with
  | nil =>
      cases otherKey with
      | nil => rfl
      | cons point rest => cases sameLength
  | cons point rest =>
      cases otherKey with
      | nil => cases sameLength
      | cons otherPoint otherRest =>
          simpa [Json.orElse, Json.truthy, TiltCloud.len] using sameLength

theorem entryLine_agree {entry other : Json} (agree : EntriesAgree entry other) :
    entryLine python entry = entryLine python other := by
  cases agree with
  | same => rfl
  | @dict fields others fieldsAgree =>
      have name := fieldsAgree.valueOf_eq "name" fun _ _ differ =>
        absurd differ.1 (by decide)
      have id := fieldsAgree.valueOf_eq "id" fun _ _ differ =>
        absurd differ.1 (by decide)
      have keyLength : len ((Json.valueOf fields "pairingKey").orElse (.string [])) =
          len ((Json.valueOf others "pairingKey").orElse (.string [])) := by
        rcases fieldsAgree.valueOf "pairingKey" with same | differ
        · rw [same]
        · exact differ.len
      simp only [entryLine, get_dict, bind, Except.bind, name, id, keyLength]

theorem roomLines_agree {room other : Json} (agree : RoomsAgree room other) :
    roomLines python room = roomLines python other := by
  cases agree with
  | same => rfl
  | @dict fields others fieldsAgree =>
      have name := fieldsAgree.valueOf_eq "name" fun _ _ differ =>
        absurd differ.1 (by decide)
      have shades : LoopsAgree EntriesAgree (Json.valueOf fields "rollerShades")
          (Json.valueOf others "rollerShades") :=
        (fieldsAgree.valueOf "rollerShades").imp_right fun differ => differ.2
      have bridges : LoopsAgree EntriesAgree (Json.valueOf fields "bridges")
          (Json.valueOf others "bridges") :=
        (fieldsAgree.valueOf "bridges").imp_right fun differ => differ.2
      have entryAgrees : ∀ entry, EntriesAgree entry entry := .same
      simp only [roomLines, get_dict, ok_bind, name, shades.len, bridges.len]
      apply ResultsAgree.eq
      apply (ResultsAgree.of_eq rfl).bind
      rintro shadeCount _ rfl
      apply (ResultsAgree.of_eq rfl).bind
      rintro bridgeCount _ rfl
      apply (shades.iterate entryAgrees).bind
      intro shadeItems otherShades shadesAgree
      apply (bridges.iterate entryAgrees).bind
      intro bridgeItems otherBridges bridgesAgree
      have entries : collect (entryLine python) (shadeItems ++ bridgeItems) =
          collect (entryLine python) (otherShades ++ otherBridges) :=
        collect_agree (fun _ _ agree => entryLine_agree python agree)
          (List.rel_append shadesAgree bridgesAgree)
      rw [entries]
      exact .of_eq rfl

theorem storeLines_agree {store other : Json} (agree : StoresAgree store other) :
    storeLines python store = storeLines python other := by
  cases agree with
  | same => rfl
  | @dict fields others fieldsAgree =>
      have rooms : LoopsAgree RoomsAgree (Json.valueOf fields "rooms")
          (Json.valueOf others "rooms") :=
        (fieldsAgree.valueOf "rooms").imp_right fun differ => differ.2
      simp only [storeLines, printNames, fieldsAgree.names, rooms.len]
      apply ResultsAgree.eq
      apply (ResultsAgree.of_eq rfl).bind
      rintro roomCount _ rfl
      apply (rooms.iterate .same).bind
      intro items otherItems roomsAgree
      have lines : collect (roomLines python) items = collect (roomLines python) otherItems :=
        collect_agree (fun _ _ agree => roomLines_agree python agree) roomsAgree
      rw [lines]
      exact .of_eq rfl

theorem tokenLines_agree {tokens other : Json} (agree : TokenResponsesAgree tokens other) :
    tokenLines python tokens = tokenLines python other := by
  cases agree with
  | same => rfl
  | @dict fields others fieldsAgree =>
      have tokenType := fieldsAgree.valueOf_eq "token_type" fun _ _ differ =>
        absurd differ.1 (by decide)
      have expiresIn := fieldsAgree.valueOf_eq "expires_in" fun _ _ differ =>
        absurd differ.1 (by decide)
      have scope := fieldsAgree.valueOf_eq "scope" fun _ _ differ =>
        absurd differ.1 (by decide)
      simp only [tokenLines, printNames, fieldsAgree.names, tokenType, expiresIn, scope]

/-! ## The exchanges -/

/-- The same outcome, or replies with documents that agree. -/
inductive OutcomesAgree (agree : Json → Json → Prop) : Outcome → Outcome → Prop
  | same (outcome : Outcome) : OutcomesAgree agree outcome outcome
  | reply {body otherBody : Bytes} {document other : Json}
      (loads : python.loads body = .ok document)
      (otherLoads : python.loads otherBody = .ok other) (agrees : agree document other) :
      OutcomesAgree agree (.reply body) (.reply otherBody)

/-- The document of an outcome. -/
def Outcome.document (outcome : Outcome) : CloudRaises Json := do
  let body ← outcome.read
  python.loadsBody body

theorem OutcomesAgree.document {agree : Json → Json → Prop}
    (reflexive : ∀ value, agree value value) {outcome other : Outcome}
    (agrees : OutcomesAgree python agree outcome other) :
    ResultsAgree agree (outcome.document python) (other.document python) := by
  cases agrees with
  | same => exact .refl reflexive _
  | reply loads otherLoads documents =>
      simp only [Outcome.document, Outcome.read, ok_bind, Library.loadsBody, loads, otherLoads]
      exact .ok documents

/-- A run of `diagnose`: its arguments and the outcomes of its exchanges. -/
structure Run where
  username : Option Text
  password : Option Text
  accessToken : Option Text
  login : Outcome
  store : Outcome

namespace Run

def transport (run : Run) : Transport where
  post _ _ := run.login
  get _ _ := run.store

/-- What `diagnose` returns or raises. -/
def report (run : Run) : CloudRaises Text :=
  diagnose python run.transport run.username run.password run.accessToken

end Run

/-- Two runs that differ in secrets: in the password, in the token that is given, in the
tokens of the login and in the keys of the store. -/
structure RunsAgree (run other : Run) : Prop where
  username : run.username = other.username
  password : run.password.isSome = other.password.isSome
  accessToken : run.accessToken.isSome = other.accessToken.isSome
  login : OutcomesAgree python TokenResponsesAgree run.login other.login
  store : OutcomesAgree python StoresAgree run.store other.store

theorem login_agree {run other : Run} (agree : RunsAgree python run other)
    (username password otherPassword : Text) :
    ResultsAgree TokenResponsesAgree (login python run.transport username password)
      (login python other.transport username otherPassword) := by
  have posted : ResultsAgree TokenResponsesAgree
      (postJson python run.transport auth0TokenUrl (loginPayload username password))
      (postJson python other.transport auth0TokenUrl (loginPayload username otherPassword)) :=
    agree.login.document python .same
  unfold login
  revert posted
  generalize postJson python run.transport auth0TokenUrl (loginPayload username password) = result
  generalize postJson python other.transport auth0TokenUrl
    (loginPayload username otherPassword) = otherResult
  intro posted
  cases posted with
  | ok agrees => exact .ok agrees
  | error error => exact .refl .same _

theorem fetchStore_agree {run other : Run} (agree : RunsAgree python run other)
    {accessToken otherToken : Json}
    (legal : legalHeaderValue (bearerHeader python accessToken) = true)
    (otherLegal : legalHeaderValue (bearerHeader python otherToken) = true) :
    ResultsAgree StoresAgree (fetchStore python run.transport accessToken)
      (fetchStore python other.transport otherToken) := by
  have got : ResultsAgree StoresAgree (getJson python run.transport tiltStoreUrl accessToken)
      (getJson python other.transport tiltStoreUrl otherToken) := by
    rw [getJson_legal python run.transport legal, getJson_legal python other.transport otherLegal]
    exact agree.store.document python .same
  unfold fetchStore
  revert got
  generalize getJson python run.transport tiltStoreUrl accessToken = result
  generalize getJson python other.transport tiltStoreUrl otherToken = otherResult
  intro got
  cases got with
  | ok agrees =>
      cases agrees with
      | same => exact .refl .same _
      | dict fieldsAgree => exact .ok (.dict fieldsAgree)
  | error error => exact .refl .same _

/-- The same result, unless a token cannot be sent. -/
def SameUnlessUnsendable (report otherReport : CloudRaises Text) : Prop :=
  report = otherReport ∨ report = .error .valueError ∨ otherReport = .error .valueError

theorem storeReport_illegal (transport : Transport) (lines : List Text) {accessToken : Json}
    (illegal : legalHeaderValue (bearerHeader python accessToken) = false) :
    storeReport python transport lines accessToken = .error .valueError := by
  rw [storeReport, fetchStore, getJson_illegal python transport illegal]
  rfl

theorem storeReport_agree {run other : Run} (agree : RunsAgree python run other)
    (lines : List Text) (accessToken otherToken : Json) :
    SameUnlessUnsendable (storeReport python run.transport lines accessToken)
      (storeReport python other.transport lines otherToken) := by
  cases legal : legalHeaderValue (bearerHeader python accessToken) with
  | false => exact .inr (.inl (storeReport_illegal python run.transport lines legal))
  | true =>
      cases otherLegal : legalHeaderValue (bearerHeader python otherToken) with
      | false => exact .inr (.inr (storeReport_illegal python other.transport lines otherLegal))
      | true =>
          left
          apply ResultsAgree.eq
          apply (fetchStore_agree python agree legal otherLegal).bind
          intro store otherStore storesAgree
          rw [storeLines_agree python storesAgree]
          exact .of_eq rfl

theorem TokensDiffer.truthy {name : Text} {value other : Json}
    (differ : TokensDiffer name value other) : value.truthy = other.truthy := by
  rcases differ with ⟨_, token, otherToken, rfl, rfl, given, otherGiven⟩
  rw [Json.truthy, Json.truthy, List.isEmpty_eq_false_iff.mpr given,
    List.isEmpty_eq_false_iff.mpr otherGiven]

theorem tokenReport_agree {run other : Run} (agree : RunsAgree python run other)
    {tokens otherTokens : Json} (tokensAgree : TokenResponsesAgree tokens otherTokens) :
    SameUnlessUnsendable (tokenReport python run.transport tokens)
      (tokenReport python other.transport otherTokens) := by
  unfold tokenReport
  rw [tokenLines_agree python tokensAgree]
  have found := get_agree tokensAgree "access_token"
  revert found
  generalize get tokens (Text.ofString "access_token") = result
  generalize get otherTokens (Text.ofString "access_token") = otherResult
  intro found
  cases tokenLines python otherTokens with
  | error error => exact .inl rfl
  | ok lines =>
      cases found with
      | error error => exact .inl rfl
      | @ok token otherToken agrees =>
          have sameTruth : token.truthy = otherToken.truthy := by
            rcases agrees with rfl | differ
            · rfl
            · exact differ.truthy
          simp only [ok_bind, sameTruth]
          split
          · exact .inl rfl
          · exact storeReport_agree python agree lines token otherToken

theorem credentials_agree (username : Option Text) {password otherPassword : Option Text}
    (sameGiven : password.isSome = otherPassword.isSome) :
    ResultsAgree (fun given otherGiven => given.1 = otherGiven.1)
      (credentials username password) (credentials username otherPassword) := by
  cases password with
  | none =>
      cases otherPassword with
      | none =>
          apply ResultsAgree.refl
          intro given
          rfl
      | some otherPassword => cases sameGiven
  | some password =>
      cases otherPassword with
      | none => cases sameGiven
      | some otherPassword =>
          cases username with
          | none => exact .error _
          | some username =>
              simp only [credentials]
              split
              · exact .error _
              · exact .ok rfl

theorem loginReport_agree {run other : Run} (agree : RunsAgree python run other)
    (username password otherPassword : Text) :
    SameUnlessUnsendable
      (login python run.transport username password >>= tokenReport python run.transport)
      (login python other.transport username otherPassword >>=
        tokenReport python other.transport) := by
  have loggedIn := login_agree python agree username password otherPassword
  revert loggedIn
  generalize login python run.transport username password = result
  generalize login python other.transport username otherPassword = otherResult
  intro loggedIn
  cases loggedIn with
  | error error => exact .inl rfl
  | ok tokensAgree => exact tokenReport_agree python agree tokensAgree

theorem report_agree {run other : Run} (agree : RunsAgree python run other) :
    SameUnlessUnsendable (run.report python) (other.report python) := by
  have sameGiven := agree.accessToken
  unfold Run.report diagnose
  cases given : run.accessToken with
  | some accessToken =>
      cases otherGiven : other.accessToken with
      | some otherToken => exact storeReport_agree python agree [] _ _
      | none => simp [given, otherGiven] at sameGiven
  | none =>
      cases otherGiven : other.accessToken with
      | some otherToken => simp [given, otherGiven] at sameGiven
      | none =>
          have provided := credentials_agree run.username agree.password
          rw [agree.username] at provided ⊢
          revert provided
          generalize credentials other.username run.password = result
          generalize credentials other.username other.password = otherResult
          intro provided
          cases provided with
          | error error => exact .inl rfl
          | @ok credential otherCredential sameName =>
              rcases credential with ⟨username, password⟩
              rcases otherCredential with ⟨_, otherPassword⟩
              cases sameName
              exact loginReport_agree python agree username password otherPassword

/-- Two accounts that differ in secrets only have the same report; and whatever the one
run ends with, the other one ends with, unless a token cannot be sent. -/
theorem diagnose_revealsNoSecret {run other : Run} (agree : RunsAgree python run other) :
    (∀ report otherReport, run.report python = .ok report → other.report python = .ok otherReport →
        report = otherReport) ∧
      SameUnlessUnsendable (run.report python) (other.report python) := by
  have same := report_agree python agree
  refine ⟨?_, same⟩
  intro report otherReport returns otherReturns
  rw [SameUnlessUnsendable, returns, otherReturns] at same
  rcases same with equal | raises | raises
  · exact Except.ok.inj equal
  · cases raises
  · cases raises

/-! ### Two accounts -/

def asciiBytes (text : String) : Bytes := text.toList.map fun value => UInt8.ofNat value.toNat

def tokenBody (token : String) : Bytes :=
  asciiBytes "\x7b\"access_token\": \"" ++ asciiBytes token ++ asciiBytes "\"\x7d"

def tokenDocument (token : Text) : Json := .dict [("access_token", .string token)]

def storeBody (key : String) : Bytes :=
  asciiBytes "\x7b\"rooms\": [\x7b\"rollerShades\": [\x7b\"pairingKey\": \"" ++ asciiBytes key ++
    asciiBytes "\"\x7d]\x7d]\x7d"

def storeDocument (key : Text) : Json :=
  .dict [("rooms", .list [.dict [("rollerShades", .list [.dict [("pairingKey", .string key)]])]])]

/-- A library that is given the documents of two accounts. -/
def twoAccounts : Library :=
  .ascii fun body =>
    if body = tokenBody "t1" then .ok (tokenDocument "t1")
    else if body = tokenBody "t2" then .ok (tokenDocument "t2")
    else if body = storeBody "6be8" then .ok (storeDocument "6be8")
    else if body = storeBody "2ee2" then .ok (storeDocument "2ee2")
    else .error .valueError

def accountRun (password : Text) (token key : String) : Run where
  username := some "user"
  password := some password
  accessToken := none
  login := .reply (tokenBody token)
  store := .reply (storeBody key)

theorem diagnose_revealsNoSecret_twoAccounts :
    SameUnlessUnsendable ((accountRun "one" "t1" "6be8").report twoAccounts)
      ((accountRun "two" "t2" "2ee2").report twoAccounts) := by
  have sameLength : (Text.ofString "6be8").length = (Text.ofString "2ee2").length := by decide
  have entries : ListsAgree EntriesAgree
      (.list [.dict [("pairingKey", .string "6be8")]])
      (.list [.dict [("pairingKey", .string "2ee2")]]) :=
    .list (.cons (.dict (.cons ⟨rfl, .inr ⟨rfl, _, _, rfl, rfl, sameLength⟩⟩ .nil)) .nil)
  have rooms : ListsAgree RoomsAgree
      (.list [.dict [("rollerShades", .list [.dict [("pairingKey", .string "6be8")]])]])
      (.list [.dict [("rollerShades", .list [.dict [("pairingKey", .string "2ee2")]])]]) :=
    .list (.cons (.dict (.cons ⟨rfl, .inr ⟨List.mem_cons_self .., entries⟩⟩ .nil)) .nil)
  have stores : StoresAgree (storeDocument "6be8") (storeDocument "2ee2") :=
    .dict (.cons ⟨rfl, .inr ⟨rfl, rooms⟩⟩ .nil)
  have tokens : TokenResponsesAgree (tokenDocument "t1") (tokenDocument "t2") :=
    .dict (.cons ⟨rfl, .inr ⟨List.mem_cons_self .., _, _, rfl, rfl, by decide, by decide⟩⟩ .nil)
  have otherToken : tokenBody "t2" ≠ tokenBody "t1" := by decide
  have noToken : storeBody "6be8" ≠ tokenBody "t1" ∧ storeBody "6be8" ≠ tokenBody "t2" ∧
      storeBody "2ee2" ≠ tokenBody "t1" ∧ storeBody "2ee2" ≠ tokenBody "t2" := by decide
  have otherStore : storeBody "2ee2" ≠ storeBody "6be8" := by decide
  have agree : RunsAgree twoAccounts (accountRun "one" "t1" "6be8")
      (accountRun "two" "t2" "2ee2") := by
    refine ⟨rfl, ?_, rfl, .reply ?_ ?_ tokens, .reply ?_ ?_ stores⟩
    · simp [accountRun]
    · simp [twoAccounts, Library.ascii]
    · simp [twoAccounts, Library.ascii, otherToken]
    · simp [twoAccounts, Library.ascii, noToken]
    · simp [twoAccounts, Library.ascii, noToken, otherStore]
  exact (diagnose_revealsNoSecret twoAccounts agree).2

end TiltCloud

end SmartblindsBle
