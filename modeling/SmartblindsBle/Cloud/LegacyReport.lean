import SmartblindsBle.Cloud.LegacyCloud
import SmartblindsBle.Foundation.TwoRuns

/-! # The report on a legacy account

`diagnose` tries both tokens of a login and prints what each of them exposes. Of a token it
tells whether it is there, and of a passkey its length.
-/

namespace SmartblindsBle

open Foundation

namespace LegacyCloud

section Report

-- The text is `str(exc)`.
variable (packages : Packages) (python : LegacyLibrary) (exceptionText : LegacyException → Text)

/-! ## The lines -/

def len : Json → LegacyRaises Nat
  | .list items => .ok items.length
  | .string value => .ok value.length
  | .dict fields => .ok fields.length
  | _ => .error .typeError

def printNat (number : Nat) : Text := Text.ofString (toString number)

/-- `'null' if value is None else len(value)`. -/
def countText : Json → LegacyRaises Text
  | .null => .ok "null"
  | value => do
      let count ← len value
      return printNat count

def blindLine (entry : Json) : LegacyRaises Text := do
  let passkey ← get entry "encodedPasskey"
  let name ← subscript entry "name"
  let deleted ← subscript entry "deleted"
  let length ← len (passkey.orElse (.string []))
  return "    " ++ name.repr python.tables ++ " deleted=" ++ deleted.str python.tables ++
    " passkey_len=" ++ printNat length

def errorLines (errors : Json) : List Text :=
  if errors.truthy then ["  errors: " ++ errors.str python.tables] else []

/-- The lines about a user. -/
def userLines (user errors : Json) : LegacyRaises (List Text) := do
  let rooms ← get user "rooms"
  let blinds ← get user "blinds"
  let roomCount ← countText rooms
  let blindCount ← countText blinds
  let entries ← iterate (blinds.orElse (.list []))
  let lines ← entries.mapM (blindLine python)
  return errorLines python errors ++
    ["  user present: " ++ (Json.bool user.truthy).str python.tables, "  rooms: " ++ roomCount,
      "  blinds: " ++ blindCount] ++ lines

/-- The lines about the reply to the query. -/
def documentLines (document : Json) : LegacyRaises (List Text) := do
  let data ← get document "data"
  let user ← get (data.orElse (.dict [])) "user"
  let errors ← get document "errors"
  userLines python (user.orElse (.dict [])) errors

/-- One pass of the loop over the tokens. -/
def tokenLines (tokens : List (Text × Json)) (token : Text) : LegacyRaises (List Text) :=
  if (Json.valueOf tokens token).truthy then
    match graphql packages python tokens token userQuery with
    | .ok document => do
        let lines ← documentLines python document
        return ("\n[" ++ token ++ "]") :: lines
    | .error error => .ok ["\n[" ++ token ++ "] request failed: " ++ exceptionText error]
  else .ok ["\n[" ++ token ++ "] not present"]

def headerLines (tokens : List (Text × Json)) : List Text :=
  ["token keys: [" ++ Text.join ", " (tokens.map fun field => python.tables.quote field.1) ++ "]",
    "token_type: " ++ (Json.valueOf tokens "token_type").str python.tables]

/-- `diagnose`. -/
def diagnose (username password : Text) : LegacyRaises Text := do
  let tokens ← packages.login username password
  let idLines ← tokenLines packages python exceptionText tokens "id_token"
  let accessLines ← tokenLines packages python exceptionText tokens "access_token"
  return Text.join "\n" (headerLines python tokens ++ idLines ++ accessLines)

end Report

/-! ## Accounts that differ in secrets -/

/-- A token, or what else the login returns, may be another value, unless it is printed or the
one is there and the other is not. -/
def TokensDiffer (name : Text) (value other : Json) : Prop :=
  name ≠ Text.ofString "token_type" ∧ value.truthy = other.truthy

/-- A passkey may be any other text of the same length; and what is not printed may be any
other value. -/
def BlindsDiffer (name : Text) (value other : Json) : Prop :=
  (name = Text.ofString "encodedPasskey" ∧ ∃ passkey otherPasskey : Text,
    value = .string passkey ∧ other = .string otherPasskey ∧
      passkey.length = otherPasskey.length) ∨
  name ∉ [Text.ofString "encodedPasskey", Text.ofString "name", Text.ofString "deleted"]

abbrev BlindsAgree : Json → Json → Prop := ObjectsAgree BlindsDiffer

/-- Of the rooms only the number is printed. -/
def UsersDiffer (name : Text) (value other : Json) : Prop :=
  (name = Text.ofString "rooms" ∧ ListsAgree (fun _ _ => True) value other) ∨
  (name = Text.ofString "blinds" ∧ ListsAgree BlindsAgree value other) ∨
  name ∉ [Text.ofString "rooms", Text.ofString "blinds"]

abbrev UsersAgree : Json → Json → Prop := ObjectsAgree UsersDiffer

def DataDiffer (name : Text) (value other : Json) : Prop :=
  name = Text.ofString "user" → UsersAgree value other

abbrev DataAgree : Json → Json → Prop := ObjectsAgree DataDiffer

def DocumentsDiffer (name : Text) (value other : Json) : Prop :=
  name ≠ Text.ofString "errors" ∧ (name = Text.ofString "data" → DataAgree value other)

abbrev DocumentsAgree : Json → Json → Prop := ObjectsAgree DocumentsDiffer

section Agreement

variable (python : LegacyLibrary)

theorem get_agree {mayDiffer : Text → Json → Json → Prop} {value other : Json}
    (agree : ObjectsAgree mayDiffer value other) (name : Text) :
    ResultsAgree (fun found otherFound => found = otherFound ∨ mayDiffer name found otherFound)
      (get value name) (get other name) := by
  cases agree with
  | same => exact .refl (fun _ => .inl rfl) _
  | dict fieldsAgree => exact .ok (fieldsAgree.valueOf name)

theorem get_eq {mayDiffer : Text → Json → Json → Prop} {value other : Json}
    (agree : ObjectsAgree mayDiffer value other) {name : Text}
    (fixed : ∀ found otherFound, ¬mayDiffer name found otherFound) :
    get value name = get other name := by
  cases agree with
  | same => rfl
  | dict fieldsAgree => exact congrArg Except.ok (fieldsAgree.valueOf_eq name fixed)

theorem subscript_eq {mayDiffer : Text → Json → Json → Prop} {value other : Json}
    (agree : ObjectsAgree mayDiffer value other) {name : Text}
    (fixed : ∀ found otherFound, ¬mayDiffer name found otherFound) :
    subscript value name = subscript other name := by
  cases agree with
  | same => rfl
  | @dict fields others fieldsAgree =>
      have found := fieldsAgree.lookup_eq name fixed
      unfold subscript
      simp only [found]

theorem len_passkey {value other : Json}
    (agree : value = other ∨ BlindsDiffer "encodedPasskey" value other) :
    len (value.orElse (.string [])) = len (other.orElse (.string [])) := by
  rcases agree with rfl | ⟨_, passkey, otherPasskey, rfl, rfl, sameLength⟩ | printed
  · rfl
  · cases passkey with
    | nil =>
        cases otherPasskey with
        | nil => rfl
        | cons point rest => cases sameLength
    | cons point rest =>
        cases otherPasskey with
        | nil => cases sameLength
        | cons otherPoint otherRest => exact congrArg Except.ok sameLength
  · exact absurd (List.mem_cons_self ..) printed

theorem blindLine_agree {entry other : Json} (agree : BlindsAgree entry other) :
    blindLine python entry = blindLine python other := by
  have printed : ∀ name ∈ [Text.ofString "name", Text.ofString "deleted"],
      ∀ found otherFound, ¬BlindsDiffer name found otherFound := by
    intro name member found otherFound differ
    rcases differ with ⟨isPasskey, _⟩ | notPrinted
    · subst isPasskey
      exact absurd member (by decide)
    · exact notPrinted (List.mem_cons_of_mem _ member)
  have name := subscript_eq agree (printed "name" (by decide))
  have deleted := subscript_eq agree (printed "deleted" (by decide))
  rw [blindLine, blindLine, name, deleted]
  apply ResultsAgree.eq
  apply (get_agree agree "encodedPasskey").bind
  intro passkey otherPasskey passkeys
  rw [len_passkey passkeys]
  exact .of_eq rfl

theorem mapM_agree {Item Other Result : Type} {agree : Item → Other → Prop}
    {visit : Item → LegacyRaises Result} {otherVisit : Other → LegacyRaises Result}
    (same : ∀ item other, agree item other → visit item = otherVisit other)
    {items : List Item} {others : List Other} (every : List.Forall₂ agree items others) :
    items.mapM visit = others.mapM otherVisit := by
  induction every with
  | nil => rfl
  | cons first _ induction => rw [List.mapM_cons, List.mapM_cons, same _ _ first, induction]

theorem countText_agree {agree : Json → Json → Prop} {value other : Json}
    (lists : value = other ∨ ListsAgree agree value other) : countText value = countText other := by
  rcases lists with rfl | lists
  · rfl
  · cases lists with
    | list every => simp only [countText, len, every.length_eq]

theorem iterate_agree {agree : Json → Json → Prop} (reflexive : ∀ value, agree value value)
    {value other : Json} (lists : value = other ∨ ListsAgree agree value other) :
    ResultsAgree (List.Forall₂ agree) (iterate (value.orElse (.list [])))
      (iterate (other.orElse (.list []))) := by
  rcases lists with rfl | lists
  · exact .refl (fun items => List.forall₂_same.mpr fun item _ => reflexive item) _
  · cases lists with
    | list every =>
        cases every with
        | nil => exact .ok .nil
        | cons first rest => exact .ok (.cons first rest)

theorem orElse_agree {mayDiffer : Text → Json → Json → Prop} {value other : Json}
    (agree : ObjectsAgree mayDiffer value other) :
    (value.orElse (.dict [])).truthy = (other.orElse (.dict [])).truthy ∧
      ObjectsAgree mayDiffer (value.orElse (.dict [])) (other.orElse (.dict [])) := by
  cases agree with
  | same => exact ⟨rfl, .same _⟩
  | dict fieldsAgree =>
      cases fieldsAgree with
      | nil => exact ⟨rfl, .same _⟩
      | cons first rest => exact ⟨rfl, .dict (.cons first rest)⟩

theorem userLines_agree {user other : Json} (agree : UsersAgree user other)
    (sameTruth : user.truthy = other.truthy) (errors : Json) :
    userLines python user errors = userLines python other errors := by
  have rooms : ∀ value otherValue, UsersDiffer "rooms" value otherValue →
      ListsAgree (fun _ _ => True) value otherValue := by
    rintro value otherValue (⟨_, lists⟩ | ⟨isBlinds, _⟩ | other)
    · exact lists
    · exact absurd isBlinds (by decide)
    · exact absurd (List.mem_cons_self ..) other
  have blinds : ∀ value otherValue, UsersDiffer "blinds" value otherValue →
      ListsAgree BlindsAgree value otherValue := by
    rintro value otherValue (⟨isRooms, _⟩ | ⟨_, lists⟩ | other)
    · exact absurd isRooms (by decide)
    · exact lists
    · exact absurd (List.mem_cons_of_mem _ (List.mem_cons_self ..)) other
  rw [userLines, userLines, sameTruth]
  apply ResultsAgree.eq
  apply (get_agree agree "rooms").bind
  intro roomList otherRooms roomsAgree
  apply (get_agree agree "blinds").bind
  intro blindList otherBlinds blindsAgree
  rw [countText_agree (roomsAgree.imp_right (rooms _ _))]
  apply (ResultsAgree.of_eq rfl).bind
  rintro roomCount _ rfl
  rw [countText_agree (blindsAgree.imp_right (blinds _ _))]
  apply (ResultsAgree.of_eq rfl).bind
  rintro blindCount _ rfl
  apply (iterate_agree (fun value => .same value) (blindsAgree.imp_right (blinds _ _))).bind
  intro entries others entriesAgree
  have lines : entries.mapM (blindLine python) = others.mapM (blindLine python) :=
    mapM_agree (fun _ _ agree => blindLine_agree python agree) entriesAgree
  rw [lines]
  exact .of_eq rfl

theorem documentLines_agree {document other : Json} (agree : DocumentsAgree document other) :
    documentLines python document = documentLines python other := by
  have errors : get document "errors" = get other "errors" :=
    get_eq agree fun _ _ differ => differ.1 rfl
  rw [documentLines, documentLines, errors]
  apply ResultsAgree.eq
  apply (get_agree agree "data").bind
  intro data otherData dataAgree
  have agreeData : DataAgree data otherData := by
    rcases dataAgree with rfl | differ
    · exact .same _
    · exact differ.2 rfl
  apply (get_agree (orElse_agree agreeData).2 "user").bind
  intro user otherUser userAgree
  have agreeUser : UsersAgree user otherUser := by
    rcases userAgree with rfl | differ
    · exact .same _
    · exact differ rfl
  rcases orElse_agree agreeUser with ⟨sameTruth, agreeFound⟩
  apply (ResultsAgree.of_eq rfl).bind
  rintro errors _ rfl
  exact .of_eq (userLines_agree python agreeFound sameTruth errors)

end Agreement

/-! ## The report -/

/-- The same text of an exception, or replies that agree. -/
inductive RepliesAgree (exceptionText : LegacyException → Text) :
    LegacyRaises Json → LegacyRaises Json → Prop
  | ok {document other : Json} (agree : DocumentsAgree document other) :
      RepliesAgree exceptionText (.ok document) (.ok other)
  | error {error other : LegacyException} (sameText : exceptionText error = exceptionText other) :
      RepliesAgree exceptionText (.error error) (.error other)

section Runs

variable (python : LegacyLibrary) (exceptionText : LegacyException → Text)

def authorization (tokens : List (Text × Json)) (token : Text) : Text :=
  "Bearer " ++ (Json.valueOf tokens token).str python.tables

/-- The two logins return objects that differ in tokens only, and with the tokens that are there
the query is answered alike. -/
structure LoginsAgree (packages other : Packages) (tokens otherTokens : List (Text × Json)) :
    Prop where
  names : FieldsAgree TokensDiffer tokens otherTokens
  replies : ∀ token ∈ [Text.ofString "id_token", Text.ofString "access_token"],
    (Json.valueOf tokens token).truthy = true →
    RepliesAgree exceptionText (packages.post (authorization python tokens token) userQuery)
      (other.post (authorization python otherTokens token) userQuery)

theorem tokenLines_agree {packages other : Packages} {tokens otherTokens : List (Text × Json)}
    (agree : LoginsAgree python exceptionText packages other tokens otherTokens) {token : Text}
    (member : token ∈ [Text.ofString "id_token", Text.ofString "access_token"]) :
    tokenLines packages python exceptionText tokens token =
      tokenLines other python exceptionText otherTokens token := by
  have sameTruth : (Json.valueOf tokens token).truthy =
      (Json.valueOf otherTokens token).truthy := by
    rcases agree.names.valueOf token with same | differ
    · rw [same]
    · exact differ.2
  cases isThere : (Json.valueOf otherTokens token).truthy with
  | false =>
      rw [isThere] at sameTruth
      rw [tokenLines, tokenLines, isThere, sameTruth]
      rfl
  | true =>
      rw [isThere] at sameTruth
      have asked : graphql packages python tokens token userQuery =
          packages.post (authorization python tokens token) userQuery := by
        simp only [graphql, sameTruth, if_true]
        rfl
      have otherAsked : graphql other python otherTokens token userQuery =
          other.post (authorization python otherTokens token) userQuery := by
        simp only [graphql, isThere, if_true]
        rfl
      rw [tokenLines, tokenLines, isThere, sameTruth, asked, otherAsked, if_pos rfl, if_pos rfl]
      have replies := agree.replies token member sameTruth
      revert replies
      generalize packages.post (authorization python tokens token) userQuery = reply
      generalize other.post (authorization python otherTokens token) userQuery = otherReply
      intro replies
      cases replies with
      | ok documents => simp only [documentLines_agree python documents]
      | error sameText => simp only [sameText]

/-- The report does not depend on secrets. Two runs print the same report, or fail alike, if
their logins fail alike or return objects that differ in the tokens, and if the replies differ
in passkeys of the same length and in what is not printed: addresses, rooms, other fields. -/
theorem diagnose_hides_legacy_secrets (packages other : Packages)
    (username password otherUsername otherPassword : Text)
    (agree : ResultsAgree (LoginsAgree python exceptionText packages other)
      (packages.login username password) (other.login otherUsername otherPassword)) :
    diagnose packages python exceptionText username password =
      diagnose other python exceptionText otherUsername otherPassword := by
  apply ResultsAgree.eq
  apply agree.bind
  intro tokens otherTokens loginsAgree
  have tokenType := loginsAgree.names.valueOf_eq "token_type" fun _ _ differ => differ.1 rfl
  have names := loginsAgree.names.names
  have header : headerLines python tokens = headerLines python otherTokens := by
    have quoted := congrArg (List.map python.tables.quote) names
    rw [List.map_map, List.map_map] at quoted
    rw [headerLines, headerLines, tokenType]
    exact congrArg (fun quoted => ["token keys: [" ++ Text.join ", " quoted ++ "]", _]) quoted
  have idLines : tokenLines packages python exceptionText tokens "id_token" =
      tokenLines other python exceptionText otherTokens "id_token" :=
    tokenLines_agree python exceptionText loginsAgree (by decide)
  have accessLines : tokenLines packages python exceptionText tokens "access_token" =
      tokenLines other python exceptionText otherTokens "access_token" :=
    tokenLines_agree python exceptionText loginsAgree (by decide)
  rw [idLines, accessLines, header]
  exact .of_eq rfl

end Runs

/-! ### One blind -/

def leftBlind (passkey : Text) : Json :=
  .dict [("name", .string "Left"), ("encodedPasskey", .string passkey), ("deleted", .bool false)]

def leftUser (passkey : Text) : Json :=
  .dict [("rooms", .list []), ("blinds", .list [leftBlind passkey])]

def leftDocument (passkey : Text) : Json := .dict [("data", .dict [("user", leftUser passkey)])]

/-- One token, with which one blind is listed. -/
def leftPackages (token passkey : Text) : Packages where
  login _ _ := .ok [("token_type", .string "Bearer"), ("access_token", .string token)]
  post _ _ := .ok (leftDocument passkey)

theorem leftDocument_agree {passkey otherPasskey : Text}
    (sameLength : passkey.length = otherPasskey.length) :
    DocumentsAgree (leftDocument passkey) (leftDocument otherPasskey) := by
  have blind : BlindsAgree (leftBlind passkey) (leftBlind otherPasskey) :=
    .dict (.cons ⟨rfl, .inl rfl⟩
      (.cons ⟨rfl, .inr (.inl ⟨rfl, passkey, otherPasskey, rfl, rfl, sameLength⟩)⟩
        (.cons ⟨rfl, .inl rfl⟩ .nil)))
  have user : UsersAgree (leftUser passkey) (leftUser otherPasskey) :=
    .dict (.cons ⟨rfl, .inl rfl⟩
      (.cons ⟨rfl, .inr (.inr (.inl ⟨rfl, .list (.cons blind .nil)⟩))⟩ .nil))
  have data : DataAgree (.dict [("user", leftUser passkey)])
      (.dict [("user", leftUser otherPasskey)]) :=
    .dict (.cons ⟨rfl, .inr fun _ => user⟩ .nil)
  have printed : Text.ofString "data" ≠ Text.ofString "errors" := by decide
  exact .dict (.cons ⟨rfl, .inr ⟨printed, fun _ => data⟩⟩ .nil)

/-- Another token, and another passkey of four characters. -/
theorem diagnose_hides_legacy_secrets_left :
    diagnose (leftPackages "abc" "XA==") ⟨.ascii, fun _ _ => false⟩ (fun _ => []) "user"
        "password" =
      diagnose (leftPackages "vwxyz" "/w==") ⟨.ascii, fun _ _ => false⟩ (fun _ => []) "user"
        "secret" := by
  apply diagnose_hides_legacy_secrets
  refine .ok ⟨.cons ⟨rfl, .inl rfl⟩ (.cons ⟨rfl, .inr ⟨by decide, rfl⟩⟩ .nil), ?_⟩
  intro token _ _
  exact .ok (leftDocument_agree rfl)

end LegacyCloud

end SmartblindsBle
