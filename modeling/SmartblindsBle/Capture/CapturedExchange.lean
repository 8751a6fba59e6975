import SmartblindsBle.Capture.Redaction
import Mathlib.Data.List.Infix
import Mathlib.Data.List.Forall2

/-! # Captured exchanges

What is written of an exchange with the cloud: the lines of the log, and a record of
the request and the response. Secret header values and secret fields of documents are
masked; a body that is no JSON is written as it is.
-/

namespace SmartblindsBle

open Foundation

namespace Capture

/-- The number of characters, as it is printed. -/
def countText (text : Text) : Text := Text.ofString (toString text.length)

/-! ## The log -/

/-- `_mask`. -/
def maskText (tables : TextTables) (value : Json) : Text :=
  let printed := value.str tables
  if printed.length ≤ 10 then "<redacted:" ++ countText printed ++ ">"
  else printed.take 4 ++ "…" ++ printed.drop (printed.length - 4) ++ " (len " ++
    countText printed ++ ")"

def informativeWords : List String := ["mac", "name", "id", "position", "model"]

/-- `re.search(r"(mac|name|id|position|model)", name, re.IGNORECASE)`. -/
def informativeField (name : Text) : Bool :=
  informativeWords.any fun word => contains word.toList name

def fieldPath (path name : Text) : Text :=
  if path.isEmpty then name else path ++ "." ++ name

def itemPath (path : Text) (index : Nat) : Text :=
  path ++ "[" ++ Text.ofString (toString index) ++ "]"

/-- The line for one field, if there is one. -/
def hitLine (tables : TextTables) (path name : Text) (value : Json) : List Text :=
  if maskable value then
    if secretField name then
      ["[tilt]   " ++ fieldPath path name ++ " = " ++ maskText tables value]
    else if informativeField name then
      ["[tilt]   " ++ fieldPath path name ++ " = " ++ value.repr tables]
    else []
  else []

mutual

/-- `_print_hits`. -/
def printHits (tables : TextTables) (path : Text) : Json → List Text
  | .dict fields => printFieldHits tables path fields
  | .list items => printItemHits tables path 0 items
  | _ => []

def printItemHits (tables : TextTables) (path : Text) (index : Nat) : List Json → List Text
  | [] => []
  | item :: items =>
      printHits tables (itemPath path index) item ++ printItemHits tables path (index + 1) items

def printFieldHits (tables : TextTables) (path : Text) : List (Text × Json) → List Text
  | [] => []
  | (name, value) :: fields =>
      hitLine tables path name value ++ printHits tables (fieldPath path name) value ++
        printFieldHits tables path fields

end

/-! ## The record -/

/-- `value.split(" ", 1)`, if there is a space. -/
def splitSpace : Text → Option (Text × Text)
  | [] => none
  | point :: rest =>
      if point = .char ' ' then some ([], rest)
      else (splitSpace rest).map fun parts => (point :: parts.1, parts.2)

def redactHeader (name value : Text) : Text :=
  if secretField name then
    match splitSpace value with
    | some (scheme, token) => scheme ++ " <redacted:" ++ countText token ++ ">"
    | none => "<redacted:" ++ countText value ++ ">"
  else value

/-- `out[name] = value`: a name that is there keeps its place. -/
def setField (name : Text) (value : Json) : List (Text × Json) → List (Text × Json)
  | [] => [(name, value)]
  | field :: fields =>
      if field.1 = name then (name, value) :: fields else field :: setField name value fields

/-- `_redact_headers`. -/
def redactHeaders (headers : List (Text × Text)) : List (Text × Json) :=
  headers.foldl (fun out header =>
    setField header.1 (.string (redactHeader header.1 header.2)) out) []

structure HttpFlow where
  method : Text
  host : Text
  url : Text
  requestHeaders : List (Text × Text)
  /-- `request.get_text(strict=False)`. -/
  requestText : Option Text
  /-- The status and the text of the response, if there is one. -/
  response : Option (Int × Option Text)

namespace HttpFlow

def requestBody (flow : HttpFlow) : Text := flow.requestText.getD []

def responseBody (flow : HttpFlow) : Text := (flow.response.bind Prod.snd).getD []

def status (flow : HttpFlow) : Json :=
  match flow.response with
  | some (code, _) => .int code
  | none => .string "?"

end HttpFlow

def hosts : List String :=
  ["tiltsmarthome.com", "mysmartblinds.com", "mysmartblinds.auth0.com"]

section

variable (tables : TextTables) (loads : Text → Option Json)

/-- `_parse`; the document `null` is not told from a failure. -/
def parseBody (body : Text) : Option Json :=
  match loads body with
  | some .null => none
  | parsed => parsed

def savedBody (body : Text) : Json :=
  match parseBody loads body with
  | some document => redact tables document
  | none => .string (body.take 500)

def record (flow : HttpFlow) : Json :=
  .dict [
    ("request", .dict [
      ("method", .string flow.method),
      ("url", .string flow.url),
      ("headers", .dict (redactHeaders flow.requestHeaders)),
      ("body", savedBody tables loads flow.requestBody)]),
    ("response", .dict [
      ("status", flow.status),
      ("json", savedBody tables loads flow.responseBody)])]

/-- `f"{number:03d}-{method}.json"`, in the output directory. -/
def fileName (number : Nat) (flow : HttpFlow) : Text :=
  Text.ofString ("tilt-capture/" ++ "".pushn '0' (3 - (toString number).length) ++
    toString number ++ "-") ++ flow.method ++ ".json"

def bodyHits (body : Text) : List Text :=
  match parseBody loads body with
  | some document => printHits tables [] document
  | none => []

/-- The lines of the log, and the file that is written. -/
structure Captured where
  log : List Text
  file : Text
  saved : Json

/-- `response`, as the capture with this number, where the file can be written. -/
def response (number : Nat) (flow : HttpFlow) : Option Captured :=
  if hosts.any fun host => decide (Text.ofString host <:+: flow.host) then
    some {
      log := ["[tilt] " ++ flow.method ++ " " ++ flow.status.str tables ++ " " ++ flow.url] ++
        bodyHits tables loads flow.responseBody ++
        ["[tilt]   saved redacted -> " ++ fileName number flow]
      file := fileName number flow
      saved := record tables loads flow }
  else none

end

/-! ## Exchanges that differ in secrets -/

mutual

/-- The documents are the same except for values of secret fields, which are scalars that
are hidden in each other. -/
def AgreeUpTo (hidden : Json → Json → Prop) : Json → Json → Prop
  | .dict fields, .dict others => FieldsAgreeUpTo hidden fields others
  | .list items, .list others => ItemsAgreeUpTo hidden items others
  | value, other => value = other

def ItemsAgreeUpTo (hidden : Json → Json → Prop) : List Json → List Json → Prop
  | [], [] => True
  | item :: items, other :: others =>
      AgreeUpTo hidden item other ∧ ItemsAgreeUpTo hidden items others
  | _, _ => False

def FieldsAgreeUpTo (hidden : Json → Json → Prop) :
    List (Text × Json) → List (Text × Json) → Prop
  | [], [] => True
  | (name, value) :: fields, (otherName, other) :: others =>
      name = otherName ∧
        ((secretField name = true ∧ maskable value = true ∧ maskable other = true ∧
          hidden value other) ∨ AgreeUpTo hidden value other) ∧
        FieldsAgreeUpTo hidden fields others
  | _, _ => False

end

section Agreement

variable {tables : TextTables} {loads : Text → Option Json} {hidden : Json → Json → Prop}

theorem AgreeUpTo.scalar {value other : Json} (agree : AgreeUpTo hidden value other)
    (isScalar : IsScalar value) : value = other := by
  cases value with
  | list items => exact isScalar.elim
  | dict fields => exact isScalar.elim
  | _ => cases other <;> exact agree

theorem AgreeUpTo.maskable_eq {value other : Json} (agree : AgreeUpTo hidden value other) :
    maskable value = maskable other ∧ (maskable value = true → value = other) := by
  cases value with
  | list items =>
      cases other with
      | list others => exact ⟨rfl, nofun⟩
      | _ => cases agree
  | dict fields =>
      cases other with
      | dict others => exact ⟨rfl, nofun⟩
      | _ => cases agree
  | _ =>
      have same := agree.scalar trivial
      subst same
      exact ⟨rfl, fun _ => rfl⟩

/-- The values have the same printed length. -/
def SameLength (tables : TextTables) (value other : Json) : Prop :=
  (value.str tables).length = (other.str tables).length

/-- The printed values have the same length and, where they have more than ten
characters, the same four at each end. -/
structure SameEnds (tables : TextTables) (value other : Json) : Prop where
  length : SameLength tables value other
  ends : 10 < (value.str tables).length →
    (value.str tables).take 4 = (other.str tables).take 4 ∧
      (value.str tables).drop ((value.str tables).length - 4) =
        (other.str tables).drop ((other.str tables).length - 4)

theorem SameEnds.maskText_eq {value other : Json} (same : SameEnds tables value other) :
    maskText tables value = maskText tables other := by
  have length : (value.str tables).length = (other.str tables).length := same.length
  have count : countText (value.str tables) = countText (other.str tables) := by
    rw [countText, countText, length]
  unfold maskText
  simp only [← length, count]
  split
  · rfl
  · next long =>
      have ends := same.ends (Nat.lt_of_not_le long)
      rw [← length] at ends
      rw [ends.1, ends.2]

mutual

theorem redact_agree (masks : ∀ value other, hidden value other → SameLength tables value other)
    (value other : Json) (agree : AgreeUpTo hidden value other) :
    redact tables value = redact tables other := by
  cases value with
  | dict fields =>
      cases other with
      | dict others =>
          rw [redact, redact, redactFields_agree masks fields others agree]
      | _ => cases agree
  | list items =>
      cases other with
      | list others =>
          rw [redact, redact, redactItems_agree masks items others agree]
      | _ => cases agree
  | _ => rw [agree.scalar trivial]

theorem redactItems_agree
    (masks : ∀ value other, hidden value other → SameLength tables value other) :
    (items others : List Json) → ItemsAgreeUpTo hidden items others →
    redactItems tables items = redactItems tables others
  | [], [], _ => rfl
  | item :: items, other :: others, agree => by
      rw [redactItems, redactItems, redact_agree masks item other agree.1,
        redactItems_agree masks items others agree.2]
  | [], _ :: _, agree => agree.elim
  | _ :: _, [], agree => agree.elim

theorem redactFields_agree
    (masks : ∀ value other, hidden value other → SameLength tables value other) :
    (fields others : List (Text × Json)) → FieldsAgreeUpTo hidden fields others →
    redactFields tables fields = redactFields tables others
  | [], [], _ => rfl
  | (name, value) :: fields, (otherName, other) :: others, agree => by
      rcases agree with ⟨rfl, here, rest⟩
      have later := redactFields_agree masks fields others rest
      rw [redactFields, redactFields, later]
      rcases here with ⟨secret, isMaskable, otherMaskable, isHidden⟩ | same
      · rw [isMaskable, otherMaskable, secret,
          mask_congr tables (masks value other isHidden)]
        rfl
      · have kind := same.maskable_eq
        rw [kind.1, redact_agree masks value other same]
        cases isMaskable : maskable other with
        | false => rfl
        | true => rw [kind.2 (kind.1.trans isMaskable)]
  | [], _ :: _, agree => agree.elim
  | _ :: _, [], agree => agree.elim

end

theorem printHits_maskable (tables : TextTables) (path : Text) {value : Json}
    (isMaskable : maskable value = true) : printHits tables path value = [] := by
  cases value with
  | list items => cases isMaskable
  | dict fields => cases isMaskable
  | _ => rfl

theorem hitLine_secret (tables : TextTables) (path : Text) {name : Text} {value other : Json}
    (secret : secretField name = true) (isMaskable : maskable value = true)
    (otherMaskable : maskable other = true) (same : SameEnds tables value other) :
    hitLine tables path name value = hitLine tables path name other := by
  unfold hitLine
  rw [isMaskable, otherMaskable, secret, same.maskText_eq]
  rfl

theorem hitLine_agree (tables : TextTables) (path name : Text) {value other : Json}
    (agree : AgreeUpTo hidden value other) :
    hitLine tables path name value = hitLine tables path name other := by
  have kind := agree.maskable_eq
  cases isMaskable : maskable value with
  | false =>
      unfold hitLine
      rw [← kind.1, isMaskable]
      rfl
  | true => rw [kind.2 isMaskable]

mutual

theorem printHits_agree (path : Text) (value other : Json)
    (agree : AgreeUpTo (SameEnds tables) value other) :
    printHits tables path value = printHits tables path other := by
  cases value with
  | dict fields =>
      cases other with
      | dict others =>
          rw [printHits, printHits, printFieldHits_agree path fields others agree]
      | _ => cases agree
  | list items =>
      cases other with
      | list others =>
          rw [printHits, printHits, printItemHits_agree path 0 items others agree]
      | _ => cases agree
  | _ => rw [agree.scalar trivial]

theorem printItemHits_agree (path : Text) (index : Nat) :
    (items others : List Json) → ItemsAgreeUpTo (SameEnds tables) items others →
    printItemHits tables path index items = printItemHits tables path index others
  | [], [], _ => rfl
  | item :: items, other :: others, agree => by
      rw [printItemHits, printItemHits, printHits_agree (itemPath path index) item other agree.1,
        printItemHits_agree path (index + 1) items others agree.2]
  | [], _ :: _, agree => agree.elim
  | _ :: _, [], agree => agree.elim

theorem printFieldHits_agree (path : Text) :
    (fields others : List (Text × Json)) → FieldsAgreeUpTo (SameEnds tables) fields others →
    printFieldHits tables path fields = printFieldHits tables path others
  | [], [], _ => rfl
  | (name, value) :: fields, (otherName, other) :: others, agree => by
      rcases agree with ⟨rfl, here, rest⟩
      rw [printFieldHits, printFieldHits, printFieldHits_agree path fields others rest]
      rcases here with ⟨secret, isMaskable, otherMaskable, same⟩ | same
      · rw [hitLine_secret tables path secret isMaskable otherMaskable same,
          printHits_maskable tables _ isMaskable, printHits_maskable tables _ otherMaskable]
      · rw [hitLine_agree tables path name same,
          printHits_agree (fieldPath path name) value other same]
  | [], _ :: _, agree => agree.elim
  | _ :: _, [], agree => agree.elim

end

/-! ## Headers and bodies -/

/-- Two header values that are masked alike: with the same scheme and tokens of one length,
or both without a space and of one length. -/
def SameShape (value other : Text) : Prop :=
  match splitSpace value, splitSpace other with
  | some parts, some others => parts.1 = others.1 ∧ parts.2.length = others.2.length
  | none, none => value.length = other.length
  | _, _ => False

def HeadersAgree : List (Text × Text) → List (Text × Text) → Prop :=
  List.Forall₂ fun header other =>
    header.1 = other.1 ∧
      (header.2 = other.2 ∨ (secretField header.1 = true ∧ SameShape header.2 other.2))

theorem redactHeader_sameShape {name value other : Text} (secret : secretField name = true)
    (same : SameShape value other) : redactHeader name value = redactHeader name other := by
  unfold redactHeader
  rw [if_pos secret, if_pos secret]
  unfold SameShape at same
  cases first : splitSpace value with
  | none =>
      cases second : splitSpace other with
      | none =>
          rw [first, second] at same
          simp only [countText, same]
      | some others =>
          rw [first, second] at same
          exact same.elim
  | some parts =>
      cases second : splitSpace other with
      | none =>
          rw [first, second] at same
          exact same.elim
      | some others =>
          rw [first, second] at same
          simp only [countText, same.1, same.2]

theorem redactHeaders_agree {headers others : List (Text × Text)}
    (agree : HeadersAgree headers others) : redactHeaders headers = redactHeaders others := by
  have loop : ∀ out : List (Text × Json),
      headers.foldl (fun out header =>
          setField header.1 (.string (redactHeader header.1 header.2)) out) out =
        others.foldl (fun out header =>
          setField header.1 (.string (redactHeader header.1 header.2)) out) out := by
    induction agree with
    | nil => exact fun _ => rfl
    | @cons header other headers others first _ induction =>
        intro out
        rcases header with ⟨name, value⟩
        rcases other with ⟨otherName, otherValue⟩
        rcases first with ⟨rfl, same⟩
        have masked : redactHeader name value = redactHeader name otherValue := by
          rcases same with rfl | ⟨secret, sameShape⟩
          · rfl
          · exact redactHeader_sameShape secret sameShape
        rw [List.foldl_cons, List.foldl_cons, masked]
        exact induction _
  exact loop []

/-- The same text, or two documents that agree. -/
def BodiesAgree (loads : Text → Option Json) (hidden : Json → Json → Prop)
    (body other : Text) : Prop :=
  body = other ∨ ∃ document otherDocument, parseBody loads body = some document ∧
    parseBody loads other = some otherDocument ∧ AgreeUpTo hidden document otherDocument

theorem savedBody_agree {body other : Text}
    (agree : BodiesAgree loads (SameLength tables) body other) :
    savedBody tables loads body = savedBody tables loads other := by
  rcases agree with rfl | ⟨document, otherDocument, parsed, otherParsed, agree⟩
  · rfl
  · rw [savedBody, savedBody, parsed, otherParsed]
    exact redact_agree (fun _ _ => id) document otherDocument agree

theorem bodyHits_agree {body other : Text}
    (agree : BodiesAgree loads (SameEnds tables) body other) :
    bodyHits tables loads body = bodyHits tables loads other := by
  rcases agree with rfl | ⟨document, otherDocument, parsed, otherParsed, agree⟩
  · rfl
  · rw [bodyHits, bodyHits, parsed, otherParsed]
    exact printHits_agree [] document otherDocument agree

/-- The exchanges are the same except for secret headers and secret fields. -/
structure FlowsAgree (tables : TextTables) (loads : Text → Option Json)
    (flow other : HttpFlow) : Prop where
  method : flow.method = other.method
  host : flow.host = other.host
  url : flow.url = other.url
  headers : HeadersAgree flow.requestHeaders other.requestHeaders
  status : flow.status = other.status
  request : BodiesAgree loads (SameLength tables) flow.requestBody other.requestBody
  response : BodiesAgree loads (SameLength tables) flow.responseBody other.responseBody

/-- A capture hides secrets. Of two exchanges that differ only in the values of secret
headers with the same scheme and length, and in strings, numbers and booleans of one printed
length that are themselves the values of secret fields of JSON bodies, the same file is written;
and if the values in the response also have the same ends, the same lines are logged. -/
theorem response_hides_secrets (number : Nat) {flow other : HttpFlow}
    (agree : FlowsAgree tables loads flow other) :
    (response tables loads number flow).map Captured.saved =
        (response tables loads number other).map Captured.saved ∧
      (response tables loads number flow).map Captured.file =
        (response tables loads number other).map Captured.file ∧
      (BodiesAgree loads (SameEnds tables) flow.responseBody other.responseBody →
        response tables loads number flow = response tables loads number other) := by
  have saved : record tables loads flow = record tables loads other := by
    rw [record, record, agree.method, agree.url, agree.status, redactHeaders_agree agree.headers,
      savedBody_agree agree.request, savedBody_agree agree.response]
  have file : fileName number flow = fileName number other := by
    rw [fileName, fileName, agree.method]
  unfold response
  rw [agree.host, agree.method, agree.url, agree.status, saved, file]
  refine ⟨?_, ?_, ?_⟩
  · split
    · rfl
    · rfl
  · split
    · rfl
    · rfl
  · intro sameEnds
    rw [bodyHits_agree sameEnds]

end Agreement

/-- A request for the store, with this token, and a reply with this text. -/
def storeExchange (token body : Text) : HttpFlow where
  method := "GET"
  host := "api.tiltsmarthome.com"
  url := "https://api.tiltsmarthome.com/v2/store/tilt"
  requestHeaders := [("Authorization", "Bearer " ++ token)]
  requestText := none
  response := some (200, some body)

theorem splitSpace_bearer (token : Text) :
    splitSpace ("Bearer " ++ token) = some (Text.ofString "Bearer", token) := by
  simp [splitSpace, Text.ofString, Text.ofChars]

theorem storeExchange_agree {tables : TextTables} {loads : Text → Option Json}
    {token otherToken body otherBody : Text} (sameLength : token.length = otherToken.length)
    (bodies : BodiesAgree loads (SameLength tables) body otherBody) :
    FlowsAgree tables loads (storeExchange token body) (storeExchange otherToken otherBody) := by
  have authorization : secretField "Authorization" = true := by decide
  have shape : SameShape ("Bearer " ++ token) ("Bearer " ++ otherToken) := by
    rw [SameShape, splitSpace_bearer, splitSpace_bearer]
    exact ⟨rfl, sameLength⟩
  exact ⟨rfl, rfl, rfl, .cons ⟨rfl, .inr ⟨authorization, shape⟩⟩ .nil, rfl, .inl rfl, bodies⟩

/-- Two documents, named by their texts. -/
def twoKeys (body : Text) : Option Json :=
  if body = Text.ofString "first" then
    some (singleField "pairingKey" (.string "6be80123456789012ee2"))
  else if body = Text.ofString "second" then
    some (singleField "pairingKey" (.string "6be89876543210982ee2"))
  else none

theorem twoKeys_agree {hidden : Json → Json → Prop}
    (isHidden : hidden (.string "6be80123456789012ee2") (.string "6be89876543210982ee2")) :
    BodiesAgree twoKeys hidden (Text.ofString "first") (Text.ofString "second") := by
  have differ : ¬Text.ofString "second" = Text.ofString "first" := by decide
  refine .inr ⟨singleField "pairingKey" (.string "6be80123456789012ee2"),
    singleField "pairingKey" (.string "6be89876543210982ee2"), ?_, ?_, ?_⟩
  · rw [parseBody, twoKeys, if_pos rfl]
    rfl
  · rw [parseBody, twoKeys, if_neg differ, if_pos rfl]
    rfl
  · exact ⟨rfl, .inl ⟨secretField_pairingKey, rfl, rfl, isHidden⟩, trivial⟩

theorem twoKeys_sameLength : SameLength .ascii (.string "6be80123456789012ee2")
    (.string "6be89876543210982ee2") := by
  unfold SameLength
  decide

theorem response_hides_secrets_twoKeys :
    response .ascii twoKeys 1 (storeExchange "abcdef" "first") =
      response .ascii twoKeys 1 (storeExchange "uvwxyz" "second") := by
  have sameEnds : SameEnds .ascii (.string "6be80123456789012ee2")
      (.string "6be89876543210982ee2") :=
    ⟨twoKeys_sameLength, fun _ => by decide⟩
  have agree : FlowsAgree .ascii twoKeys (storeExchange "abcdef" "first")
      (storeExchange "uvwxyz" "second") :=
    storeExchange_agree (by decide) (twoKeys_agree twoKeys_sameLength)
  exact (response_hides_secrets 1 agree).2.2 (twoKeys_agree sameEnds)

end Capture

end SmartblindsBle
