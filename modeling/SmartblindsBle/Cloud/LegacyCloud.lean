import SmartblindsBle.Foundation.Base64
import SmartblindsBle.Foundation.Hex
import SmartblindsBle.Foundation.Json

/-! # The legacy cloud

One query lists the rooms and the blinds of an account. Addresses and passkeys are
in base 64; they are exported as text. The client that logs in, and the exchange of
the query, are not part of the repository.
-/

namespace SmartblindsBle

open Foundation

namespace LegacyCloud

inductive LegacyException
  | valueError (message : Text)
  | runtimeError (message : Text)
  | keyError (name : Text)
  | typeError
  | attributeError
  | binasciiError (error : Base64Error)
  /-- Raised by the client library or by the exchange. -/
  | foreign (text : Text)

abbrev LegacyRaises (Value : Type) := Except LegacyException Value

/-- What the optional packages do. -/
structure Packages where
  /-- `client._tokens` after the login. -/
  login : (username password : Text) → LegacyRaises (List (Text × Json))
  /-- The document that answers a query with this authorization. -/
  post : (authorization query : Text) → LegacyRaises Json

/-- Python's library. -/
structure LegacyLibrary where
  tables : TextTables
  /-- Whether a number with a fraction, printed so, equals an integer. -/
  floatIsInt : Text → Int → Bool

/-! ## Documents -/

/-- `value.get(name)`. -/
def get (value : Json) (name : Text) : LegacyRaises Json :=
  match value with
  | .dict fields => .ok (Json.valueOf fields name)
  | _ => .error .attributeError

/-- `value[name]`. -/
def subscript (value : Json) (name : Text) : LegacyRaises Json :=
  match value with
  | .dict fields =>
      match fields.lookup name with
      | some found => .ok found
      | none => .error (.keyError name)
  | _ => .error .typeError

/-- `for item in value`. -/
def iterate : Json → LegacyRaises (List Json)
  | .list items => .ok items
  | .string value => .ok (value.map fun point => .string [point])
  | .dict fields => .ok (fields.map fun field => .string field.1)
  | _ => .error .typeError

/-- `base64.b64decode(value)`. -/
def b64decode (value : Json) : LegacyRaises Bytes :=
  match value with
  | .string text =>
      match text.chars? with
      | some chars =>
          if chars.all fun value => value.toNat < 128 then
            match base64Decode chars with
            | .ok bytes => .ok bytes
            | .error error => .error (.binasciiError error)
          else .error (.valueError "string argument should contain only ASCII characters")
      | none => .error (.valueError "string argument should contain only ASCII characters")
  | _ => .error .typeError

/-! ## The dictionary of rooms -/

/-- The integer that a value is equal to, if it is no fraction. -/
def integer? : Json → Option Int
  | .bool value => some (if value then 1 else 0)
  | .int value => some value
  | _ => none

/-- Whether two hashable values are the same key. -/
def sameKey (python : LegacyLibrary) : Json → Json → Bool
  | .null, .null => true
  | .string left, .string right => left = right
  | .float left, .float right => left = right || !((Json.float left).truthy ||
      (Json.float right).truthy)
  | .float left, right => (integer? right).any (python.floatIsInt left)
  | left, .float right => (integer? left).any (python.floatIsInt right)
  | left, right => (integer? left).isSome && integer? left = integer? right

/-- The name of each room, by its id. -/
abbrev RoomTable := List (Json × Json)

/-- `rooms[id] = name`: a key that is there keeps its place. -/
def setRoom (python : LegacyLibrary) (id name : Json) : RoomTable → RoomTable
  | [] => [(id, name)]
  | room :: rooms =>
      if sameKey python room.1 id then (room.1, name) :: rooms
      else room :: setRoom python id name rooms

/-- `rooms.get(id)`. -/
def getRoom (python : LegacyLibrary) (rooms : RoomTable) (id : Json) : LegacyRaises Json :=
  if id.hashable then
    .ok (((rooms.find? fun room => sameKey python room.1 id).map Prod.snd).getD .null)
  else .error .typeError

/-- One pass of the comprehension over the rooms. -/
def addRoom (python : LegacyLibrary) (rooms : RoomTable) (entry : Json) :
    LegacyRaises RoomTable := do
  let id ← subscript entry "id"
  let name ← subscript entry "name"
  if id.hashable then return setRoom python id name rooms else throw .typeError

/-! ## Addresses -/

/-- `byte` in two upper-case digits. -/
def upperHex (byte : UInt8) : List Char :=
  [(hexDigit (byte.toNat / 16)).toUpper, (hexDigit (byte.toNat % 16)).toUpper]

/-- The bytes with colons between them. -/
def colonHex : Bytes → List Char
  | [] => []
  | [byte] => upperHex byte
  | byte :: rest => upperHex byte ++ ':' :: colonHex rest

/-- White space of `str.strip` within ASCII. -/
def isAsciiSpace (character : Char) : Bool :=
  character.toNat ∈ [0x09, 0x0A, 0x0B, 0x0C, 0x0D, 0x1C, 0x1D, 0x1E, 0x1F, 0x20]

def stripAscii (text : List Char) : List Char :=
  ((text.dropWhile isAsciiSpace).reverse.dropWhile isAsciiSpace).reverse

/-- `_format_mac`. -/
def formatMac (raw : Bytes) : String :=
  if raw.length = 6 then String.ofList (colonHex raw)
  else if raw.all (· < 128) then
    String.ofList ((stripAscii (raw.map fun byte => Char.ofNat byte.toNat)).map Char.toUpper)
  else String.ofList ((hexChars raw).map Char.toUpper)

/-! ## The export -/

/-- `CloudBlind`. -/
structure CloudBlind where
  name : Json
  mac : String
  key : String
  room : Json
  deleted : Bool

def userQuery : Text :=
  "query GetUserInfo \x7b user \x7b " ++ "rooms \x7b id name deleted \x7d " ++
    "blinds \x7b name encodedMacAddress encodedPasskey roomId deleted \x7d \x7d \x7d"

variable (packages : Packages) (python : LegacyLibrary)

/-- `_graphql`, with the tokens of the login. -/
def graphql (tokens : List (Text × Json)) (token query : Text) : LegacyRaises Json := do
  let bearer := Json.valueOf tokens token
  if bearer.truthy then
    packages.post ("Bearer " ++ bearer.str python.tables) query
  else throw (.valueError ("login did not return a " ++ python.tables.quote token))

/-- One pass of the loop over the blinds. -/
def exportEntry (rooms : RoomTable) (includeDeleted : Bool) (entry : Json) :
    LegacyRaises (List CloudBlind) := do
  let deleted ← get entry "deleted"
  if deleted.truthy && !includeDeleted then
    return []
  else
    let name ← subscript entry "name"
    let encodedMacAddress ← subscript entry "encodedMacAddress"
    let address ← b64decode encodedMacAddress
    let encodedPasskey ← subscript entry "encodedPasskey"
    let passkey ← b64decode encodedPasskey
    let roomId ← get entry "roomId"
    let room ← getRoom python rooms roomId
    return [⟨name, formatMac address, hexString passkey, room, deleted.truthy⟩]

/-- What follows the query. -/
def exportDocument (includeDeleted : Bool) (document : Json) :
    LegacyRaises (List CloudBlind) := do
  let errors ← get document "errors"
  if errors.truthy then
    throw (.runtimeError ("cloud returned errors: " ++ errors.str python.tables))
  let data ← get document "data"
  let found ← get (data.orElse (.dict [])) "user"
  let user := found.orElse (.dict [])
  let listedRooms ← get user "rooms"
  let roomEntries ← iterate (listedRooms.orElse (.list []))
  let rooms ← roomEntries.foldlM (addRoom python) []
  let listedBlinds ← get user "blinds"
  let entries ← iterate (listedBlinds.orElse (.list []))
  let exported ← entries.mapM (exportEntry python rooms includeDeleted)
  return exported.flatten

/-- `fetch_blinds`. -/
def fetchBlinds (username password : Text) (includeDeleted : Bool) (token : Text) :
    LegacyRaises (List CloudBlind) := do
  let tokens ← packages.login username password
  let document ← graphql packages python tokens token userQuery
  exportDocument python includeDeleted document

end LegacyCloud

end SmartblindsBle
