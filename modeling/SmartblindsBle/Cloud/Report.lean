import SmartblindsBle.Cloud.TiltCloud
import SmartblindsBle.Foundation.TwoRuns

/-! # The report

`diagnose` prints what an account exposes: names, addresses and counts, and of each key
its length. The report is the same for accounts that differ in their secrets only.
-/

namespace SmartblindsBle

open Foundation

namespace TiltCloud

variable (python : Library) (transport : Transport)

/-! ## The lines -/

/-- `str(number)`. -/
def printNat (number : Nat) : Text := toString number

/-- `f"{sorted(value)}"`, for an object. -/
def printNames (fields : List (Text × Json)) : Text :=
  "[" ++ Text.join ", " (((fields.map Prod.fst).mergeSort Text.le).map python.tables.quote) ++ "]"

/-- The lines about the token response. A value that is no object is sorted, if it can
be, before the access to it as an object fails. -/
def tokenLines (tokens : Json) : CloudRaises (List Text) :=
  match tokens with
  | .dict fields =>
      .ok [
        "token keys: " ++ printNames python fields,
        "token_type: " ++ (Json.valueOf fields "token_type").str python.tables,
        "expires_in: " ++ (Json.valueOf fields "expires_in").str python.tables,
        "scope: " ++ (Json.valueOf fields "scope").str python.tables]
  | .list items =>
      if python.comparable items then .error .attributeError else .error .typeError
  | .string _ => .error .attributeError
  | _ => .error .typeError

def entryLine (entry : Json) : CloudRaises (List Text) := do
  let key ← get entry "pairingKey"
  let key := key.orElse (.string [])
  let name ← get entry "name"
  let id ← get entry "id"
  let keyLength ← len key
  return ["    " ++ name.repr python.tables ++ " id=" ++ id.str python.tables ++ " key_len=" ++
    printNat keyLength]

def roomLines (room : Json) : CloudRaises (List Text) := do
  let shades ← get room "rollerShades"
  let shades := shades.orElse (.list [])
  let bridges ← get room "bridges"
  let bridges := bridges.orElse (.list [])
  let name ← get room "name"
  let shadeCount ← len shades
  let bridgeCount ← len bridges
  let header : Text := "  " ++ name.repr python.tables ++ ": " ++ printNat shadeCount ++
    " shade(s), " ++ printNat bridgeCount ++ " bridge(s)"
  let shades ← iterate shades
  let bridges ← iterate bridges
  let entries ← collect (entryLine python) (shades ++ bridges)
  return header :: entries

/-- The lines about the store. -/
def storeLines (store : Json) : CloudRaises (List Text) :=
  match store with
  | .dict fields => do
      let rooms := (Json.valueOf fields "rooms").orElse (.list [])
      let names := printNames python fields
      let roomCount ← len rooms
      let rooms ← iterate rooms
      let lines ← collect (roomLines python) rooms
      return ("\nstore top-level keys: " ++ names) :: ("rooms: " ++ printNat roomCount) :: lines
  | _ => .error .attributeError

/-- The part of `diagnose` behind the login. -/
def storeReport (lines : List Text) (accessToken : Json) : CloudRaises Text := do
  let store ← fetchStore python transport accessToken
  let storeLines ← storeLines python store
  return Text.join "\n" (lines ++ storeLines)

def tokenReport (tokens : Json) : CloudRaises Text := do
  let lines ← tokenLines python tokens
  let accessToken ← get tokens "access_token"
  if accessToken.truthy = false then
    let noToken : Text := "\nNo access_token in the response — cannot read the store."
    return Text.join "\n" (lines ++ [noToken])
  else storeReport python transport lines accessToken

def diagnose (username password accessToken : Option Text) : CloudRaises Text :=
  match accessToken with
  | some accessToken => storeReport python transport [] (.string accessToken)
  | none => do
      let (username, password) ← credentials username password
      let tokens ← login python transport username password
      tokenReport python transport tokens

end TiltCloud

end SmartblindsBle
