import SmartblindsBle.Foundation.Bytes
import SmartblindsBle.Foundation.Json

/-! # The Tilt cloud

Two HTTP exchanges: a login, which gives a token, and a request for the store, which
lists every shade with its key. The replies are documents of any shape.
-/

namespace SmartblindsBle

open Foundation

namespace TiltCloud

/-! ## Exceptions and exchanges -/

inductive CloudException
  | tiltCloudError (message : Text)
  | httpError (code : Int) (reason : Text) (body : Bytes)
  | urlError (reason : Text)
  | valueError
  | recursionError
  | attributeError
  | typeError
  deriving DecidableEq, Repr

abbrev CloudRaises (Value : Type) := Except CloudException Value

@[simp] theorem ok_bind {Value Result : Type} (value : Value)
    (next : Value → CloudRaises Result) : (Except.ok value >>= next) = next value := rfl

/-- How an HTTP exchange ends. -/
inductive Outcome
  | urlError (reason : Text)
  | httpError (code : Int) (reason : Text) (body : Bytes)
  | reply (body : Bytes)
  deriving DecidableEq, Repr

/-- `response.read()`. -/
def Outcome.read : Outcome → CloudRaises Bytes
  | .urlError reason => .error (.urlError reason)
  | .httpError code reason body => .error (.httpError code reason body)
  | .reply body => .ok body

/-- The other side of the exchanges. -/
structure Transport where
  post : (url : Text) → (payload : Json) → Outcome
  get : (url : Text) → (authorization : Text) → Outcome

/-- Bytes that are no UTF-8 or no JSON, and documents that are nested too deep. -/
inductive LoadsError
  | valueError
  | recursionError
  deriving DecidableEq, Repr

/-- Python's library. -/
structure Library where
  tables : TextTables
  /-- `json.loads(body.decode())`. -/
  loads : Bytes → Except LoadsError Json
  /-- Whether `sorted` can compare the items of a list. -/
  comparable : List Json → Bool

/-- A library for ASCII text. -/
def Library.ascii (loads : Bytes → Except LoadsError Json) : Library where
  tables := .ascii
  loads := loads
  comparable _ := true

def Library.loadsBody (python : Library) (body : Bytes) : CloudRaises Json :=
  match python.loads body with
  | .ok document => .ok document
  | .error .valueError => .error .valueError
  | .error .recursionError => .error .recursionError

/-! ## Documents -/

/-- `value.get(name, default)`. -/
def getOr (value : Json) (name : Text) (default : Json) : CloudRaises Json :=
  match value with
  | .dict fields => .ok (Json.valueOr fields name default)
  | _ => .error .attributeError

/-- `value.get(name)`. -/
def get (value : Json) (name : Text) : CloudRaises Json := getOr value name .null

@[simp] theorem get_dict (fields : List (Text × Json)) (name : Text) :
    get (.dict fields) name = .ok (Json.valueOf fields name) := rfl

/-- `for item in value`. -/
def iterate : Json → CloudRaises (List Json)
  | .list items => .ok items
  | .string value => .ok (value.map fun point => .string [point])
  | .dict fields => .ok (fields.map fun field => .string field.1)
  | _ => .error .typeError

/-- `len(value)`. -/
def len : Json → CloudRaises Nat
  | .list items => .ok items.length
  | .string value => .ok value.length
  | .dict fields => .ok fields.length
  | _ => .error .typeError

/-- `value == text`. -/
def isText (value : Json) (text : Text) : Bool :=
  match value with
  | .string value => value = text
  | _ => false

/-- The results of a loop that extends one list. -/
def collect {Item Result : Type} (visit : Item → CloudRaises (List Result)) :
    List Item → CloudRaises (List Result)
  | [] => .ok []
  | item :: items => do
      let found ← visit item
      let later ← collect visit items
      return found ++ later

/-! ## Requests -/

def auth0TokenUrl : String := "https://mysmartblinds.auth0.com/oauth/token"
def tiltStoreUrl : String := "https://api.tiltsmarthome.com/v2/store/tilt"
def tiltClientId : String := "Owjr4yOJ2HauKaQhBpICgmfTf7naJsRd"
def tiltAudience : String := "Tilt Settings Storage API"
def tiltRealm : String := "Username-Password-Authentication"
def tiltScope : String := "openid profile email offline_access"
def passwordRealmGrant : String := "http://auth0.com/oauth/grant-type/password-realm"

/-- A character that must be followed by one of some others. -/
def followedBy (others : List Char) : Text → Bool
  | .char value :: _ => value ∈ others
  | _ => false

/-- The values of headers that `http.client` sends: Latin-1, without a bare line end. -/
def legalHeaderValue : Text → Bool
  | [] => true
  | point :: rest =>
      point.value ≤ 0xFF &&
        (match point with
          | .char '\n' => followedBy [' ', '\t'] rest
          | .char '\r' => followedBy [' ', '\t', '\n'] rest
          | _ => true) &&
        legalHeaderValue rest

variable (python : Library) (transport : Transport)

/-- `f"Bearer {bearer}"`. -/
def bearerHeader (bearer : Json) : Text := "Bearer " ++ bearer.str python.tables

/-- `_post_json`. -/
def postJson (url : Text) (payload : Json) : CloudRaises Json := do
  let body ← (transport.post url payload).read
  python.loadsBody body

/-- `_get_json`. -/
def getJson (url : Text) (bearer : Json) : CloudRaises Json :=
  let authorization := bearerHeader python bearer
  if legalHeaderValue authorization = false then .error .valueError
  else do
    let body ← (transport.get url authorization).read
    python.loadsBody body

theorem getJson_legal {url : Text} {bearer : Json}
    (legal : legalHeaderValue (bearerHeader python bearer) = true) :
    getJson python transport url bearer =
      (transport.get url (bearerHeader python bearer)).read >>= python.loadsBody := by
  simp [getJson, legal]

theorem getJson_illegal {url : Text} {bearer : Json}
    (illegal : legalHeaderValue (bearerHeader python bearer) = false) :
    getJson python transport url bearer = .error .valueError := by
  simp [getJson, illegal]

/-- `_auth0_failure`. -/
def auth0Failure (code : Int) (reason : Text) (body : Bytes) : CloudRaises CloudException := do
  let body ←
    match python.loads body with
    | .ok document => .ok document
    | .error .valueError => .ok (.dict [])
    | .error .recursionError => .error .recursionError
  let errorCode ← getOr body "error" (.string [])
  let described ← get body "error_description"
  let description := (described.orElse (.string reason)).str python.tables
  if isText errorCode "invalid_grant" then
    return .tiltCloudError ("Auth0 rejected the email/password: " ++ description)
  else if isText errorCode "mfa_required" then
    return .tiltCloudError
      ("This account has multi-factor authentication enabled, which the " ++
        "password grant cannot complete. Capture the access_token from the " ++
        "app instead and pass it to fetch_devices(access_token=...).")
  else if errorCode.hashable = false then .error .typeError
  else if isText errorCode "too_many_attempts" || isText errorCode "access_denied" then
    return .tiltCloudError
      ("Auth0 blocked the login (" ++ errorCode.str python.tables ++ "): " ++ description ++
        ". Its attack protection trips on password grants from an unfamiliar IP; " ++
        "clear the block from the Tilt app on the same network, or pass an " ++
        "access_token captured from it.")
  else
    return .tiltCloudError
      ("Auth0 login failed (" ++ Text.ofString (toString code) ++ " " ++
        (errorCode.orElse (.string reason)).str python.tables ++ "): " ++ description)

def loginPayload (username password : Text) : Json :=
  .dict [
    ("grant_type", .string passwordRealmGrant),
    ("client_id", .string tiltClientId),
    ("username", .string username),
    ("password", .string password),
    ("realm", .string tiltRealm),
    ("scope", .string tiltScope),
    ("audience", .string tiltAudience)]

def login (username password : Text) : CloudRaises Json :=
  match postJson python transport auth0TokenUrl (loginPayload username password) with
  | .error (.httpError code reason body) => do
      let failure ← auth0Failure python code reason body
      .error failure
  | .error (.urlError reason) => .error (.tiltCloudError ("Could not reach Auth0: " ++ reason))
  | result => result

def fetchStore (accessToken : Json) : CloudRaises Json := do
  let store ←
    match getJson python transport tiltStoreUrl accessToken with
    | .error (.httpError code reason _) =>
        if code = 401 then
          .error (.tiltCloudError
            ("The Tilt store rejected this token (401). An id_token will always " ++
              "401 here — use the access_token, and make sure it was minted for the " ++
              python.tables.quote tiltAudience ++ " audience."))
        else
          .error (.tiltCloudError
            ("Tilt store request failed (" ++ Text.ofString (toString code) ++ " " ++ reason ++
              ")."))
    | .error (.urlError reason) =>
        .error (.tiltCloudError ("Could not reach the Tilt store: " ++ reason))
    | result => result
  match store with
  | .dict fields => .ok (.dict fields)
  | _ => .error (.tiltCloudError "Tilt store returned an unexpected document.")

/-! ## The devices -/

inductive DeviceKind
  | rollerShade
  | bridge
  deriving DecidableEq, Repr

/-- The name of a device and of its room are whatever the store has there. -/
structure TiltDevice where
  name : Json
  mac : Text
  key : Text
  room : Json
  kind : DeviceKind

/-- The body of the innermost loop of `parse_store`. -/
def parseEntry (kind : DeviceKind) (roomName entry : Json) : CloudRaises (List TiltDevice) := do
  let key ← get entry "pairingKey"
  let mac ← get entry "id"
  if key.truthy = false || mac.truthy = false then return []
  else
    let name ← get entry "name"
    return [{
      name := name.orElse mac
      mac := python.tables.upper (mac.str python.tables)
      key := python.tables.lower (key.str python.tables)
      room := roomName
      kind := kind }]

/-- The entries of one group of a room. -/
def parseGroup (roomName : Json) (group : DeviceKind × Json) : CloudRaises (List TiltDevice) := do
  let entries ← iterate (group.2.orElse (.list []))
  collect (parseEntry python group.1 roomName) entries

def parseRoom (includeBridges : Bool) (room : Json) : CloudRaises (List TiltDevice) := do
  let roomName ← get room "name"
  let shades ← get room "rollerShades"
  if includeBridges then
    let bridges ← get room "bridges"
    collect (parseGroup python roomName) [(.rollerShade, shades), (.bridge, bridges)]
  else collect (parseGroup python roomName) [(.rollerShade, shades)]

/-- `parse_store`. -/
def parseStore (store : Json) (includeBridges : Bool) : CloudRaises (List TiltDevice) := do
  let rooms ← get store "rooms"
  let rooms ← iterate (rooms.orElse (.list []))
  collect (parseRoom python includeBridges) rooms

/-! ## The two entry points -/

/-- Credentials that are given: a username that is not empty, and a password. -/
def credentials (username password : Option Text) : CloudRaises (Text × Text) :=
  match username, password with
  | some username, some password =>
      if username = [] then
        .error (.tiltCloudError "Provide either username+password or access_token.")
      else .ok (username, password)
  | _, _ => .error (.tiltCloudError "Provide either username+password or access_token.")

def fetchDevices (username password accessToken : Option Text) (includeBridges : Bool) :
    CloudRaises (List TiltDevice) :=
  match accessToken with
  | some accessToken => do
      let store ← fetchStore python transport (.string accessToken)
      parseStore python store includeBridges
  | none => do
      let (username, password) ← credentials username password
      let tokens ← login python transport username password
      let accessToken ← get tokens "access_token"
      if accessToken.truthy = false then
        .error (.tiltCloudError "Auth0 login returned no access_token.")
      else
        let store ← fetchStore python transport accessToken
        parseStore python store includeBridges

end TiltCloud

end SmartblindsBle
