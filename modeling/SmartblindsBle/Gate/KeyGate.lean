import SmartblindsBle.Foundation.Hex
import SmartblindsBle.Foundation.Json
import SmartblindsBle.Legacy.Keys
import SmartblindsBle.Tilt.Client

/-! # The gate check of rescued keys

The script `gate_auth_mac.py` tries every rescued key on every shade in range and
reports which one authenticates. Its log is modelled by the reports, one for each
shade; the files and the scan are its arguments.
-/

namespace SmartblindsBle

open Foundation

namespace KeyGate

/-! ## The keys -/

/-- `value.strip()`. -/
def strip (isSpace : CodePoint → Bool) (value : Text) : Text :=
  ((value.dropWhile isSpace).reverse.dropWhile isSpace).reverse

/-- `keys[name] = key`. -/
def putKey (keys : List (Text × Bytes)) (name : Text) (key : Bytes) : List (Text × Bytes) :=
  if name ∈ keys.map Prod.fst then
    keys.map fun entry => if entry.1 = name then (name, key) else entry
  else keys ++ [(name, key)]

/-- A mapping from names to keys. -/
structure KeyTable (keys : List (Text × Bytes)) : Prop where
  names : (keys.map Prod.fst).Nodup
  lengths : ∀ entry ∈ keys, entry.2.length = 32

theorem KeyTable.put {keys : List (Text × Bytes)} (table : KeyTable keys) (name : Text)
    {key : Bytes} (length : key.length = 32) : KeyTable (putKey keys name key) := by
  unfold putKey
  split
  · next present =>
      have sameNames : (keys.map fun entry => if entry.1 = name then (name, key) else entry).map
          Prod.fst = keys.map Prod.fst := by
        rw [List.map_map]
        apply List.map_congr_left
        intro entry _
        rw [Function.comp_apply]
        split
        · next same => exact same.symm
        · rfl
      constructor
      · rw [sameNames]
        exact table.names
      · intro entry member
        rcases List.mem_map.mp member with ⟨other, isOther, rfl⟩
        split
        · exact length
        · exact table.lengths other isOther
  · next absent =>
      constructor
      · rw [List.map_append, List.map_singleton]
        apply List.nodup_append.mpr
        refine ⟨table.names, List.pairwise_singleton _ name, ?_⟩
        intro other present last isLast same
        rw [same, List.mem_singleton.mp isLast] at present
        exact absent present
      · intro entry member
        rcases List.mem_append.mp member with earlier | last
        · exact table.lengths entry earlier
        · rw [List.mem_singleton.mp last]
          exact length

/-- What the scan found under an address. -/
structure Advertisement where
  address : String
  deviceName : Option String
  localName : Option String
  rssi : Option Int
  deriving DecidableEq, Repr

/-- `first or second`, for names. -/
def orName (first second : Option String) : Option String :=
  match first with
  | some "" => second
  | some name => some name
  | none => second

def shadeNamePrefix : String := "RollerSh"

def isTiltShade (advertisement : Advertisement) : Bool :=
  ((orName advertisement.localName advertisement.deviceName).getD "").startsWith shadeNamePrefix

/-- `adv.rssi or -999`. -/
def signal (advertisement : Advertisement) : Int :=
  match advertisement.rssi with
  | none => -999
  | some strength => if strength = 0 then -999 else strength

/-- The shades in the order of the check: `sorted` keeps the order of equals also
with `reverse=True`. -/
def probingOrder (shades : List Advertisement) : List Advertisement :=
  shades.mergeSort fun first second => signal second ≤ signal first

/-! ## The check -/

open TiltBleSession (await record)

variable (primitives : CryptoPrimitives)


/-- `_probe`. -/
def probe (address : String) : List (Text × Bytes) → Async (Option (Text × ShadeStatus))
  | [] => pure none
  | (name, key) :: keys => do
      let client ← Coroutine.ofExcept (TiltShadeClient.init address key none false)
      record (.called .readStatus)
      let status ← tryCatch
        (do
          let status ← client.readStatus primitives
          pure (some status))
        (fun error => if error.isAuthenticationError then pure none else throw error)
      match status with
      | none => probe address keys
      | some status => pure (some (name, status))

/-- What is logged for a shade. -/
inductive Report
  | incomplete (error : PythonException)
  | unmatched
  | authenticated (name : Text) (status : ShadeStatus)
  deriving DecidableEq

def Report.isProblem : Report → Bool
  | .authenticated _ _ => false
  | _ => true

/-- The exceptions that the loop of `_run` catches. -/
def isCaught (error : PythonException) : Bool :=
  error.isBleakError || error.isTiltProtocolError || error == .timeoutError

def checkShade (keys : List (Text × Bytes)) (shade : Advertisement) : Async Report :=
  tryCatch
    (do
      let found ← probe primitives shade.address keys
      match found with
      | none => pure .unmatched
      | some (name, status) => pure (.authenticated name status))
    (fun error => if isCaught error then pure (.incomplete error) else throw error)

def checkShades (keys : List (Text × Bytes)) : List Advertisement → Async (List Report)
  | [] => pure []
  | shade :: shades => do
      let report ← checkShade primitives keys shade
      let reports ← checkShades keys shades
      pure (report :: reports)

/-- `_run` after the keys are loaded and the scan has ended: the exit code, and
the reports in the order of the check. -/
def run (keys : List (Text × Bytes)) (discovered : List Advertisement) :
    Async (Nat × List Report) := do
  let shades := discovered.filter isTiltShade
  if shades = [] then pure (2, [])
  else do
    let reports ← checkShades primitives keys (probingOrder shades)
    if reports.any Report.isProblem then pure (1, reports) else pure (0, reports)

end KeyGate

end SmartblindsBle
