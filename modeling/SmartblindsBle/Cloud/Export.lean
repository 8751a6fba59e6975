import SmartblindsBle.Cloud.TiltCloud
import SmartblindsBle.Foundation.Hex
import SmartblindsBle.Tilt.Client

/-! # What is exported of a store

The devices of a store, room by room: of every shade and then of every bridge that
has an address and a key. The keys are followed into the client.
-/

namespace SmartblindsBle

open Foundation

namespace TiltCloud

/-! ## Stores -/

/-- A value that is missing, or a list of values of which each has a property. -/
def OptionalList (holds : Json → Prop) (value : Json) : Prop :=
  value = .null ∨ ∃ items, value = .list items ∧ ∀ item ∈ items, holds item

def OptionalText (value : Json) : Prop := value = .null ∨ ∃ text, value = .string text

/-- The value of a name in an object. -/
def field (value : Json) (name : Text) : Json :=
  match value with
  | .dict fields => Json.valueOf fields name
  | _ => .null

structure IsEntry (entry : Json) : Prop where
  isDict : entry.IsDict
  id : OptionalText (field entry "id")
  pairingKey : OptionalText (field entry "pairingKey")

structure IsRoom (room : Json) : Prop where
  isDict : room.IsDict
  rollerShades : OptionalList IsEntry (field room "rollerShades")
  bridges : OptionalList IsEntry (field room "bridges")

structure IsStore (store : Json) : Prop where
  isDict : store.IsDict
  rooms : OptionalList IsRoom (field store "rooms")

/-! ## The devices of a store -/

def itemsOf : Json → List Json
  | .list items => items
  | _ => []

def textOf : Json → Text
  | .string text => text
  | _ => []

/-- The entry has an address and a key. -/
def hasKey (entry : Json) : Bool :=
  textOf (field entry "id") ≠ [] ∧ textOf (field entry "pairingKey") ≠ []

/-- The entries of a room: its shades, then its bridges. -/
def entriesOf (room : Json) : List (DeviceKind × Json) :=
  (itemsOf (field room "rollerShades")).map (DeviceKind.rollerShade, ·) ++
    (itemsOf (field room "bridges")).map (DeviceKind.bridge, ·)

def deviceOf (tables : TextTables) (room : Json) (entry : DeviceKind × Json) : TiltDevice where
  name := (field entry.2 "name").orElse (field entry.2 "id")
  mac := tables.upper (textOf (field entry.2 "id"))
  key := tables.lower (textOf (field entry.2 "pairingKey"))
  room := field room "name"
  kind := entry.1

def devicesOf (tables : TextTables) (store : Json) : List TiltDevice :=
  (itemsOf (field store "rooms")).flatMap fun room =>
    ((entriesOf room).filter fun entry => hasKey entry.2).map (deviceOf tables room)

/-! ## The loops of `parse_store` -/

variable (python : Library)

theorem get_isDict {value : Json} (isDict : value.IsDict) (name : Text) :
    get value name = .ok (field value name) := by
  rcases isDict with ⟨fields, rfl⟩
  rfl

theorem iterate_optionalList {holds : Json → Prop} {value : Json}
    (optional : OptionalList holds value) :
    iterate (value.orElse (.list [])) = .ok (itemsOf value) := by
  rcases optional with rfl | ⟨items, rfl, _⟩
  · rfl
  · cases items <;> rfl

theorem OptionalList.forall_mem {holds : Json → Prop} {value : Json}
    (optional : OptionalList holds value) : ∀ item ∈ itemsOf value, holds item := by
  rcases optional with rfl | ⟨items, rfl, every⟩
  · exact nofun
  · exact every

theorem collect_eq_ok {Item Result : Type} {visit : Item → CloudRaises (List Result)}
    {result : Item → List Result} {items : List Item}
    (every : ∀ item ∈ items, visit item = .ok (result item)) :
    collect visit items = .ok (items.flatMap result) := by
  induction items with
  | nil => rfl
  | cons item items induction =>
      have first := every item (List.mem_cons_self ..)
      have rest := induction fun other member => every other (List.mem_cons_of_mem _ member)
      rw [collect, first, rest]
      rfl

theorem truthy_optionalText {value : Json} (optional : OptionalText value) :
    value.truthy = false ↔ textOf value = [] := by
  rcases optional with rfl | ⟨text, rfl⟩
  · simp [Json.truthy, textOf]
  · simp [Json.truthy, textOf]

theorem str_optionalText {value : Json} (tables : TextTables) (optional : OptionalText value)
    (given : textOf value ≠ []) : value.str tables = textOf value := by
  rcases optional with rfl | ⟨text, rfl⟩
  · exact (given rfl).elim
  · rfl

theorem parseEntry_eq (room : Json) (kind : DeviceKind) {entry : Json} (isEntry : IsEntry entry) :
    parseEntry python kind (field room "name") entry =
      .ok (if hasKey entry then [deviceOf python.tables room (kind, entry)] else []) := by
  have noKey := truthy_optionalText isEntry.pairingKey
  have noId := truthy_optionalText isEntry.id
  rw [parseEntry, get_isDict isEntry.isDict, get_isDict isEntry.isDict,
    get_isDict isEntry.isDict]
  simp only [bind, Except.bind]
  by_cases complete : hasKey entry = true
  · have parts : textOf (field entry "id") ≠ [] ∧ textOf (field entry "pairingKey") ≠ [] := by
      simpa [hasKey] using complete
    have key := str_optionalText python.tables isEntry.pairingKey parts.2
    have id := str_optionalText python.tables isEntry.id parts.1
    rw [ne_eq, ne_eq, ← noKey, ← noId] at parts
    simp [complete, parts, key, id, deviceOf, pure, Except.pure]
  · have skipped : ((field entry "pairingKey").truthy = false ||
        (field entry "id").truthy = false) = true := by
      simp only [noKey, noId, Bool.or_eq_true, decide_eq_true_eq]
      by_contra parts
      rw [not_or] at parts
      exact complete (by simpa [hasKey] using parts.symm)
    simp only [skipped, if_true, complete]
    rfl

theorem flatMap_ite {Item Result : Type} (keeps : Item → Bool) (result : Item → Result)
    (items : List Item) :
    (items.flatMap fun item => if keeps item then [result item] else []) =
      (items.filter keeps).map result := by
  induction items with
  | nil => rfl
  | cons item items induction =>
      rw [List.flatMap_cons, induction, List.filter_cons]
      split <;> rfl

theorem parseGroup_eq (room : Json) (kind : DeviceKind) {entries : Json}
    (isList : OptionalList IsEntry entries) :
    parseGroup python (field room "name") (kind, entries) =
      .ok ((((itemsOf entries).map (kind, ·)).filter fun entry => hasKey entry.2).map
        (deviceOf python.tables room)) := by
  have every := collect_eq_ok fun entry member =>
    parseEntry_eq python room kind (isList.forall_mem entry member)
  rw [parseGroup, iterate_optionalList isList]
  simp only [bind, Except.bind]
  rw [every, flatMap_ite, List.filter_map, List.map_map]
  rfl

theorem parseRoom_eq {room : Json} (isRoom : IsRoom room) (includeBridges : Bool) :
    parseRoom python includeBridges room =
      .ok ((((entriesOf room).filter fun entry =>
          includeBridges || entry.1 = .rollerShade).filter fun entry => hasKey entry.2).map
        (deviceOf python.tables room)) := by
  have shades := parseGroup_eq python room .rollerShade isRoom.rollerShades
  have bridges := parseGroup_eq python room .bridge isRoom.bridges
  rw [parseRoom, get_isDict isRoom.isDict, get_isDict isRoom.isDict, get_isDict isRoom.isDict]
  simp only [bind, Except.bind]
  cases includeBridges with
  | true =>
      simp only [if_true, collect, bind, Except.bind, shades, bridges]
      simp [entriesOf, pure, Except.pure]
  | false =>
      simp only [Bool.false_eq_true, if_false, collect, bind, Except.bind, shades]
      simp [entriesOf, pure, Except.pure, List.filter_map, Function.comp_def]

theorem parseStore_eq {store : Json} (isStore : IsStore store) (includeBridges : Bool) :
    parseStore python store includeBridges =
      .ok ((itemsOf (field store "rooms")).flatMap fun room =>
        (((entriesOf room).filter fun entry =>
            includeBridges || entry.1 = .rollerShade).filter fun entry => hasKey entry.2).map
          (deviceOf python.tables room)) := by
  have every := collect_eq_ok fun room member =>
    parseRoom_eq python (isStore.rooms.forall_mem room member) includeBridges
  rw [parseStore, get_isDict isStore.isDict]
  simp only [bind, Except.bind]
  rw [iterate_optionalList isStore.rooms]
  exact every

/-- With bridges, the devices of the store. -/
theorem parseStore_devicesOf {store : Json} (isStore : IsStore store) :
    parseStore python store true = .ok (devicesOf python.tables store) := by
  simp [parseStore_eq python isStore, devicesOf]

/-- Without bridges, the shades among them. -/
theorem parseStore_shades {store : Json} (isStore : IsStore store) :
    parseStore python store false =
      .ok ((devicesOf python.tables store).filter (·.kind = .rollerShade)) := by
  have ofKind (room : Json) :
      (fun device : TiltDevice => decide (device.kind = .rollerShade)) ∘
          deviceOf python.tables room =
        fun entry => decide (entry.1 = .rollerShade) := rfl
  simp only [parseStore_eq python isStore, devicesOf, List.filter_flatMap, List.filter_map, ofKind,
    List.filter_filter, Bool.false_or, Bool.and_comm]

/-! ## Keys -/

/-- `bytes.fromhex(text)`. -/
def bytesFromHex (text : Text) : Option Bytes := text.chars?.bind fromHex

/-- Digits of any case are exported as the key that they denote. -/
theorem bytesFromHex_lower (tables : TextTables) {digits : List Char}
    (even : EvenHexDigits digits) :
    ∃ key, bytesFromHex (tables.lower (Text.ofChars digits)) = some key ∧
      digits.length = 2 * key.length ∧ ofBigEndian key = hexNumeral digits := by
  have ascii : ∀ digit ∈ digits, digit.toNat < 128 := by
    intro digit member
    rcases Option.isSome_iff_exists.mp (even.2 digit member) with ⟨value, isValue⟩
    exact ascii_of_hexValue isValue
  rcases (hexPairs_isSome_iff digits).mpr even with ⟨key, read⟩
  have spelled := hexPairs_eq_some_iff.mp read
  have lowered : hexPairs (digits.map Char.toLower) = some key := by
    apply hexPairs_eq_some_iff.mpr
    rw [← spelled, hexChars_toLower]
  refine ⟨key, ?_, hexPairs_denotes read⟩
  rw [bytesFromHex, tables.lower_ascii digits ascii, Text.chars?_ofChars]
  exact fromHex_of_hexPairs lowered

/-- From a store, one device is exported for each entry with an address and a key, shades
before bridges; without bridges, the shades among these devices; and a key of 64 digits
reaches the client as the 32 bytes that the digits denote. -/
theorem parseStore_exports {store : Json} (isStore : IsStore store) :
    parseStore python store true = .ok (devicesOf python.tables store) ∧
      parseStore python store false =
        .ok ((devicesOf python.tables store).filter (·.kind = .rollerShade)) ∧
      ∀ room ∈ itemsOf (field store "rooms"), ∀ entry ∈ entriesOf room, ∀ digits,
        field entry.2 "pairingKey" = .string (Text.ofChars digits) → digits.length = 64 →
        (∀ digit ∈ digits, (hexValue digit).isSome = true) →
        ∃ key, bytesFromHex (deviceOf python.tables room entry).key = some key ∧
          key.length = 32 ∧ ofBigEndian key = hexNumeral digits ∧
          ∀ mac shadeId allowPositionWrites, ∃ client,
            TiltShadeClient.init mac key shadeId allowPositionWrites = .ok client ∧
              client.pairingKey.bytes = key := by
  refine ⟨parseStore_devicesOf python isStore, parseStore_shades python isStore, ?_⟩
  intro room _ entry _ digits spelled length allDigits
  have even : EvenHexDigits digits := ⟨by rw [length], allDigits⟩
  rcases bytesFromHex_lower python.tables even with ⟨key, read, twice, denotes⟩
  have keyLength : key.length = 32 := by omega
  have exported : (deviceOf python.tables room entry).key =
      python.tables.lower (Text.ofChars digits) := by
    rw [deviceOf, spelled]
    rfl
  rw [exported]
  exact ⟨key, read, keyLength, denotes, TiltShadeClient.init_accepts keyLength⟩

/-! ### Two rooms -/

def upperCaseKey : List Char := (List.replicate 32 ['C', 'D']).flatten

def officeShade : Json :=
  .dict [("id", .string "aa:bb"), ("pairingKey", .string (Text.ofChars upperCaseKey))]

/-- A shade that was never paired. -/
def spareShade : Json := .dict [("id", .string "ee:ff"), ("name", .string "Spare")]

def officeBridge : Json :=
  .dict [("id", .string "cc:dd"), ("name", .string "Bridge"), ("pairingKey", .string "Ab01")]

def office : Json :=
  .dict [("name", .string "Office"), ("rollerShades", .list [spareShade, officeShade]),
    ("bridges", .list [officeBridge])]

def atticShade : Json :=
  .dict [("id", .string "01:02"), ("name", .string "Skylight"), ("pairingKey", .string "0F")]

/-- A room without a list of bridges. -/
def attic : Json := .dict [("name", .string "Attic"), ("rollerShades", .list [atticShade])]

def houseStore : Json := .dict [("rooms", .list [office, attic])]

theorem houseStore_isStore : IsStore houseStore := by
  have spare : IsEntry spareShade := ⟨⟨_, rfl⟩, .inr ⟨_, rfl⟩, .inl rfl⟩
  have shade : IsEntry officeShade := ⟨⟨_, rfl⟩, .inr ⟨_, rfl⟩, .inr ⟨_, rfl⟩⟩
  have bridge : IsEntry officeBridge := ⟨⟨_, rfl⟩, .inr ⟨_, rfl⟩, .inr ⟨_, rfl⟩⟩
  have skylight : IsEntry atticShade := ⟨⟨_, rfl⟩, .inr ⟨_, rfl⟩, .inr ⟨_, rfl⟩⟩
  have isOffice : IsRoom office := by
    refine ⟨⟨_, rfl⟩, .inr ⟨[spareShade, officeShade], rfl, ?_⟩, .inr ⟨[officeBridge], rfl, ?_⟩⟩
    · simpa using ⟨spare, shade⟩
    · simpa using bridge
  have isAttic : IsRoom attic := by
    refine ⟨⟨_, rfl⟩, .inr ⟨[atticShade], rfl, ?_⟩, .inl rfl⟩
    simpa using skylight
  refine ⟨⟨_, rfl⟩, .inr ⟨[office, attic], rfl, ?_⟩⟩
  simpa using ⟨isOffice, isAttic⟩

/-- The spare shade is left out, and the bridge where it is not asked for. -/
theorem parseStore_exports_house :
    parseStore (.ascii fun _ => .error .valueError) houseStore true =
        .ok [⟨.string "aa:bb", "AA:BB", Text.ofChars (upperCaseKey.map Char.toLower),
            .string "Office", .rollerShade⟩,
          ⟨.string "Bridge", "CC:DD", "ab01", .string "Office", .bridge⟩,
          ⟨.string "Skylight", "01:02", "0f", .string "Attic", .rollerShade⟩] ∧
      parseStore (.ascii fun _ => .error .valueError) houseStore false =
        .ok [⟨.string "aa:bb", "AA:BB", Text.ofChars (upperCaseKey.map Char.toLower),
            .string "Office", .rollerShade⟩,
          ⟨.string "Skylight", "01:02", "0f", .string "Attic", .rollerShade⟩] ∧
      ∃ key, bytesFromHex (deviceOf .ascii office (.rollerShade, officeShade)).key = some key ∧
        key.length = 32 ∧ ofBigEndian key = hexNumeral upperCaseKey := by
  have exports := parseStore_exports (.ascii fun _ => .error .valueError) houseStore_isStore
  have inOffice : (DeviceKind.rollerShade, officeShade) ∈ entriesOf office :=
    List.mem_cons_of_mem _ (List.mem_cons_self ..)
  have digits : upperCaseKey.all (fun digit => (hexValue digit).isSome) = true := by decide
  rcases exports.2.2 office (List.mem_cons_self ..) _ inOffice upperCaseKey rfl rfl
    (List.all_eq_true.mp digits) with ⟨key, read, length, denotes, _⟩
  exact ⟨exports.1.trans rfl, exports.2.1.trans rfl, key, read, length, denotes⟩

end TiltCloud

end SmartblindsBle
