import SmartblindsBle.Cloud.Export
import SmartblindsBle.Cloud.LegacyCloud
import SmartblindsBle.Legacy.Keys

/-! # What is exported of a legacy account

The blinds of an account, in their order, with the names of their rooms; and every
passkey as a text that the motor's client reads back.
-/

namespace SmartblindsBle

open Foundation

namespace LegacyCloud

/-! ## Accounts -/

inductive RoomId
  | number (value : Int)
  | text (value : Text)
  deriving DecidableEq

def RoomId.json : RoomId → Json
  | .number value => .int value
  | .text value => .string value

structure RoomRecord where
  id : RoomId
  name : Json

structure BlindRecord where
  name : Json
  address : Bytes
  passkey : Bytes
  room : Option RoomId
  deleted : Bool

structure Account where
  rooms : List RoomRecord
  blinds : List BlindRecord

/-- The name of a room, of the last one where several have the id. -/
def Account.roomName (account : Account) (id : RoomId) : Json :=
  ((account.rooms.reverse.find? fun room => room.id = id).map RoomRecord.name).getD .null

/-- What is exported of a blind. -/
def Account.export (account : Account) (blind : BlindRecord) : CloudBlind where
  name := blind.name
  mac := formatMac blind.address
  key := hexString blind.passkey
  room := (blind.room.map account.roomName).getD .null
  deleted := blind.deleted

def Account.exported (account : Account) (includeDeleted : Bool) : List CloudBlind :=
  (account.blinds.filter fun blind => includeDeleted || !blind.deleted).map account.export

/-! ## Documents that describe an account -/

/-- A text field in base 64, perhaps with line breaks. -/
def Spells (value : Json) (bytes : Bytes) : Prop :=
  ∃ chars, value = .string (Text.ofChars chars) ∧ (∀ value ∈ chars, value.toNat < 128) ∧
    SpellsBase64 chars bytes

/-- The object has this value under this name. -/
def Field (fields : List (Text × Json)) (name : Text) (value : Json) : Prop :=
  fields.lookup name = some value

theorem Field.subscript {fields : List (Text × Json)} {name : Text} {value : Json}
    (isField : Field fields name value) : subscript (.dict fields) name = .ok value := by
  unfold Field at isField
  simp only [LegacyCloud.subscript, isField]

structure RoomRecord.Fields (room : RoomRecord) (fields : List (Text × Json)) : Prop where
  id : Field fields "id" room.id.json
  name : Field fields "name" room.name

def RoomRecord.DescribedBy (room : RoomRecord) (entry : Json) : Prop :=
  ∃ fields, entry = .dict fields ∧ room.Fields fields

structure BlindRecord.Fields (blind : BlindRecord) (fields : List (Text × Json)) : Prop where
  name : Field fields "name" blind.name
  address : ∃ value, Field fields "encodedMacAddress" value ∧ Spells value blind.address
  passkey : ∃ value, Field fields "encodedPasskey" value ∧ Spells value blind.passkey
  room : Json.valueOf fields "roomId" = (blind.room.map RoomId.json).getD .null
  deleted : (Json.valueOf fields "deleted").truthy = blind.deleted

def BlindRecord.DescribedBy (blind : BlindRecord) (entry : Json) : Prop :=
  ∃ fields, entry = .dict fields ∧ blind.Fields fields

/-- The value is a list that describes the items in order, or missing where there are none. -/
def Lists {Item : Type} (describes : Item → Json → Prop) (items : List Item) (value : Json) :
    Prop :=
  ∃ entries, value.orElse (.list []) = .list entries ∧ List.Forall₂ describes items entries

structure Account.User (account : Account) (user : List (Text × Json)) : Prop where
  rooms : Lists RoomRecord.DescribedBy account.rooms (Json.valueOf user "rooms")
  blinds : Lists BlindRecord.DescribedBy account.blinds (Json.valueOf user "blinds")

/-- The reply to the query. -/
def Account.DescribedBy (account : Account) (document : Json) : Prop :=
  ∃ fields data user, document = .dict fields ∧ (Json.valueOf fields "errors").truthy = false ∧
    Json.valueOf fields "data" = .dict data ∧ Json.valueOf data "user" = .dict user ∧
    account.User user

/-! ## The loops -/

variable {python : LegacyLibrary} {account : Account}

theorem b64decode_spells {value : Json} {bytes : Bytes} (spells : Spells value bytes) :
    b64decode value = .ok bytes := by
  rcases spells with ⟨chars, rfl, ascii, spelled⟩
  have allAscii : (chars.all fun value => value.toNat < 128) = true := by
    rw [List.all_eq_true]
    intro value member
    exact decide_eq_true (ascii value member)
  simp only [b64decode, Text.chars?_ofChars, allAscii, if_true, spelled.decode]

@[simp] theorem sameKey_ids (left right : RoomId) :
    sameKey python left.json right.json = decide (left = right) := by
  cases left <;> cases right <;> simp [sameKey, RoomId.json, integer?]

theorem sameKey_null (id : RoomId) : sameKey python id.json .null = false := by
  cases id <;> rfl

theorem hashable_id (id : RoomId) : id.json.hashable = true := by
  cases id <;> rfl

/-- What is found under an id. -/
def findRoom (python : LegacyLibrary) (table : RoomTable) (id : RoomId) : Option Json :=
  (table.find? fun room => sameKey python room.1 id.json).map Prod.snd

/-- The table after some rooms: under an id stands the last of them that has it. -/
structure Holds (python : LegacyLibrary) (rooms : List RoomRecord) (table : RoomTable) :
    Prop where
  keys : ∀ room ∈ table, ∃ id : RoomId, room.1 = id.json
  found : ∀ id, findRoom python table id =
    (rooms.reverse.find? fun room => room.id = id).map RoomRecord.name

theorem findRoom_cons (python : LegacyLibrary) (key id : RoomId) (name : Json)
    (table : RoomTable) :
    findRoom python ((key.json, name) :: table) id =
      if key = id then some name else findRoom python table id := by
  rw [findRoom, List.find?_cons, sameKey_ids]
  split
  · next same =>
      rw [if_pos (of_decide_eq_true same)]
      rfl
  · next differ =>
      rw [if_neg (of_decide_eq_false differ)]
      rfl

theorem findRoom_setRoom {table : RoomTable}
    (keys : ∀ room ∈ table, ∃ id : RoomId, room.1 = id.json) (key id : RoomId) (name : Json) :
    findRoom python (setRoom python key.json name table) id =
      if key = id then some name else findRoom python table id := by
  induction table with
  | nil => exact findRoom_cons python key id name []
  | cons room table induction =>
      rcases room with ⟨first, other⟩
      have later := induction fun room member => keys room (List.mem_cons_of_mem _ member)
      have isId : ∃ id : RoomId, first = id.json := keys _ (List.mem_cons_self ..)
      rcases isId with ⟨firstId, rfl⟩
      rw [setRoom, sameKey_ids, findRoom_cons python firstId]
      by_cases same : firstId = key
      · subst same
        rw [decide_eq_true rfl, if_pos rfl, findRoom_cons]
        split
        · rfl
        · rfl
      · rw [decide_eq_false same, if_neg Bool.false_ne_true, findRoom_cons, later]
        by_cases isFirst : firstId = id
        · rw [if_pos isFirst, if_pos isFirst,
            if_neg fun isKey => same (isFirst.trans isKey.symm)]
        · rw [if_neg isFirst, if_neg isFirst]

theorem setRoom_keys {table : RoomTable}
    (keys : ∀ room ∈ table, ∃ id : RoomId, room.1 = id.json) (key : RoomId) (name : Json) :
    ∀ room ∈ setRoom python key.json name table, ∃ id : RoomId, room.1 = id.json := by
  induction table with
  | nil =>
      intro room member
      rw [List.mem_singleton.mp member]
      exact ⟨key, rfl⟩
  | cons first table induction =>
      have later := induction fun room member => keys room (List.mem_cons_of_mem _ member)
      intro room member
      rw [setRoom] at member
      split at member
      · rcases List.mem_cons.mp member with rfl | inRest
        · exact keys first (List.mem_cons_self ..)
        · exact keys room (List.mem_cons_of_mem _ inRest)
      · rcases List.mem_cons.mp member with rfl | inRest
        · exact keys room (List.mem_cons_self ..)
        · exact later room inRest

theorem addRoom_described {rooms : List RoomRecord} {table : RoomTable}
    (holds : Holds python rooms table) {room : RoomRecord} {entry : Json}
    (described : room.DescribedBy entry) :
    ∃ after, addRoom python table entry = .ok after ∧ Holds python (rooms ++ [room]) after := by
  rcases described with ⟨fields, rfl, isRoom⟩
  refine ⟨setRoom python room.id.json room.name table, ?_, ?_⟩
  · simp only [addRoom, isRoom.id.subscript, isRoom.name.subscript, hashable_id, bind,
      Except.bind, if_true]
    rfl
  · constructor
    · exact setRoom_keys holds.keys room.id room.name
    · intro id
      rw [findRoom_setRoom holds.keys, List.reverse_append, List.reverse_singleton,
        List.singleton_append, List.find?_cons]
      by_cases same : room.id = id
      · rw [if_pos same, decide_eq_true same]
        rfl
      · rw [if_neg same, decide_eq_false same, holds.found]

theorem addRooms_described {rooms : List RoomRecord} {entries : List Json}
    (described : List.Forall₂ RoomRecord.DescribedBy rooms entries) :
    ∃ table, entries.foldlM (addRoom python) [] = .ok table ∧ Holds python rooms table := by
  have start : Holds python [] [] := ⟨nofun, fun _ => rfl⟩
  have loop : ∀ (before : List RoomRecord) (table : RoomTable), Holds python before table →
      ∃ after, entries.foldlM (addRoom python) table = .ok after ∧
        Holds python (before ++ rooms) after := by
    induction described with
    | nil =>
        intro before table holds
        refine ⟨table, rfl, ?_⟩
        rwa [List.append_nil]
    | @cons room entry rooms entries isRoom _ induction =>
        intro before table holds
        rcases addRoom_described holds isRoom with ⟨middle, added, holdsMiddle⟩
        rcases induction (before ++ [room]) middle holdsMiddle with ⟨after, folded, holdsAfter⟩
        refine ⟨after, ?_, ?_⟩
        · rw [List.foldlM_cons, added]
          exact folded
        · rwa [List.append_assoc] at holdsAfter
  exact loop [] [] start

theorem getRoom_described {table : RoomTable} (holds : Holds python account.rooms table)
    (room : Option RoomId) :
    getRoom python table ((room.map RoomId.json).getD .null) =
      .ok ((room.map account.roomName).getD .null) := by
  cases room with
  | none =>
      have nothing : (table.find? fun room => sameKey python room.1 .null) = none := by
        rw [List.find?_eq_none]
        intro room member isNull
        rcases holds.keys room member with ⟨id, isId⟩
        rw [isId, sameKey_null] at isNull
        cases isNull
      simp only [getRoom, Option.map_none, Option.getD_none, nothing]
      rfl
  | some id =>
      have found := holds.found id
      rw [findRoom] at found
      simp only [getRoom, Option.map_some, Option.getD_some, hashable_id, if_true, found,
        Account.roomName]

/-- One pass of the loop over the blinds. -/
theorem exportEntry_described {table : RoomTable} (holds : Holds python account.rooms table)
    {blind : BlindRecord} {entry : Json} (described : blind.DescribedBy entry)
    (includeDeleted : Bool) :
    exportEntry python table includeDeleted entry =
      .ok (if includeDeleted || !blind.deleted then [account.export blind] else []) := by
  rcases described with ⟨fields, rfl, isBlind⟩
  rcases isBlind.address with ⟨address, isAddress, spellsAddress⟩
  rcases isBlind.passkey with ⟨passkey, isPasskey, spellsPasskey⟩
  have room := getRoom_described holds blind.room
  rw [← isBlind.room] at room
  have deleted : get (.dict fields) "deleted" = .ok (Json.valueOf fields "deleted") := rfl
  have roomId : get (.dict fields) "roomId" = .ok (Json.valueOf fields "roomId") := rfl
  rw [exportEntry, deleted]
  simp only [bind, Except.bind, isBlind.deleted]
  cases skipped : blind.deleted && !includeDeleted with
  | true =>
      have dropped : (includeDeleted || !blind.deleted) = false := by
        rw [Bool.and_eq_true, Bool.not_eq_true'] at skipped
        rw [skipped.1, skipped.2]
        rfl
      rw [dropped]
      rfl
  | false =>
      have kept : (includeDeleted || !blind.deleted) = true := by
        rw [← Bool.not_eq_false', Bool.not_or, Bool.not_not, Bool.and_comm]
        simpa using skipped
      rw [kept]
      simp only [isBlind.name.subscript, isAddress.subscript, isPasskey.subscript,
        b64decode_spells spellsAddress, b64decode_spells spellsPasskey, roomId, room]
      rfl

theorem exportEntries_described {table : RoomTable} (holds : Holds python account.rooms table)
    (includeDeleted : Bool) {blinds : List BlindRecord} {entries : List Json}
    (described : List.Forall₂ BlindRecord.DescribedBy blinds entries) :
    entries.mapM (exportEntry python table includeDeleted) =
      .ok (blinds.map fun blind =>
        if includeDeleted || !blind.deleted then [account.export blind] else []) := by
  induction described with
  | nil => rfl
  | cons isBlind _ induction =>
      rw [mapM_cons, exportEntry_described holds isBlind includeDeleted, induction]
      rfl

theorem orElse_dict (fields : List (Text × Json)) :
    (Json.dict fields).orElse (.dict []) = .dict fields := by
  cases fields with
  | nil => rfl
  | cons field fields => rfl

theorem exportDocument_described (python : LegacyLibrary) {document : Json}
    (described : account.DescribedBy document) (includeDeleted : Bool) :
    exportDocument python includeDeleted document = .ok (account.exported includeDeleted) := by
  rcases described with ⟨fields, data, user, rfl, noErrors, isData, isUser, isAccount⟩
  rcases isAccount.rooms with ⟨roomEntries, listedRooms, rooms⟩
  rcases isAccount.blinds with ⟨blindEntries, listedBlinds, blinds⟩
  have table : ∃ table, roomEntries.foldlM (addRoom python) [] = .ok table ∧
      Holds python account.rooms table := addRooms_described rooms
  rcases table with ⟨table, added, holds⟩
  have exported := exportEntries_described holds includeDeleted blinds
  have found : ∀ (fields : List (Text × Json)) (name : Text),
      get (.dict fields) name = .ok (Json.valueOf fields name) := fun _ _ => rfl
  have iterated : ∀ entries, iterate (.list entries) = .ok entries := fun _ => rfl
  simp only [exportDocument, bind, Except.bind, found, noErrors, isData, isUser, orElse_dict,
    listedRooms, listedBlinds, iterated, added, exported, Account.exported,
    ← TiltCloud.flatMap_ite, List.flatMap_def]
  rfl

/-! ## Addresses and keys -/

theorem upperHex_injective {left right : UInt8} (same : upperHex left = upperHex right) :
    left = right := by
  have digit : ∀ value < 16, hexValue (hexDigit value).toUpper = some value := by
    decide +kernel
  have leftBound := left.toNat_lt
  have rightBound := right.toNat_lt
  simp only [upperHex, List.cons.injEq, and_true] at same
  have high := congrArg hexValue same.1
  have low := congrArg hexValue same.2
  rw [digit _ (by omega), digit _ (by omega), Option.some.injEq] at high low
  apply UInt8.toNat_inj.mp
  omega

theorem colonHex_injective {left right : Bytes} (sameLength : left.length = right.length)
    (same : colonHex left = colonHex right) : left = right := by
  induction left using colonHex.induct generalizing right with
  | case1 => exact (List.length_eq_zero_iff.mp sameLength.symm).symm
  | case2 byte =>
      rcases List.length_eq_one_iff.mp sameLength.symm with ⟨other, rfl⟩
      rw [upperHex_injective same]
  | case3 byte rest nonempty induction =>
      cases right with
      | nil => cases sameLength
      | cons other others =>
          have restLength : rest.length = others.length := Nat.succ.inj sameLength
          have otherNonempty : others ≠ [] := by
            rintro rfl
            exact nonempty (List.length_eq_zero_iff.mp restLength)
          rw [colonHex.eq_3 byte rest nonempty, colonHex.eq_3 other others otherNonempty] at same
          have parts := List.append_inj same rfl
          rw [upperHex_injective parts.1, induction restLength (List.cons.inj parts.2).2]

/-- The export of a legacy account. For every account, and every reply to the query that
describes it, whatever else the reply holds and however its base 64 is broken into lines:
the blinds are exported in their order, without the deleted ones unless they are asked for,
each with the name of the last room that has its room id. Every exported key is read back by
the motor's client as the account's passkey, and different addresses of six bytes are
exported as different texts. -/
theorem fetchBlinds_exports_account (packages : Packages) (python : LegacyLibrary)
    (characters : CharacterTables) (account : Account) (username password token : Text)
    (includeDeleted : Bool) (tokens : List (Text × Json)) (document : Json)
    (loggedIn : packages.login username password = .ok tokens)
    (hasToken : (Json.valueOf tokens token).truthy = true)
    (replied : packages.post ("Bearer " ++ (Json.valueOf tokens token).str python.tables)
      userQuery = .ok document)
    (described : account.DescribedBy document) :
    fetchBlinds packages python username password includeDeleted token =
        .ok (account.exported includeDeleted) ∧
      (∀ blind ∈ account.blinds,
        normalizeKey characters (.text (account.export blind).key) = .ok blind.passkey) ∧
      ∀ first ∈ account.blinds, ∀ second ∈ account.blinds,
        first.address.length = 6 → second.address.length = 6 →
          (account.export first).mac = (account.export second).mac →
            first.address = second.address := by
  refine ⟨?_, ?_, ?_⟩
  · rw [fetchBlinds, loggedIn]
    simp only [bind, Except.bind, graphql, hasToken, if_true, replied]
    exact exportDocument_described python described includeDeleted
  · intro blind _
    exact normalizeKey_hexString characters blind.passkey
  · intro first _ second _ firstSix secondSix same
    simp only [Account.export, formatMac, firstSix, secondSix, if_true, String.ofList_inj] at same
    exact colonHex_injective (firstSix.trans secondSix.symm) same

/-! ## A sample account -/

def kitchen : Account where
  rooms := [⟨.number 7, .string "Kitchen"⟩]
  blinds := [⟨.string "Left", [1, 2, 3, 4, 5, 0xAB], [0x5C], some (.number 7), false⟩,
    ⟨.string "Old", [1, 2, 3, 4, 5, 6], [0xFF, 0], none, true⟩]

def kitchenDocument : Json :=
  .dict [("data", .dict [("user", .dict [
    ("rooms", .list [.dict [("id", .int 7), ("name", .string "Kitchen")]]),
    ("blinds", .list [
      .dict [("name", .string "Left"), ("encodedMacAddress", .string "AQIDBAWr"),
        ("encodedPasskey", .string "XA==\n"), ("roomId", .int 7), ("deleted", .bool false)],
      .dict [("name", .string "Old"), ("encodedMacAddress", .string "AQIDBAUG"),
        ("encodedPasskey", .string "/wA="), ("deleted", .bool true)]])])])]

theorem spells_literal {text : String} {bytes : Bytes}
    (spelled : (text.toList.all fun value => value.toNat < 128) = true ∧
      text.toList.filter isBase64 = base64Chars bytes) : Spells (.string text) bytes := by
  refine ⟨text.toList, rfl, ?_, spelled.2⟩
  intro value member
  exact of_decide_eq_true (List.all_eq_true.mp spelled.1 value member)

theorem kitchen_describedBy : kitchen.DescribedBy kitchenDocument := by
  refine ⟨_, _, _, rfl, rfl, rfl, rfl, ⟨_, rfl, ?_⟩, ⟨_, rfl, ?_⟩⟩
  · exact .cons ⟨_, rfl, rfl, rfl⟩ .nil
  · have left : BlindRecord.DescribedBy ⟨.string "Left", [1, 2, 3, 4, 5, 0xAB], [0x5C],
        some (.number 7), false⟩ (.dict [("name", .string "Left"),
          ("encodedMacAddress", .string "AQIDBAWr"), ("encodedPasskey", .string "XA==\n"),
          ("roomId", .int 7), ("deleted", .bool false)]) :=
      ⟨_, rfl, rfl, ⟨_, rfl, spells_literal (by decide +kernel)⟩,
        ⟨_, rfl, spells_literal (by decide +kernel)⟩, rfl, rfl⟩
    have old : BlindRecord.DescribedBy ⟨.string "Old", [1, 2, 3, 4, 5, 6], [0xFF, 0], none, true⟩
        (.dict [("name", .string "Old"), ("encodedMacAddress", .string "AQIDBAUG"),
          ("encodedPasskey", .string "/wA="), ("deleted", .bool true)]) :=
      ⟨_, rfl, rfl, ⟨_, rfl, spells_literal (by decide +kernel)⟩,
        ⟨_, rfl, spells_literal (by decide +kernel)⟩, rfl, rfl⟩
    exact .cons left (.cons old .nil)

/-- Only one token, and one reply to the query. -/
def kitchenPackages : Packages where
  login _ _ := .ok [("access_token", .string "abc")]
  post _ query := if query = userQuery then .ok kitchenDocument else .error .typeError

def asciiLibrary : LegacyLibrary := ⟨.ascii, fun _ _ => false⟩

/-- One of two blinds is deleted. -/
theorem fetchBlinds_exports_account_kitchen :
    fetchBlinds kitchenPackages asciiLibrary "user" "password" false "access_token" =
      .ok [⟨.string "Left", "01:02:03:04:05:AB", "5c", .string "Kitchen", false⟩] := by
  have replied : ∀ authorization, kitchenPackages.post authorization userQuery =
      .ok kitchenDocument := by
    intro _
    simp only [kitchenPackages, if_true]
  have exported := (fetchBlinds_exports_account kitchenPackages asciiLibrary .ascii kitchen "user"
    "password" "access_token" false _ kitchenDocument rfl rfl (replied _) kitchen_describedBy).1
  rw [exported]
  rfl

end LegacyCloud

end SmartblindsBle
