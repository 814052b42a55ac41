import MavlinkRouter.Library.StableSort
import MavlinkRouter.Mavlink.Frame

/-!
# The msgid table

What the build script makes of the message definitions of a dialect: the `crc_extra` byte and
the offsets of the target fields of each message, and the table of all of them. The script
panics on definitions that it cannot handle.
-/

namespace MavlinkRouter.Build

open Library (IsStableSort isStableSort_insertionSort)

/-- One field of a message; the array length of a scalar is 0. -/
structure ParsedField where
  name : String
  typeName : String
  arrayLength : UInt8
  isExtension : Bool
  deriving DecidableEq, Repr

/-- One message, with its fields in the order of their declaration. -/
structure ParsedMessage where
  id : UInt32
  name : String
  fields : List ParsedField
  deriving DecidableEq, Repr

/-- A row of the table while it is being built. -/
structure MsgEntryGen where
  name : String
  crcExtra : UInt8
  targetSysOffset : Option UInt8
  targetCompOffset : Option UInt8
  deriving DecidableEq, Repr

/-- Two definitions of one message that do not agree. -/
inductive MergeError where
  | crcExtraConflict (id : UInt32) (prevName newName : String) (prevCrc newCrc : UInt8)
  | nameConflict (id : UInt32) (prevName newName : String)
  deriving DecidableEq, Repr

/-- The panics of the build script. -/
inductive BuildPanic where
  | unknownType
  | targetOffset (field : String) (offset : ℕ)
  | payloadOverflow (field : String)
  | merge (error : MergeError)
  | noMessages
  | noHeartbeat
  deriving DecidableEq, Repr

/-- The size of one element; unknown types make the script panic. -/
def typeSize : String → Option ℕ
  | "char" => some 1
  | "int8_t" => some 1
  | "uint8_t" => some 1
  | "uint8_t_mavlink_version" => some 1
  | "int16_t" => some 2
  | "uint16_t" => some 2
  | "int32_t" => some 4
  | "uint32_t" => some 4
  | "float" => some 4
  | "int64_t" => some 8
  | "uint64_t" => some 8
  | "double" => some 8
  | _ => none

/-- A field as it is handed to the checksum. -/
structure CrcExtraField where
  name : String
  typeName : String
  arrayLength : UInt8
  isExtension : Bool
  deriving DecidableEq, Repr

/-- The size of an element of a field of a known type. -/
def CrcExtraField.elementSize (field : CrcExtraField) : ℕ :=
  (typeSize field.typeName).getD 0

namespace ParsedField

def toCrcExtraField (field : ParsedField) : CrcExtraField :=
  ⟨field.name, field.typeName, field.arrayLength, field.isExtension⟩

/-- The size of an element of a field of a known type. -/
def elementSize (field : ParsedField) : ℕ :=
  (typeSize field.typeName).getD 0

/-- The number of elements. -/
def elementCount (field : ParsedField) : ℕ :=
  if field.arrayLength = 0 then 1 else field.arrayLength.toNat

/-- The size of a field of a known type on the wire. -/
def wireSize (field : ParsedField) : ℕ :=
  field.elementSize * field.elementCount

/-- A scalar of type `uint8_t`. -/
def isScalarByte (field : ParsedField) : Bool :=
  field.arrayLength = 0 && field.typeName = "uint8_t"

end ParsedField

/-- The base fields of a message. -/
def baseFields (fields : List ParsedField) : List ParsedField :=
  fields.filter fun field => !field.isExtension

/-- The extension fields of a message. -/
def extensionFields (fields : List ParsedField) : List ParsedField :=
  fields.filter fun field => field.isExtension

/-- `sort_by`, larger elements first. A list of two or more fields is sorted by comparing the
sizes of all of them. -/
def sortBySize (base : List ParsedField) : Except BuildPanic (List ParsedField) :=
  if 2 ≤ base.length ∧ ∃ field ∈ base, typeSize field.typeName = none then .error .unknownType
  else .ok (base.insertionSort fun left right => right.elementSize ≤ left.elementSize)

/-- One byte of the checksum. -/
def crc16Update (crc : UInt16) (byte : UInt8) : UInt16 :=
  let tmp := byte ^^^ (crc &&& 0xFF).toUInt8
  let tmp := tmp ^^^ (tmp <<< 4)
  let tmp16 := tmp.toUInt16
  (crc >>> 8) ^^^ (tmp16 <<< 8) ^^^ (tmp16 <<< 3) ^^^ (tmp16 >>> 4)

/-- The bytes of a text and a blank. -/
def crcText (crc : UInt16) (text : String) : UInt16 :=
  crc16Update (text.toUTF8.data.toList.foldl crc16Update crc) 0x20

/-- The type that a field counts as in the checksum. -/
def crcType (typeName : String) : String :=
  if typeName = "uint8_t_mavlink_version" then "uint8_t" else typeName

/-- One field in the checksum. -/
def crcField (crc : UInt16) (field : CrcExtraField) : UInt16 :=
  let named := crcText (crcText crc (crcType field.typeName)) field.name
  if 0 < field.arrayLength then crc16Update named field.arrayLength else named

/-- The two bytes of a checksum in one. -/
def crcFold (crc : UInt16) : UInt8 :=
  let low : UInt16 := crc &&& 0xFF
  (low ^^^ (crc >>> 8)).toUInt8

/-- The `sort_by` of the checksum. -/
def sortCrcFields (base : List CrcExtraField) : Except BuildPanic (List CrcExtraField) :=
  if 2 ≤ base.length ∧ ∃ field ∈ base, typeSize field.typeName = none then .error .unknownType
  else .ok (base.insertionSort fun left right => right.elementSize ≤ left.elementSize)

def crcExtraForMessage (name : String) (fields : List CrcExtraField) :
    Except BuildPanic UInt8 := do
  let base ← sortCrcFields (fields.filter fun field => !field.isExtension)
  return crcFold (base.foldl crcField (crcText 0xFFFF name))

/-- The `crc_extra` byte of a message, from copies of its fields. -/
def ParsedMessage.crcExtra (msg : ParsedMessage) : Except BuildPanic UInt8 :=
  crcExtraForMessage msg.name (msg.fields.map ParsedField.toCrcExtraField)

/-- The offset of the next field, and the target fields met so far. -/
structure Layout where
  off : ℕ
  tsys : Option UInt8
  tcomp : Option UInt8
  deriving DecidableEq, Repr

namespace Layout

/-- Note a target field at the current offset, which must fit in a byte for every scalar. -/
def note (layout : Layout) (field : ParsedField) : Except BuildPanic Layout :=
  if field.isScalarByte then
    if layout.off < 2 ^ 8 then
      .ok (if field.name = "target_system" then
          { layout with tsys := some (UInt8.ofNat layout.off) }
        else if field.name = "target_component" then
          { layout with tcomp := some (UInt8.ofNat layout.off) }
        else layout)
    else .error (.targetOffset field.name layout.off)
  else .ok layout

/-- Go past a field; the offset is a `u16`. -/
def skip (layout : Layout) (field : ParsedField) : Except BuildPanic Layout :=
  match typeSize field.typeName with
  | none => .error .unknownType
  | some size =>
    if layout.off + size * field.elementCount < 2 ^ 16 then
      .ok { layout with off := layout.off + size * field.elementCount }
    else .error (.payloadOverflow field.name)

def place (layout : Layout) (field : ParsedField) : Except BuildPanic Layout := do
  (← layout.note field).skip field

end Layout

def computeOffsets (fields : List ParsedField) :
    Except BuildPanic (Option UInt8 × Option UInt8) := do
  let base ← sortBySize (baseFields fields)
  let layout ← base.foldlM Layout.place ⟨0, none, none⟩
  return (layout.tsys, layout.tcomp)

/-- The rows by their ids. -/
abbrev Entries := AList fun _ : UInt32 => MsgEntryGen

/-- A message that is already in the table must agree with its row, which stays as it is. -/
def mergeEntry (id : UInt32) (row : MsgEntryGen) (entries : Entries) :
    Except MergeError Entries :=
  match entries.lookup id with
  | some prev =>
    if prev.crcExtra ≠ row.crcExtra then
      .error (.crcExtraConflict id prev.name row.name prev.crcExtra row.crcExtra)
    else if prev.name ≠ row.name then .error (.nameConflict id prev.name row.name)
    else .ok entries
  | none => .ok (entries.insert id row)

def ingestMessage (entries : Entries) (msg : ParsedMessage) : Except BuildPanic Entries := do
  let crcExtra ← msg.crcExtra
  let (tsys, tcomp) ← computeOffsets msg.fields
  match mergeEntry msg.id ⟨msg.name, crcExtra, tsys, tcomp⟩ entries with
  | .ok merged => return merged
  | .error error => throw (.merge error)

/-- The messages of all dialects, in the order in which they are loaded. -/
def ingestAll (messages : List ParsedMessage) : Except BuildPanic Entries :=
  messages.foldlM ingestMessage ∅

/-- A row of the generated table. -/
def toRow (entry : Σ _ : UInt32, MsgEntryGen) : UInt32 × MsgEntry :=
  (entry.1, ⟨entry.2.crcExtra, entry.2.targetSysOffset, entry.2.targetCompOffset⟩)

/-- The rows in the order of their ids. -/
def sortedRows (entries : Entries) : List (UInt32 × MsgEntry) :=
  (entries.entries.map toRow).insertionSort fun a b => a.1 ≤ b.1

/-- Sorting keeps the rows. -/
theorem sortedRows_perm (entries : Entries) :
    (sortedRows entries).Perm (entries.entries.map toRow) :=
  List.perm_insertionSort _ _

/-- No id has two rows. -/
theorem pairwise_sortedRows (entries : Entries) :
    (sortedRows entries).Pairwise fun a b => a.1 < b.1 := by
  have htrans : IsTrans (UInt32 × MsgEntry) fun a b => a.1 ≤ b.1 :=
    ⟨fun _ _ _ hab hbc => UInt32.le_trans hab hbc⟩
  have htotal : Std.Total fun a b : UInt32 × MsgEntry => a.1 ≤ b.1 :=
    ⟨fun a b => UInt32.le_total a.1 b.1⟩
  have hordered : (sortedRows entries).Pairwise fun a b => a.1 ≤ b.1 :=
    List.pairwise_insertionSort _ _
  have hdistinct : (sortedRows entries).Pairwise fun a b => a.1 ≠ b.1 := by
    refine ((sortedRows_perm entries).pairwise_iff fun h => h.symm).mpr ?_
    exact List.pairwise_map.mpr entries.nodupKeys.pairwise_ne
  exact (hordered.and hdistinct).imp fun h => UInt32.lt_of_le_of_ne h.1 h.2

/-- The table that the router is compiled with. -/
def generate (entries : Entries) : MsgTable where
  rows := sortedRows entries
  sorted := pairwise_sortedRows entries

/-- The table that is written; it must have a row for HEARTBEAT. -/
def writeTable (entries : Entries) : Except BuildPanic MsgTable :=
  if entries.entries.isEmpty then .error .noMessages
  else if (entries.lookup 0).isNone then .error .noHeartbeat
  else .ok (generate entries)

/-- The whole build. -/
def buildTable (messages : List ParsedMessage) : Except BuildPanic MsgTable :=
  (ingestAll messages).bind writeTable

/-- A written table is the generated one. -/
theorem generate_of_writeTable {entries : Entries} {table : MsgTable}
    (h : writeTable entries = .ok table) : generate entries = table := by
  unfold writeTable at h
  split_ifs at h
  exact Except.ok.inj h

/-- The row of a message in the generated table. -/
theorem lookup_generate (entries : Entries) (id : UInt32) :
    (generate entries).lookup id = (entries.lookup id).map fun row => (toRow ⟨id, row⟩).2 := by
  refine Option.ext fun entry => ?_
  have hrows : (id, entry) ∈ (generate entries).rows ↔
      ∃ stored ∈ entries.entries, toRow stored = (id, entry) :=
    (sortedRows_perm entries).mem_iff.trans List.mem_map
  rw [MsgTable.lookup_eq_some_iff, hrows, Option.map_eq_some_iff]
  constructor
  · rintro ⟨⟨storedId, row⟩, hmem, hrow⟩
    obtain ⟨rfl, rfl⟩ := Prod.mk.inj hrow
    exact ⟨row, (List.mem_dlookup_iff entries.nodupKeys).mpr hmem, rfl⟩
  · rintro ⟨row, hlookup, rfl⟩
    exact ⟨⟨id, row⟩, (List.mem_dlookup_iff entries.nodupKeys).mp hlookup, rfl⟩

/-- The two sorts find the same order. -/
theorem sortCrcFields_map (base : List ParsedField) :
    sortCrcFields (base.map ParsedField.toCrcExtraField) =
      (sortBySize base).map (List.map ParsedField.toCrcExtraField) := by
  have hsorted : IsStableSort CrcExtraField.elementSize (base.map ParsedField.toCrcExtraField) _ :=
    (isStableSort_insertionSort ParsedField.elementSize base).map fun _ => rfl
  have hsort := (isStableSort_insertionSort CrcExtraField.elementSize
    (base.map ParsedField.toCrcExtraField)).unique hsorted
  have hunknown : (2 ≤ (base.map ParsedField.toCrcExtraField).length ∧
      ∃ field ∈ base.map ParsedField.toCrcExtraField, typeSize field.typeName = none) ↔
      2 ≤ base.length ∧ ∃ field ∈ base, typeSize field.typeName = none := by
    simp [ParsedField.toCrcExtraField]
  simp only [sortCrcFields, sortBySize, hunknown, hsort]
  split <;> rfl

/-- The copies of the base fields. -/
theorem filter_map_toCrcExtraField (fields : List ParsedField) :
    ((fields.map ParsedField.toCrcExtraField).filter fun field => !field.isExtension) =
      (baseFields fields).map ParsedField.toCrcExtraField := by
  rw [List.filter_map]
  rfl

/-- The checksum over the copies, in terms of the fields. -/
theorem crcExtraForMessage_map (name : String) (fields : List ParsedField) :
    crcExtraForMessage name (fields.map ParsedField.toCrcExtraField) =
      (sortBySize (baseFields fields)).map fun base => crcFold
        ((base.map ParsedField.toCrcExtraField).foldl crcField (crcText 0xFFFF name)) := by
  rw [crcExtraForMessage, filter_map_toCrcExtraField, sortCrcFields_map]
  cases sortBySize (baseFields fields) <;> rfl

/-- HEARTBEAT has the published `crc_extra`. -/
example : crcExtraForMessage "HEARTBEAT" [⟨"type", "uint8_t", 0, false⟩,
    ⟨"autopilot", "uint8_t", 0, false⟩, ⟨"base_mode", "uint8_t", 0, false⟩,
    ⟨"custom_mode", "uint32_t", 0, false⟩, ⟨"system_status", "uint8_t", 0, false⟩,
    ⟨"mavlink_version", "uint8_t_mavlink_version", 0, false⟩] = .ok 50 := by
  decide +kernel

end MavlinkRouter.Build
