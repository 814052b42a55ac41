import MavlinkRouter.Build.Dialect
import MavlinkRouter.Library.Fallible
import MavlinkRouter.Mavlink.Framer

/-!
# Target offsets

On the wire the base fields of a message come first, larger elements first and otherwise in the
order of their declaration, and then the extension fields in the order of their declaration. The
build script lays out the base fields only. So it finds the target fields among them at their
offsets, and it misses those that are extensions.
-/

namespace MavlinkRouter.Build

open Library (IsStableSort isStableSort_insertionSort bind_eq_ok foldlM_induction)

/-- A scalar `uint8_t` field of a given name. -/
def IsTarget (name : String) (field : ParsedField) : Prop :=
  field.isScalarByte = true ∧ field.name = name

instance (name : String) (field : ParsedField) : Decidable (IsTarget name field) :=
  inferInstanceAs (Decidable (_ ∧ _))

/-- The size of some fields together. -/
def totalSize (fields : List ParsedField) : ℕ :=
  (fields.map ParsedField.wireSize).sum

/-- The total size of the fields before the target field of a given name, if there is one. -/
def offsetOf (name : String) : List ParsedField → Option ℕ
  | [] => none
  | field :: rest =>
    if IsTarget name field then some 0 else (offsetOf name rest).map (field.wireSize + ·)

@[simp] private theorem totalSize_nil : totalSize [] = 0 := rfl

@[simp] private theorem totalSize_cons (field : ParsedField) (fields : List ParsedField) :
    totalSize (field :: fields) = field.wireSize + totalSize fields := rfl

@[simp] private theorem totalSize_append (fields fields' : List ParsedField) :
    totalSize (fields ++ fields') = totalSize fields + totalSize fields' := by
  simp [totalSize]

/-- Only a missing field has no offset. -/
theorem offsetOf_eq_none_iff {name : String} {fields : List ParsedField} :
    offsetOf name fields = none ↔ ∀ field ∈ fields, ¬ IsTarget name field := by
  induction fields with
  | nil => simp [offsetOf]
  | cons field rest ih =>
    rw [offsetOf, List.forall_mem_cons, ← ih]
    by_cases htarget : IsTarget name field
    · simp [htarget]
    · simp [htarget]

/-- The fields of one list come after those of another. -/
theorem offsetOf_append (name : String) (fields fields' : List ParsedField) :
    offsetOf name (fields ++ fields') =
      (offsetOf name fields).or ((offsetOf name fields').map (totalSize fields + ·)) := by
  induction fields with
  | nil => simp [offsetOf]
  | cons field rest ih =>
    rw [List.cons_append, offsetOf, offsetOf, ih]
    by_cases htarget : IsTarget name field
    · simp [htarget]
    · rw [if_neg htarget, if_neg htarget]
      cases offsetOf name rest with
      | some offset => rfl
      | none =>
        cases offsetOf name fields' with
        | some offset => simp [Nat.add_assoc]
        | none => rfl

/-- The layout after a number of fields. -/
structure Laid (placed : List ParsedField) (layout : Layout) : Prop where
  off : layout.off = totalSize placed
  tsys : layout.tsys.map UInt8.toNat = offsetOf "target_system" placed
  tcomp : layout.tcomp.map UInt8.toNat = offsetOf "target_component" placed

variable {placed : List ParsedField} {layout noted after : Layout} {field : ParsedField}

/-- The first field of the target's name is found at the current offset, and other fields change
nothing. -/
theorem offsetOf_snoc {name : String} {offset : Option UInt8} (hoff : layout.off = totalSize placed)
    (hoffset : offset.map UInt8.toNat = offsetOf name placed)
    (hnew : ∀ other ∈ placed, other.name ≠ field.name)
    (hbyte : field.isScalarByte = true → layout.off < 2 ^ 8) :
    (if IsTarget name field then some (UInt8.ofNat layout.off) else offset).map UInt8.toNat =
      offsetOf name (placed ++ [field]) := by
  rw [offsetOf_append, offsetOf]
  by_cases htarget : IsTarget name field
  · have hnone : offsetOf name placed = none :=
      offsetOf_eq_none_iff.mpr fun other hother hother' =>
        hnew other hother (hother'.2.trans htarget.2.symm)
    rw [if_pos htarget, if_pos htarget, hnone, Option.map_some,
      UInt8.toNat_ofNat_of_lt' (hbyte htarget.1), hoff]
    rfl
  · rw [if_neg htarget, if_neg htarget, hoffset]
    cases offsetOf name placed <;> rfl

/-- Noting a field. -/
theorem Layout.note_eq_ok (h : layout.note field = .ok noted) :
    noted.off = layout.off ∧
      noted.tsys = (if IsTarget "target_system" field then some (UInt8.ofNat layout.off)
        else layout.tsys) ∧
      noted.tcomp = (if IsTarget "target_component" field then some (UInt8.ofNat layout.off)
        else layout.tcomp) ∧
      (field.isScalarByte = true → layout.off < 2 ^ 8) := by
  rw [Layout.note] at h
  split at h
  case isTrue hscalar =>
    split at h
    case isTrue hbyte =>
      cases h
      simp only [IsTarget, hscalar, true_and]
      split_ifs <;> simp_all
    case isFalse => cases h
  case isFalse hscalar =>
    cases h
    simp [IsTarget, hscalar]

private theorem Layout.skip_eq_ok (h : layout.skip field = .ok after) :
    after = { layout with off := layout.off + field.wireSize } := by
  rw [Layout.skip] at h
  split at h
  case h_1 => cases h
  case h_2 size hsize =>
    split at h
    case isTrue =>
      cases h
      simp [ParsedField.wireSize, ParsedField.elementSize, hsize]
    case isFalse => cases h

/-- A round of the loop lays out one more field. -/
theorem Laid.place (h : Laid placed layout) (hnew : ∀ other ∈ placed, other.name ≠ field.name)
    (hplace : layout.place field = .ok after) : Laid (placed ++ [field]) after := by
  obtain ⟨noted, hnote, hskip⟩ := bind_eq_ok.mp hplace
  obtain ⟨hoff, htsys, htcomp, hbyte⟩ := Layout.note_eq_ok hnote
  obtain rfl := Layout.skip_eq_ok hskip
  constructor
  case off =>
    change noted.off + field.wireSize = _
    rw [hoff, h.off, totalSize_append, totalSize_cons, totalSize_nil, Nat.add_zero]
  case tsys =>
    change noted.tsys.map UInt8.toNat = _
    rw [htsys]
    exact offsetOf_snoc h.off h.tsys hnew hbyte
  case tcomp =>
    change noted.tcomp.map UInt8.toNat = _
    rw [htcomp]
    exact offsetOf_snoc h.off h.tcomp hnew hbyte

/-- The whole loop lays out fields of distinct names. -/
theorem laid_of_foldlM {fields : List ParsedField} (hnames : (fields.map (·.name)).Nodup)
    (h : fields.foldlM Layout.place ⟨0, none, none⟩ = .ok layout) : Laid fields layout := by
  refine foldlM_induction (motive := Laid) ⟨rfl, rfl, rfl⟩ ?_ h
  intro done before item after hinit hlaid hplace
  refine hlaid.place ?_ hplace
  intro other hother hname
  have hnodup : ((done ++ [item]).map (·.name)).Nodup :=
    hnames.sublist (hinit.sublist.map _)
  rw [List.map_append, List.nodup_append] at hnodup
  exact hnodup.2.2 _ (List.mem_map_of_mem hother) _ (by simp) hname

variable {fields sorted : List ParsedField} {tsys tcomp : Option UInt8}

/-- The sort is stable. -/
theorem sortBySize_eq_ok {base result : List ParsedField} (h : sortBySize base = .ok result) :
    IsStableSort ParsedField.elementSize base result := by
  rw [sortBySize] at h
  split at h
  · cases h
  · cases h
    exact isStableSort_insertionSort ParsedField.elementSize base

/-- The script finds the target fields at their offsets among the base fields. -/
theorem computeOffsets_eq_ok (hnames : (fields.map (·.name)).Nodup)
    (hsorted : IsStableSort ParsedField.elementSize (baseFields fields) sorted)
    (h : computeOffsets fields = .ok (tsys, tcomp)) :
    tsys.map UInt8.toNat = offsetOf "target_system" sorted ∧
      tcomp.map UInt8.toNat = offsetOf "target_component" sorted := by
  obtain ⟨base, hsort, h⟩ := bind_eq_ok.mp h
  obtain ⟨layout, hloop, hreturn⟩ := bind_eq_ok.mp h
  cases hreturn
  have hbase := sortBySize_eq_ok hsort
  have hperm : base.Perm (baseFields fields) := hbase.perm
  have hnodup : (base.map (·.name)).Nodup :=
    ((hperm.map _).nodup_iff).mpr (hnames.sublist (List.filter_sublist.map _))
  have hlaid := laid_of_foldlM hnodup hloop
  rw [← hbase.unique hsorted]
  exact ⟨hlaid.tsys, hlaid.tcomp⟩

/-- The offset among the base fields is the offset on the wire unless the target field is an
extension. -/
theorem offsetOf_base_eq_iff (name : String) (hnames : (fields.map (·.name)).Nodup)
    (hsorted : IsStableSort ParsedField.elementSize (baseFields fields) sorted) :
    offsetOf name sorted = offsetOf name (sorted ++ extensionFields fields) ↔
      ∀ field ∈ extensionFields fields, ¬ IsTarget name field := by
  rw [offsetOf_append]
  constructor
  · intro h field hfield htarget
    -- The names are distinct, so no base field has this one.
    have hbase : offsetOf name sorted = none := by
      refine offsetOf_eq_none_iff.mpr fun other hother hother' => ?_
      have hmem := List.mem_filter.mp (hsorted.perm.mem_iff.mp hother)
      have hmem' := List.mem_filter.mp hfield
      have heq : other = field := List.inj_on_of_nodup_map hnames hmem.1 hmem'.1
        (hother'.2.trans htarget.2.symm)
      have hkind := hmem.2
      rw [heq, hmem'.2] at hkind
      cases hkind
    rw [hbase, Option.none_or] at h
    exact offsetOf_eq_none_iff.mp (Option.map_eq_none_iff.mp h.symm) field hfield htarget
  · intro h
    rw [offsetOf_eq_none_iff.mpr h, Option.map_none, Option.or_none]

/-- The row that a message makes if it is the first one of its id. -/
def rowOf (msg : ParsedMessage) : Except BuildPanic MsgEntryGen := do
  let crcExtra ← msg.crcExtra
  let (tsys, tcomp) ← computeOffsets msg.fields
  return ⟨msg.name, crcExtra, tsys, tcomp⟩

section Table

variable {entries merged : Entries} {msg : ParsedMessage} {id : UInt32} {row : MsgEntryGen}

/-- The parts of a row. -/
theorem rowOf_eq_ok_iff :
    rowOf msg = .ok row ↔
      row.name = msg.name ∧ msg.crcExtra = .ok row.crcExtra ∧
        computeOffsets msg.fields = .ok (row.targetSysOffset, row.targetCompOffset) := by
  constructor
  · intro h
    obtain ⟨crcExtra, hcrc, h⟩ := bind_eq_ok.mp h
    obtain ⟨⟨tsys, tcomp⟩, hoffsets, h⟩ := bind_eq_ok.mp h
    cases h
    exact ⟨rfl, hcrc, hoffsets⟩
  · rintro ⟨hname, hcrc, hoffsets⟩
    refine bind_eq_ok.mpr ⟨_, hcrc, bind_eq_ok.mpr ⟨_, hoffsets, ?_⟩⟩
    rw [← hname]
    rfl

/-- A row is merged if it is the first one of its id, or agrees with the one that is there. -/
theorem mergeEntry_eq_ok_iff :
    mergeEntry id row entries = .ok merged ↔
      (entries.lookup id = none ∧ merged = entries.insert id row) ∨
        ∃ prev, entries.lookup id = some prev ∧ prev.crcExtra = row.crcExtra ∧
          prev.name = row.name ∧ merged = entries := by
  unfold mergeEntry
  cases entries.lookup id with
  | none => simp [eq_comm]
  | some prev =>
    by_cases hcrc : prev.crcExtra = row.crcExtra
    · by_cases hname : prev.name = row.name
      · simp [hcrc, hname, eq_comm]
      · simp [hcrc, hname]
    · simp [hcrc]

/-- Ingesting a message is merging its row. -/
theorem ingestMessage_eq_ok_iff :
    ingestMessage entries msg = .ok merged ↔
      ∃ row, rowOf msg = .ok row ∧ mergeEntry msg.id row entries = .ok merged := by
  constructor
  · intro h
    obtain ⟨crcExtra, hcrc, h⟩ := bind_eq_ok.mp h
    obtain ⟨⟨tsys, tcomp⟩, hoffsets, h⟩ := bind_eq_ok.mp h
    refine ⟨⟨msg.name, crcExtra, tsys, tcomp⟩, rowOf_eq_ok_iff.mpr ⟨rfl, hcrc, hoffsets⟩, ?_⟩
    dsimp only at h
    split at h
    case h_1 result hmerge =>
      cases h
      exact hmerge
    case h_2 => cases h
  · rintro ⟨row, hrow, hmerge⟩
    obtain ⟨hname, hcrc, hoffsets⟩ := rowOf_eq_ok_iff.mp hrow
    refine bind_eq_ok.mpr ⟨_, hcrc, bind_eq_ok.mpr ⟨_, hoffsets, ?_⟩⟩
    dsimp only
    rw [← hname, hmerge]
    rfl

/-- A row is added if its id has none, and all the other rows stay. -/
theorem lookup_mergeEntry (h : mergeEntry id row entries = .ok merged) (key : UInt32) :
    merged.lookup key =
      (entries.lookup key).or (if key = id then some row else none) := by
  rcases mergeEntry_eq_ok_iff.mp h with ⟨hnone, rfl⟩ | ⟨prev, hprev, -, -, rfl⟩
  · by_cases hkey : key = id
    · rw [hkey, AList.lookup_insert, hnone, if_pos rfl]
      rfl
    · rw [AList.lookup_insert_ne hkey, if_neg hkey, Option.or_none]
  · by_cases hkey : key = id
    · rw [hkey, hprev]
      rfl
    · rw [if_neg hkey, Option.or_none]

/-- The rows after a message. -/
theorem lookup_ingestMessage (h : ingestMessage entries msg = .ok merged) :
    ∃ row, rowOf msg = .ok row ∧ ∀ key, merged.lookup key =
      (entries.lookup key).or (if key = msg.id then some row else none) := by
  obtain ⟨row, hrow, hmerge⟩ := ingestMessage_eq_ok_iff.mp h
  exact ⟨row, hrow, lookup_mergeEntry hmerge⟩

/-- An id has no row before its first message. -/
theorem lookup_ingestAll_eq_none {messages : List ParsedMessage}
    (hfirst : ∀ msg ∈ messages, msg.id ≠ id)
    (h : ingestAll messages = .ok entries) : entries.lookup id = none := by
  refine foldlM_induction (motive := fun _ reached => reached.lookup id = none) ?_ ?_ h
  · exact AList.lookup_empty id
  · intro done before item after hinit hnone hingest
    obtain ⟨row, -, hlookup⟩ := lookup_ingestMessage hingest
    have hitem : item ∈ messages := hinit.subset (by simp)
    rw [hlookup, hnone, if_neg (hfirst item hitem).symm]
    rfl

/-- A row stays. -/
theorem lookup_foldlM_ingestMessage {messages : List ParsedMessage}
    (hrow : entries.lookup id = some row)
    (h : messages.foldlM ingestMessage entries = .ok merged) : merged.lookup id = some row := by
  refine foldlM_induction (motive := fun _ reached => reached.lookup id = some row) hrow ?_ h
  intro done before item after hinit hbefore hingest
  obtain ⟨_, -, hlookup⟩ := lookup_ingestMessage hingest
  rw [hlookup, hbefore]
  rfl

/-- The table has the offsets of the first definition of a message. -/
theorem lookup_buildTable {earlier later : List ParsedMessage} {table : MsgTable}
    (hfirst : ∀ other ∈ earlier, other.id ≠ msg.id)
    (h : buildTable (earlier ++ msg :: later) = .ok table) :
    ∃ row, computeOffsets msg.fields = .ok (row.targetSysOffset, row.targetCompOffset) ∧
      table.lookup msg.id = some row := by
  obtain ⟨entries, hingest, h⟩ := bind_eq_ok.mp h
  have htable := generate_of_writeTable h
  rw [ingestAll, List.foldlM_append] at hingest
  obtain ⟨before, hbefore, hingest⟩ := bind_eq_ok.mp hingest
  rw [List.foldlM_cons] at hingest
  obtain ⟨merged, hmsg, hlater⟩ := bind_eq_ok.mp hingest
  obtain ⟨row, hrow, hlookup⟩ := lookup_ingestMessage hmsg
  obtain ⟨-, -, hoffsets⟩ := rowOf_eq_ok_iff.mp hrow
  have hmerged : merged.lookup msg.id = some row := by
    rw [hlookup, lookup_ingestAll_eq_none hfirst hbefore, if_pos rfl]
    rfl
  refine ⟨(toRow ⟨msg.id, row⟩).2, hoffsets, ?_⟩
  rw [← htable, lookup_generate, lookup_foldlM_ingestMessage hmerged hlater]
  rfl

end Table

/-- A frame has no target system if its message has no offset for it or the field has been cut
off. -/
theorem targetSystem_fullHeader_eq_none_iff {table : MsgTable} {frame : List UInt8} {stx : Stx}
    {row : MsgEntry} (h : table.lookup (parseHeader frame stx).msgid = some row) :
    (Framer.fullHeader table frame stx).targetSystem = none ↔
      ∀ offset ∈ row.targetSysOffset,
        (parseHeader frame stx).payloadLen.toNat ≤ offset.toNat := by
  have hheader : (Framer.fullHeader table frame stx).targetSystem =
      (extractTargets frame (parseHeader frame stx)
        (table.lookup (parseHeader frame stx).msgid)).1 := rfl
  rw [hheader, h]
  simp [extractTargets, Option.bind_eq_none_iff]

/-- For the first definition of an id, with distinct field names, and each of the two target
fields, the offset in the table is the offset of the field on the wire if and only if the field is
not an extension; and the frames of the message have a target system wherever their payload
contains the byte at the offset. -/
theorem target_fields_reach_table {msg : ParsedMessage} {sorted : List ParsedField}
    {earlier later : List ParsedMessage} {table : MsgTable}
    (hnames : (msg.fields.map (·.name)).Nodup)
    (hsorted : IsStableSort ParsedField.elementSize (baseFields msg.fields) sorted)
    (hfirst : ∀ other ∈ earlier, other.id ≠ msg.id)
    (hbuild : buildTable (earlier ++ msg :: later) = .ok table) :
    ∃ row, table.lookup msg.id = some row ∧
      (row.targetSysOffset.map UInt8.toNat =
          offsetOf "target_system" (sorted ++ extensionFields msg.fields) ↔
        ∀ field ∈ extensionFields msg.fields, ¬ IsTarget "target_system" field) ∧
      (row.targetCompOffset.map UInt8.toNat =
          offsetOf "target_component" (sorted ++ extensionFields msg.fields) ↔
        ∀ field ∈ extensionFields msg.fields, ¬ IsTarget "target_component" field) ∧
      ∀ frame stx, (parseHeader frame stx).msgid = msg.id →
        ((Framer.fullHeader table frame stx).targetSystem = none ↔
          ∀ offset ∈ row.targetSysOffset,
            (parseHeader frame stx).payloadLen.toNat ≤ offset.toNat) := by
  obtain ⟨row, hoffsets, hlookup⟩ := lookup_buildTable hfirst hbuild
  obtain ⟨htsys, htcomp⟩ := computeOffsets_eq_ok hnames hsorted hoffsets
  refine ⟨row, hlookup, ?_, ?_, fun frame stx hmsgid => ?_⟩
  · rw [htsys]
    exact offsetOf_base_eq_iff _ hnames hsorted
  · rw [htcomp]
    exact offsetOf_base_eq_iff _ hnames hsorted
  · exact targetSystem_fullHeader_eq_none_iff (hmsgid ▸ hlookup)

def heartbeat : ParsedMessage :=
  ⟨0, "HEARTBEAT", [⟨"type", "uint8_t", 0, false⟩, ⟨"autopilot", "uint8_t", 0, false⟩,
    ⟨"base_mode", "uint8_t", 0, false⟩, ⟨"custom_mode", "uint32_t", 0, false⟩,
    ⟨"system_status", "uint8_t", 0, false⟩,
    ⟨"mavlink_version", "uint8_t_mavlink_version", 0, false⟩]⟩

def ping : ParsedMessage :=
  ⟨4, "PING", [⟨"time_usec", "uint64_t", 0, false⟩, ⟨"seq", "uint32_t", 0, false⟩,
    ⟨"target_system", "uint8_t", 0, false⟩, ⟨"target_component", "uint8_t", 0, false⟩]⟩

def commandAck : ParsedMessage :=
  ⟨77, "COMMAND_ACK", [⟨"command", "uint16_t", 0, false⟩, ⟨"result", "uint8_t", 0, false⟩,
    ⟨"progress", "uint8_t", 0, true⟩, ⟨"result_param2", "int32_t", 0, true⟩,
    ⟨"target_system", "uint8_t", 0, true⟩, ⟨"target_component", "uint8_t", 0, true⟩]⟩

/-- The target fields of PING are base fields and reach the table. -/
theorem target_fields_reach_table_ping :
    (buildTable [heartbeat, ping]).map (fun table => table.lookup 4) =
        .ok (some ⟨237, some 12, some 13⟩) ∧
      offsetOf "target_system" ping.fields = some 12 ∧
      ∀ field ∈ extensionFields ping.fields, ¬ IsTarget "target_system" field := by
  have hsorted : IsStableSort ParsedField.elementSize (baseFields ping.fields) ping.fields := by
    have hsort := isStableSort_insertionSort ParsedField.elementSize (baseFields ping.fields)
    have hfields : ((baseFields ping.fields).insertionSort fun left right =>
        right.elementSize ≤ left.elementSize) = ping.fields := by decide +kernel
    exact hfields ▸ hsort
  have htable : (buildTable ([heartbeat] ++ ping :: [])).map (fun table => table.lookup 4) =
      .ok (some ⟨237, some 12, some 13⟩) := by decide +kernel
  refine ⟨htable, by decide +kernel, ?_⟩
  obtain ⟨table, hbuild, hrow⟩ := Library.map_eq_ok.mp htable
  obtain ⟨row, hlookup, htsys, -⟩ :=
    target_fields_reach_table (by decide) hsorted (by decide) hbuild
  cases hlookup.symm.trans hrow
  exact htsys.mp (by decide +kernel)

/-- The target fields of COMMAND_ACK are at bytes 8 and 9 of the payload, and the table has no
offsets for them. -/
theorem command_ack_has_no_offsets :
    (buildTable [heartbeat, commandAck]).map (fun table => table.lookup 77) =
        .ok (some ⟨143, none, none⟩) ∧
      offsetOf "target_system"
          (baseFields commandAck.fields ++ extensionFields commandAck.fields) = some 8 ∧
      offsetOf "target_component"
          (baseFields commandAck.fields ++ extensionFields commandAck.fields) = some 9 := by
  decide +kernel

end MavlinkRouter.Build
