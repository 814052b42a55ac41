import MavlinkRouter.Build.Checksum
import MavlinkRouter.Build.Script
import MavlinkRouter.Mavlink.Stream
import MavlinkRouter.Router.ZeroTrim

/-!
# From a dialect file to the header of a frame

A sender lays the values of a message out as its definition says and appends the checksum
the definition gives. The router knows the message only through the table the build made
of the dialect files; it accepts the frame and finds the target fields in it.
-/

namespace MavlinkRouter.Build

open Library

variable {name : String} {fields sorted : List ParsedField} {field : ParsedField}
  {value : ParsedField → List UInt8} {msg : ParsedMessage} {frame : TestFrame}

/-- A scalar byte takes one byte. -/
theorem wireSize_of_isTarget (h : IsTarget name field) : field.wireSize = 1 := by
  obtain ⟨hscalar, -⟩ := h
  simp only [ParsedField.isScalarByte, Bool.and_eq_true, decide_eq_true_eq] at hscalar
  simp [ParsedField.wireSize, ParsedField.elementSize, ParsedField.elementCount, hscalar, typeSize]

/-- The byte at the offset of a target field is the value of the field. -/
theorem getElem?_offsetOf (hsizes : ∀ field ∈ fields, (value field).length = field.wireSize)
    (hnames : (fields.map (·.name)).Nodup) (hfield : field ∈ fields)
    (htarget : IsTarget name field) :
    ∃ offset byte, offsetOf name fields = some offset ∧ value field = [byte] ∧
      (fields.flatMap value)[offset]? = some byte := by
  induction fields with
  | nil => cases hfield
  | cons first rest ih =>
    rw [List.map_cons, List.nodup_cons] at hnames
    obtain ⟨hsize, hsizes⟩ := List.forall_mem_cons.mp hsizes
    by_cases hfirst : IsTarget name first
    · have hsame : field = first := by
        rcases List.mem_cons.mp hfield with rfl | hrest
        · rfl
        · have hname : first.name = field.name := hfirst.2.trans htarget.2.symm
          exact absurd (hname ▸ List.mem_map_of_mem hrest) hnames.1
      subst hsame
      rw [wireSize_of_isTarget htarget] at hsize
      obtain ⟨byte, hbyte⟩ := List.length_eq_one_iff.mp hsize
      refine ⟨0, byte, ?_, hbyte, ?_⟩
      · rw [offsetOf, if_pos hfirst]
      · rw [List.flatMap_cons, hbyte]
        rfl
    · have hrest : field ∈ rest := by
        rcases List.mem_cons.mp hfield with rfl | hrest
        · exact absurd htarget hfirst
        · exact hrest
      obtain ⟨offset, byte, hoffset, hbyte, hat⟩ := ih hsizes hnames.2 hrest
      refine ⟨first.wireSize + offset, byte, ?_, hbyte, ?_⟩
      · rw [offsetOf, if_neg hfirst, hoffset]
        rfl
      · rw [List.flatMap_cons, ← hsize, List.getElem?_append_right (Nat.le_add_right _ _),
          Nat.add_sub_cancel_left, hat]

/-- The byte that the definition of a message adds to the checksums of its frames. -/
def crcExtraOf (name : String) (sorted : List ParsedField) : UInt8 :=
  crcFold (mcrf4xx (textBytes name ++
    (sorted.map ParsedField.toCrcExtraField).flatMap fieldBytes))

/-- The frame is one of the message with these values. On the wire the base fields stand first, from
the largest element size to the smallest, and then those extension fields the sender knows;
zero bytes at the end of the payload may be missing. -/
structure Encodes (msg : ParsedMessage) (sorted : List ParsedField)
    (value : ParsedField → List UInt8) (frame : TestFrame) : Prop where
  msgid : frame.msgid = msg.id
  isStableSort : IsStableSort ParsedField.elementSize (baseFields msg.fields) sorted
  sizes : ∀ field ∈ msg.fields, (value field).length = field.wireSize
  payload : ∃ later zeros, later <+: extensionFields msg.fields ∧
    (sorted ++ later).flatMap value = frame.payload ++ List.replicate zeros 0

/-- A target is what the base fields of the message say: the value of the one of this name, or
nothing if the value is zero and was left out, and nothing if there is no such base field. A target
field that is an extension does not count. -/
def BaseAddresses (msg : ParsedMessage) (value : ParsedField → List UInt8) (name : String)
    (target : Option UInt8) : Prop :=
  (∀ field ∈ baseFields msg.fields, IsTarget name field → SameTarget (value field).head? target) ∧
    ((∀ field ∈ baseFields msg.fields, ¬ IsTarget name field) → target = none)

/-- The byte at the offset the build computed is the one the sender means. -/
theorem baseAddresses_of_offset {offset : Option UInt8} (h : Encodes msg sorted value frame)
    (hnames : (msg.fields.map (·.name)).Nodup)
    (hoffset : offset.map UInt8.toNat = offsetOf name sorted) :
    BaseAddresses msg value name (offset.bind fun offset => frame.payload[offset.toNat]?) := by
  have hmem : ∀ field, field ∈ sorted ↔ field ∈ baseFields msg.fields :=
    fun field => h.isStableSort.perm.mem_iff
  constructor
  · intro field hfield htarget
    have hsizes : ∀ field ∈ sorted, (value field).length = field.wireSize :=
      fun field hsorted => h.sizes field (List.mem_of_mem_filter ((hmem field).mp hsorted))
    have hbase : (sorted.map (·.name)).Nodup := by
      rw [(h.isStableSort.perm.map _).nodup_iff]
      exact hnames.sublist (List.filter_sublist.map _)
    obtain ⟨place, byte, hat, hbyte, hvalue⟩ :=
      getElem?_offsetOf hsizes hbase ((hmem field).mpr hfield) htarget
    obtain ⟨later, zeros, -, hpayload⟩ := h.payload
    rw [hat] at hoffset
    obtain ⟨found, rfl, hfound⟩ := Option.map_eq_some_iff.mp hoffset
    have hsent : (frame.payload ++ List.replicate zeros 0)[found.toNat]? = some byte := by
      obtain ⟨hlt, -⟩ := List.getElem?_eq_some_iff.mp hvalue
      rw [← hpayload, List.flatMap_append, hfound, List.getElem?_append_left hlt, hvalue]
    have hsame := sameTarget_getElem? frame.payload zeros found.toNat
    rw [hsent] at hsame
    rw [hbyte]
    exact hsame
  · intro hnone
    have hmissing : offsetOf name sorted = none :=
      offsetOf_eq_none_iff.mpr fun field hsorted => hnone field ((hmem field).mp hsorted)
    rw [hmissing] at hoffset
    rw [Option.map_eq_none_iff.mp hoffset]
    rfl

section Main

variable {K : Type*} [DecidableEq K] {files : Files K} {fuel : ℕ} {table : MsgTable} {path : K}

/-- The row of a message whose definitions agree: its checksum byte and its target offsets. -/
theorem lookup_main (hfinite : {path | Reached files path}.Finite)
    (hfuel : hfinite.toFinset.card < fuel) (h : main files fuel = some (.ok table))
    (hpath : Reached files path) (hmsg : msg ∈ files.messages path)
    (hnames : (msg.fields.map (·.name)).Nodup)
    (hsorted : IsStableSort ParsedField.elementSize (baseFields msg.fields) sorted)
    (hagree : ∀ path, Reached files path → ∀ other ∈ files.messages path, other.id = msg.id →
      computeOffsets other.fields = computeOffsets msg.fields) :
    ∃ tsys tcomp, table.lookup msg.id = some ⟨crcExtraOf msg.name sorted, tsys, tcomp⟩ ∧
      tsys.map UInt8.toNat = offsetOf "target_system" sorted ∧
      tcomp.map UInt8.toNat = offsetOf "target_component" sorted := by
  obtain ⟨messages, entries, hmessages, hrecorded, rfl⟩ := recorded_main hfinite hfuel h
  obtain ⟨row, prev, hrow, hprev, hcrc, -⟩ :=
    hrecorded.agrees msg ((hmessages msg).mpr ⟨path, hpath, hmsg⟩)
  obtain ⟨other, hother, hid, hotherRow⟩ := hrecorded.origin hprev
  obtain ⟨otherPath, hotherPath, hotherMsg⟩ := (hmessages other).mp hother
  obtain ⟨-, hcrcExtra, -⟩ := rowOf_eq_ok_iff.mp hrow
  obtain ⟨-, -, hoffsets⟩ := rowOf_eq_ok_iff.mp hotherRow
  rw [hagree otherPath hotherPath other hotherMsg hid] at hoffsets
  obtain ⟨htsys, htcomp⟩ := computeOffsets_eq_ok hnames hsorted hoffsets
  refine ⟨prev.targetSysOffset, prev.targetCompOffset, ?_, htsys, htcomp⟩
  have hextra : crcExtraOf msg.name sorted = prev.crcExtra := by
    rw [crcExtra_eq_mcrf4xx] at hcrcExtra
    obtain ⟨base, hbase, hfold⟩ := map_eq_ok.mp hcrcExtra
    rw [crcExtraOf, hsorted.unique (sortBySize_eq_ok hbase), hfold, hcrc]
  rw [lookup_generate, hprev, hextra]
  rfl

variable {includes : List String} {messages : List ParsedMessage} {events : List XmlEvent}

/-- Let the build accept the dialect files, one of which defines a message with distinct field
names, and let all definitions of its id have the same target offsets. A frame that encodes
the message, with the checksum its definition gives, is accepted by a framer with the
generated table, and its header says whom the base fields of the message address; with any
other checksum it is no acceptable frame. -/
theorem dialect_to_header (hfinite : {path | Reached files path}.Finite)
    (hfuel : hfinite.toFinset.card < fuel) (h : main files fuel = some (.ok table))
    (hpath : Reached files path) (hread : files.read path = .ok events)
    (hfile : DialectFile includes messages events) (hmsg : msg ∈ messages)
    (hnames : (msg.fields.map (·.name)).Nodup)
    (hagree : ∀ path, Reached files path → ∀ other ∈ files.messages path, other.id = msg.id →
      computeOffsets other.fields = computeOffsets msg.fields)
    (hencodes : Encodes msg sorted value frame) (crc : UInt16) :
    (crc = mcrf4xx ((frame.header ++ frame.payload).drop 1 ++ [crcExtraOf msg.name sorted]) →
      ∃ header, Framer.framesOf table (frame.buildWithCrcOverride crc) =
          [(header, frame.buildWithCrcOverride crc)] ∧
        header.msgid = msg.id ∧ header.source = ⟨frame.sysid, frame.compid⟩ ∧
        BaseAddresses msg value "target_system" header.targetSystem ∧
        BaseAddresses msg value "target_component" header.targetComponent) ∧
    (crc ≠ mcrf4xx ((frame.header ++ frame.payload).drop 1 ++ [crcExtraOf msg.name sorted]) →
      ¬ AcceptableFrame table (frame.buildWithCrcOverride crc)) := by
  have hmessages : files.messages path = messages := (Files.answer_messages_eq hread hfile).2
  obtain ⟨tsys, tcomp, hrow, htsys, htcomp⟩ := lookup_main hfinite hfuel h hpath
    (hmessages ▸ hmsg) hnames hencodes.isStableSort hagree
  rw [← hencodes.msgid] at hrow
  have hchecksum : frame.checksum (crcExtraOf msg.name sorted) =
      mcrf4xx ((frame.header ++ frame.payload).drop 1 ++ [crcExtraOf msg.name sorted]) :=
    messageChecksum_eq_mcrf4xx _ _
  rw [← hchecksum]
  have haccepts : Framer.acceptsCrc table (frame.buildWithCrcOverride crc) frame.stx = true ↔
      crc = frame.checksum (crcExtraOf msg.name sorted) := by
    rw [Framer.acceptsCrc_iff, CrcMatches, frame.parseHeader_build]
    constructor
    · intro hmatches
      have hvalid := hmatches _ hrow
      rw [frame.validateCrc_build] at hvalid
      exact (beq_iff_eq.mp hvalid).symm
    · rintro rfl entry hentry
      obtain rfl := Option.some.inj (hrow.symm.trans hentry)
      rw [frame.validateCrc_build]
      exact beq_self_eq_true _
  have hverdict := Framer.verdict_completeFrame table (frame.completeFrame_build crc) []
  rw [List.append_nil] at hverdict
  constructor
  · intro hcrc
    rw [if_pos (haccepts.mpr hcrc)] at hverdict
    refine ⟨_, Framer.framesOf_frame hverdict, ?_⟩
    rw [frame.fullHeader_build, hrow]
    exact ⟨hencodes.msgid, rfl, baseAddresses_of_offset hencodes hnames htsys,
      baseAddresses_of_offset hencodes hnames htcomp⟩
  · intro hcrc
    rw [if_neg (fun haccepted => hcrc (haccepts.mp haccepted))] at hverdict
    exact Framer.not_acceptable_of_discard hverdict (List.prefix_refl _)

end Main

/-- A message that names the system it is meant for before a longer field. -/
def addressed : ParsedMessage :=
  ⟨0, "HEARTBEAT", [⟨"target_system", "uint8_t", 0, false⟩, ⟨"custom_mode", "uint32_t", 0, false⟩]⟩

/-- The definition of the message in a dialect file. -/
def addressedEvents : List XmlEvent :=
  [.start "message" [("id", "0"), ("name", "HEARTBEAT")],
    .empty "field" [("type", "uint8_t"), ("name", "target_system")],
    .empty "field" [("type", "uint32_t"), ("name", "custom_mode")], .close "message"]

private theorem dialectFile_addressed : DialectFile [] [addressed] addressedEvents := by
  have hpair : ∀ {key value key' value' : String}, key ≠ key' →
      HasAttribute [(key, value), (key', value')] key value ∧
        HasAttribute [(key, value), (key', value')] key' value' := by
    intro key value key' value' hkeys
    simp [HasAttribute, hkeys, hkeys.symm]
  have hfields : ∀ {typeName name : String}, IsType IsSignedNumeral typeName typeName 0 →
      DefinesField [("type", typeName), ("name", name)] ⟨name, typeName, 0, false⟩ := by
    intro typeName name htype
    exact ⟨(hpair (by decide)).2, typeName, (hpair (by decide)).1, htype⟩
  have hbody : MessageBody false addressed.fields
      [.empty "field" [("type", "uint8_t"), ("name", "target_system")],
        .empty "field" [("type", "uint32_t"), ("name", "custom_mode")]] :=
    .field (.inr rfl) (hfields (.inl (by decide))) rfl
      (.field (.inr rfl) (hfields (.inl (by decide))) rfl .nil)
  have hid : IsSignedNumeral (trim "0").toList addressed.id.toNat := by
    have htext : (trim "0").toList = ['0'] := by decide +kernel
    rw [htext]
    exact .inl ⟨List.cons_ne_nil _ _, List.forall_mem_singleton.mpr rfl, rfl⟩
  exact .message ⟨(hpair (by decide)).2, "0", (hpair (by decide)).1, hid⟩ hbody .nil

/-- The system a sender addresses is read behind the longer field. -/
theorem dialect_to_header_addressed :
    let files : Files Unit := ⟨fun _ => .ok addressedEvents, fun _ _ => .ok (), fun _ => .ok ()⟩
    let frame : TestFrame := ⟨.v2, 0, 7, 1, 1, 0, [9, 0, 0, 0, 42], none, by decide, by decide,
      by decide⟩
    ∃ table crc header, main files 2 = some (.ok table) ∧
      Framer.framesOf table (frame.buildWithCrcOverride crc) =
        [(header, frame.buildWithCrcOverride crc)] ∧
      header.targetSystem = some 42 := by
  intro files frame
  let value : ParsedField → List UInt8 :=
    fun field => if field.name = "target_system" then [42] else [9, 0, 0, 0]
  let sorted := (baseFields addressed.fields).insertionSort
    fun left right => right.elementSize ≤ left.elementSize
  have hfinite : {path | Reached files path}.Finite := Set.toFinite _
  have hfuel : hfinite.toFinset.card < 2 :=
    Nat.lt_succ_of_le (Finset.card_le_univ hfinite.toFinset)
  have hpath : Reached files () := ⟨"common.xml", by decide, (), rfl, .refl⟩
  have hbuilt : (main files 2).map Except.isOk = some true := by decide +kernel
  have hencodes : Encodes addressed sorted value frame := by
    refine ⟨rfl, isStableSort_insertionSort _ _, by decide, [], 0, List.nil_prefix, ?_⟩
    decide +kernel
  have hagree : ∀ path, Reached files path → ∀ other ∈ files.messages path,
      other.id = addressed.id →
      computeOffsets other.fields = computeOffsets addressed.fields := by
    rintro path - other hother -
    have hmessages : files.messages path = [addressed] :=
      (Files.answer_messages_eq rfl dialectFile_addressed).2
    rw [hmessages, List.mem_singleton] at hother
    rw [hother]
  obtain ⟨result, htable, hok⟩ := Option.map_eq_some_iff.mp hbuilt
  cases result with
  | ok table =>
    obtain ⟨header, hframes, -, -, ⟨haddress, -⟩, -⟩ := (dialect_to_header hfinite hfuel htable
      hpath rfl dialectFile_addressed (List.mem_singleton_self _) (by decide) hagree hencodes
      _).1 rfl
    refine ⟨table, _, header, htable, hframes, ?_⟩
    rcases haddress ⟨"target_system", "uint8_t", 0, false⟩ (by decide) (by decide) with
      hsent | ⟨hzero, -⟩
    · exact hsent.symm
    · cases hzero
  | error _ => cases hok

end MavlinkRouter.Build
