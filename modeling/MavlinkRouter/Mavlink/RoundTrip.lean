import MavlinkRouter.Mavlink.Tiling

/-!
# Encoding frames and framing them back

The frame builders of the tests (`tests/common/mavlink.rs`), and what the framer
makes of any stream put together from intact frames, bytes that start no frame,
and complete frames with a wrong checksum.
-/

namespace MavlinkRouter

open Library

/-- A frame as the builders of the tests lay it out. The fields that the builders
assert carry their bounds; only a v2 frame can be signed. -/
structure TestFrame where
  version : Version
  msgid : UInt32
  seq : UInt8
  sysid : UInt8
  compid : UInt8
  compatFlags : UInt8
  payload : List UInt8
  signature : Option (Vector UInt8 v2SignatureLen)
  payload_le : payload.length ≤ 255
  msgid_le : msgid.toNat ≤ match version with | .v1 => 0xFF | .v2 => 0xFFFFFF
  unsigned_v1 : version = .v1 → signature = none

namespace TestFrame

/-- The start byte kind of the frame. -/
def stx (frame : TestFrame) : Stx :=
  match frame.version with
  | .v1 => .v1
  | .v2 => .v2

/-- Signing sets the SIGNED bit and no other. -/
def incompatFlags (frame : TestFrame) : UInt8 :=
  if frame.signature.isSome then v2IflagSigned else 0

/-- The header, start byte included. -/
def header (frame : TestFrame) : List UInt8 :=
  let payloadLen := UInt8.ofNat frame.payload.length
  match frame.version with
  | .v1 => [stxV1, payloadLen, frame.seq, frame.sysid, frame.compid, frame.msgid.toUInt8]
  | .v2 =>
    [stxV2, payloadLen, frame.incompatFlags, frame.compatFlags, frame.seq, frame.sysid,
      frame.compid, (frame.msgid &&& 0xFF).toUInt8, ((frame.msgid >>> 8) &&& 0xFF).toUInt8,
      ((frame.msgid >>> 16) &&& 0xFF).toUInt8]

/-- The trailer of a signed frame. -/
def trailer (frame : TestFrame) : List UInt8 :=
  match frame.signature with
  | some signature => signature.toList
  | none => []

/-- The checksum over everything between the start byte and the end of the payload. -/
def checksum (frame : TestFrame) (crcExtra : UInt8) : UInt16 :=
  ((Crc16.new.updateSlice ((frame.header ++ frame.payload).drop 1)).update crcExtra).finalize

/-- The frame with an arbitrary CRC. -/
def buildWithCrcOverride (frame : TestFrame) (crc : UInt16) : List UInt8 :=
  frame.header ++ frame.payload ++ [(crc &&& 0xFF).toUInt8, (crc >>> 8).toUInt8] ++
    frame.trailer

/-- The frame with the CRC for the given `crc_extra`. -/
def build (frame : TestFrame) (crcExtra : UInt8) : List UInt8 :=
  frame.buildWithCrcOverride (frame.checksum crcExtra)

end TestFrame

/-- The CRC bytes of a frame read back to its checksum. -/
theorem u16FromLeBytes_split (crc : UInt16) :
    u16FromLeBytes (crc &&& 0xFF).toUInt8 (crc >>> 8).toUInt8 = crc := by
  apply UInt16.toNat_inj.mp
  have hcrc := crc.toNat_lt
  have hand (x : ℕ) : x &&& 255 = x % 256 := Nat.and_two_pow_sub_one_eq_mod _ 8
  simp only [u16FromLeBytes, UInt16.toNat_ofNat', UInt16.toNat_toUInt8, UInt16.toNat_and,
    UInt16.toNat_shiftRight, Nat.shiftRight_eq_div_pow, UInt16.reduceToNat, Nat.reduceMod,
    Nat.reducePow, hand]
  omega

/-- The msgid bytes of a v2 frame read back to its msgid. -/
theorem u32FromLeBytes_split {msgid : UInt32} (h : msgid.toNat ≤ 0xFFFFFF) :
    u32FromLeBytes (msgid &&& 0xFF).toUInt8 ((msgid >>> 8) &&& 0xFF).toUInt8
      ((msgid >>> 16) &&& 0xFF).toUInt8 0 = msgid := by
  apply UInt32.toNat_inj.mp
  have hand (x : ℕ) : x &&& 255 = x % 256 := Nat.and_two_pow_sub_one_eq_mod _ 8
  simp only [u32FromLeBytes, UInt32.toNat_ofNat', UInt32.toNat_toUInt8, UInt32.toNat_and,
    UInt32.toNat_shiftRight, Nat.shiftRight_eq_div_pow, UInt32.reduceToNat, UInt8.reduceToNat,
    Nat.reduceMod, Nat.reducePow, hand]
  omega

/-- The msgid byte of a v1 frame reads back to its msgid. -/
theorem toUInt32_toUInt8 {msgid : UInt32} (h : msgid.toNat ≤ 0xFF) :
    msgid.toUInt8.toUInt32 = msgid := by
  apply UInt32.toNat_inj.mp
  simp only [UInt8.toNat_toUInt32, UInt32.toNat_toUInt8]
  omega

namespace TestFrame

variable (frame : TestFrame) (crc : UInt16)

/-- The header a framer should read from the frame, before the target fields. -/
def parsedHeader : ParsedHeader where
  version := frame.version
  source := ⟨frame.sysid, frame.compid⟩
  msgid := frame.msgid
  seq := frame.seq
  payloadLen := UInt8.ofNat frame.payload.length
  targetSystem := none
  targetComponent := none

/-- The length byte holds the length. -/
theorem toNat_payloadLen : (UInt8.ofNat frame.payload.length).toNat = frame.payload.length := by
  have hle := frame.payload_le
  simp only [UInt8.toNat_ofNat']
  omega

/-- The header is as long as its version says. -/
theorem header_length : frame.header.length = frame.stx.headerLen := by
  cases hversion : frame.version <;> simp [header, stx, hversion] <;> rfl

/-- The framer reads back the fields that were encoded. -/
theorem parseHeader_build :
    parseHeader (frame.buildWithCrcOverride crc) frame.stx = frame.parsedHeader := by
  have hmsgid := frame.msgid_le
  cases hversion : frame.version with
  | v1 =>
    rw [hversion] at hmsgid
    simp [parseHeader, parsedHeader, buildWithCrcOverride, header, stx, hversion,
      toUInt32_toUInt8 hmsgid]
  | v2 =>
    rw [hversion] at hmsgid
    simpa [parseHeader, parsedHeader, buildWithCrcOverride, header, stx, hversion] using
      u32FromLeBytes_split hmsgid

/-- The signature trailer is there exactly when the SIGNED bit is set. -/
theorem trailer_length :
    frame.trailer.length = if frame.incompatFlags &&& v2IflagSigned ≠ 0 then v2SignatureLen
      else 0 := by
  cases hsign : frame.signature with
  | none => simp [trailer, incompatFlags, hsign]
  | some signature => simp [trailer, incompatFlags, hsign, v2IflagSigned]

/-- An encoded frame is complete. -/
theorem completeFrame_build : CompleteFrame frame.stx (frame.buildWithCrcOverride crc) := by
  have hlen := frame.toNat_payloadLen
  have htrailer := frame.trailer_length
  cases hversion : frame.version with
  | v1 =>
    have hsign : frame.trailer = [] := by simp [trailer, frame.unsigned_v1 hversion]
    refine ⟨?_, ?_, ?_⟩
    · simp [StartsWith, buildWithCrcOverride, header, stx, hversion]
    · simp [stx, hversion]
    · simp [announcedLen, buildWithCrcOverride, header, stx, hversion, hsign, v1HeaderLen,
        crcLen] at hlen ⊢
      omega
  | v2 =>
    refine ⟨?_, ?_, ?_⟩
    · simp [StartsWith, buildWithCrcOverride, header, stx, hversion]
    · intro _
      simp only [HasUnknownFlag, buildWithCrcOverride, header, hversion, incompatFlags]
      split <;> simp [v2IflagSigned]
    · simp only [announcedLen, buildWithCrcOverride, header, stx, hversion, v2HeaderLen, crcLen]
      simp [htrailer] at hlen ⊢
      omega

/-- The CRC check of an encoded frame compares the encoded CRC with the checksum. -/
theorem validateCrc_build (crcExtra : UInt8) :
    validateCrc (frame.buildWithCrcOverride crc) frame.parsedHeader crcExtra =
      (frame.checksum crcExtra == crc) := by
  have hend : frame.parsedHeader.payloadStart + frame.parsedHeader.payloadLen.toNat =
      (frame.header ++ frame.payload).length := by
    have hlen := frame.toNat_payloadLen
    rw [List.length_append, header_length]
    cases hversion : frame.version <;>
      simp [parsedHeader, ParsedHeader.payloadStart, stx, hversion, Stx.headerLen] at hlen ⊢ <;>
      omega
  have hframe : frame.buildWithCrcOverride crc = (frame.header ++ frame.payload) ++
      ((crc &&& 0xFF).toUInt8 :: (crc >>> 8).toUInt8 :: frame.trailer) := by
    simp [buildWithCrcOverride]
  have hlo (body tail : List UInt8) (lo : UInt8) :
      (body ++ lo :: tail).getD body.length 0 = lo := by
    simp [List.getD]
  have hhi (body tail : List UInt8) (lo hi : UInt8) :
      (body ++ lo :: hi :: tail).getD (body.length + 1) 0 = hi := by
    simp [List.getD]
  simp only [validateCrc, hend]
  rw [hframe, List.take_left, hlo, hhi, u16FromLeBytes_split, checksum]

/-- An encoded frame passes the CRC condition if its CRC is right for its row. -/
theorem crcMatches_build {table : MsgTable}
    (h : ∀ entry, table.lookup frame.msgid = some entry → crc = frame.checksum entry.crcExtra) :
    CrcMatches table frame.stx (frame.buildWithCrcOverride crc) := by
  intro entry hentry
  rw [parseHeader_build] at hentry ⊢
  rw [validateCrc_build, h entry hentry]
  simp

end TestFrame

/-- A byte that starts no frame. -/
def Quiet (byte : UInt8) : Prop := byte ≠ stxV1 ∧ byte ≠ stxV2

/-- One item of a stream. -/
inductive Item (table : MsgTable) where
  /-- An intact frame: the right CRC if its msgid is known, any CRC if not. -/
  | intact (frame : TestFrame) (crc : UInt16)
      (hcrc : ∀ entry, table.lookup frame.msgid = some entry →
        crc = frame.checksum entry.crcExtra)
  /-- Bytes none of which starts a frame. -/
  | noise (bytes : List UInt8) (hquiet : ∀ byte ∈ bytes, Quiet byte)
  /-- A complete frame of a known msgid with a wrong CRC, without a second start byte. -/
  | corrupt (stx : Stx) (bytes : List UInt8) (hframe : CompleteFrame stx bytes)
      (hcrc : ¬ CrcMatches table stx bytes) (hquiet : ∀ byte ∈ bytes.tail, Quiet byte)

namespace Item

variable {table : MsgTable}

/-- The bytes of an item on the wire. -/
def bytes : Item table → List UInt8
  | intact frame crc _ => frame.buildWithCrcOverride crc
  | noise bytes _ => bytes
  | corrupt _ bytes _ _ _ => bytes

/-- The frame a router should hand out for an item. -/
def frame? : Item table → Option (TestFrame × UInt16)
  | intact frame crc _ => some (frame, crc)
  | noise _ _ => none
  | corrupt _ _ _ _ _ => none

/-- Whether an item is a corrupted frame. -/
def isCorrupt : Item table → Bool
  | corrupt _ _ _ _ _ => true
  | _ => false

/-- Number of bytes of an item that carry no frame. -/
def lost : Item table → ℕ
  | intact _ _ _ => 0
  | noise bytes _ => bytes.length
  | corrupt _ bytes _ _ _ => bytes.length

/-- What the framer makes of an item. -/
def pieces : Item table → List Piece
  | intact frame crc _ =>
    [.emitted (frame.buildWithCrcOverride crc)
      (Framer.fullHeader table (frame.buildWithCrcOverride crc) frame.stx)]
  | noise bytes _ => bytes.map (.discarded · .noStx)
  | corrupt _ bytes _ _ _ =>
    (bytes.take 1).map (.discarded · .badCrc) ++ bytes.tail.map (.discarded · .noStx)

end Item

namespace Framer

variable {table : MsgTable}

/-- A frame handed out is the encoded one, with the fields that were encoded. -/
structure Decoded (out : ParsedHeader × List UInt8) (encoded : TestFrame × UInt16) : Prop where
  bytes : out.2 = encoded.1.buildWithCrcOverride encoded.2
  version : out.1.version = encoded.1.version
  seq : out.1.seq = encoded.1.seq
  source : out.1.source = ⟨encoded.1.sysid, encoded.1.compid⟩
  msgid : out.1.msgid = encoded.1.msgid
  payloadLen : out.1.payloadLen.toNat = encoded.1.payload.length

/-- Whatever follows it, an item is consumed by itself. -/
theorem run_item (item : Item table) (rest : List UInt8) :
    (scanner table).Run (item.bytes ++ rest) item.pieces rest := by
  have hnone {bytes : List UInt8} (hquiet : ∀ byte ∈ bytes, Quiet byte) :
      ∀ byte ∈ bytes, Stx.fromByte byte = none :=
    fun byte hbyte => Stx.fromByte_eq_none.mpr (hquiet byte hbyte)
  cases item with
  | intact frame crc hcrc =>
    refine Scanner.Step.run ⟨rfl, ?_⟩
    have haccept := acceptsCrc_iff.mpr (frame.crcMatches_build crc hcrc)
    rw [Item.bytes, verdict_completeFrame table (frame.completeFrame_build crc), if_pos haccept]
    rfl
  | noise bytes hquiet => exact run_garbage (hnone hquiet) rest
  | corrupt stx bytes hframe hcrc hquiet =>
    have hverdict := verdict_completeFrame table hframe rest
    have hstart := hframe.start
    rw [if_neg (acceptsCrc_iff.not.mpr hcrc)] at hverdict
    cases bytes with
    | nil => simp [StartsWith] at hstart
    | cons byte tail => exact .cons ⟨rfl, hverdict⟩ (run_garbage (hnone hquiet) rest)

/-- A list of items is consumed item by item. -/
theorem run_items (items : List (Item table)) :
    (scanner table).Run (items.flatMap Item.bytes) (items.flatMap Item.pieces) [] := by
  induction items with
  | nil => exact .nil []
  | cons item items ih =>
    rw [List.flatMap_cons, List.flatMap_cons]
    exact (run_item item _).append ih

/-- The frames of the items are handed out in order, with the fields encoded. -/
theorem decoded_items (items : List (Item table)) :
    List.Forall₂ Decoded (emissions (items.flatMap Item.pieces))
      (items.filterMap Item.frame?) := by
  induction items with
  | nil => exact .nil
  | cons item items ih =>
    rw [List.flatMap_cons, emissions_append]
    cases item with
    | intact frame crc hcrc =>
      have hheader := frame.parseHeader_build crc
      refine .cons ?_ ih
      constructor <;> simp [fullHeader, hheader, TestFrame.parsedHeader]
      simpa using frame.toNat_payloadLen
    | noise bytes hquiet =>
      rw [List.filterMap_cons_none rfl]
      simpa [Item.pieces] using ih
    | corrupt stx bytes hframe hcrc hquiet =>
      rw [List.filterMap_cons_none rfl, Item.pieces, emissions_append, emissions_map_discarded,
        emissions_map_discarded]
      exact ih

/-- The bytes of the items that carry no frame are the discarded ones. -/
theorem discards_items (items : List (Item table)) :
    discards (items.flatMap Item.pieces) = (items.map Item.lost).sum := by
  induction items with
  | nil => rfl
  | cons item items ih =>
    rw [List.flatMap_cons, discards_append, ih, List.map_cons, List.sum_cons]
    congr 1
    cases item with
    | intact frame crc hcrc => rfl
    | noise bytes hquiet => simp [Item.pieces, Item.lost]
    | corrupt stx bytes hframe hcrc hquiet =>
      rw [Item.pieces, discards_append, discards_map_discarded, discards_map_discarded, Item.lost,
        List.length_take, List.length_tail]
      omega

/-- The corrupted frames are the CRC errors. -/
theorem crcDiscards_items (items : List (Item table)) :
    crcDiscards (items.flatMap Item.pieces) = items.countP Item.isCorrupt := by
  induction items with
  | nil => rfl
  | cons item items ih =>
    rw [List.flatMap_cons, crcDiscards_append, ih]
    cases item with
    | intact frame crc hcrc =>
      rw [List.countP_cons_of_neg (by simp [Item.isCorrupt])]
      simp [Item.pieces, crcDiscards]
    | noise bytes hquiet =>
      rw [List.countP_cons_of_neg (by simp [Item.isCorrupt])]
      simp [Item.pieces]
    | corrupt stx bytes hframe hcrc hquiet =>
      have hlen := hframe.length
      have hheader := headerLen_lt_announcedLen bytes stx
      rw [List.countP_cons_of_pos rfl, Item.pieces, crcDiscards_append, crcDiscards_map_discarded,
        crcDiscards_map_discarded, if_pos rfl, if_neg (by decide), List.length_take]
      omega

/-- Round trip with error containment: a stream of intact frames, noise and corrupted
frames yields exactly the intact frames, and every other byte is counted. -/
theorem drain_items (table : MsgTable) (items : List (Item table)) :
    List.Forall₂ Decoded (drain table (new.extendFromSlice (items.flatMap Item.bytes))).1
        (items.filterMap Item.frame?) ∧
      (drain table (new.extendFromSlice (items.flatMap Item.bytes))).2.crcErrors.toNat =
        min (items.countP Item.isCorrupt) u64Max ∧
      (drain table (new.extendFromSlice (items.flatMap Item.bytes))).2.resyncBytes.toNat =
        min (items.map Item.lost).sum u64Max ∧
      (drain table (new.extendFromSlice (items.flatMap Item.bytes))).2.buf = [] := by
  obtain ⟨pieces, hscan, hemit, hwait⟩ :=
    drain_scans table (new.extendFromSlice (items.flatMap Item.bytes))
  have hrun : (scanner table).Run (items.flatMap Item.bytes) pieces _ := hscan.run
  obtain ⟨rfl, hbuf⟩ := (run_items items).unique rfl hrun hwait
  refine ⟨?_, ?_, ?_, hbuf.symm⟩
  · rw [← hemit]
    exact decoded_items items
  · rw [hscan.crc, crcDiscards_items]
    simp [new, extendFromSlice]
  · rw [hscan.resync, discards_items]
    simp [new, extendFromSlice]

end Framer

end MavlinkRouter
