import MavlinkRouter.Library.Crc
import MavlinkRouter.Mavlink.Framer

/-!
# What the checksum detects

The byte step of the frame checksum is eight steps of a shift register with the polynomial 0x8408,
whose highest bit is set and which has three bits. So two byte strings have different checksums if
they differ within 16 successive bits or in an odd number of bits, each byte being taken from its
least significant bit on.
-/

namespace MavlinkRouter

open Library (feed lowBits HighestBit WithinWindow weight distance)

/-- The reflected polynomial of CRC-16-MCRF4XX. -/
def crcPoly : BitVec 16 := 0x8408#16

/-- The bits of a byte, the least significant one first. -/
def byteBits (byte : UInt8) : List Bool :=
  lowBits 8 byte.toBitVec

/-- The bits of a byte string. -/
def bitString (bytes : List UInt8) : List Bool :=
  bytes.flatMap byteBits

private theorem highestBit_crcPoly : HighestBit crcPoly := ⟨15, rfl, rfl⟩

private theorem weight_crcPoly : weight crcPoly = 1 := by decide

/-- The byte step from zero. -/
theorem feed_byteBits_zero (byte : UInt8) :
    feed crcPoly 0#16 (byteBits byte) = (crc16Update 0 byte).toBitVec := by
  have hall : ∀ n < 256, feed crcPoly 0#16 (byteBits (UInt8.ofNat n)) =
      (crc16Update 0 (UInt8.ofNat n)).toBitVec := by decide +kernel
  have hbyte := hall byte.toNat byte.toNat_lt
  rwa [UInt8.ofNat_toNat] at hbyte

/-- The byte step from any state. -/
theorem crc16Update_split (crc : UInt16) (byte : UInt8) :
    crc16Update crc byte = (crc >>> 8) ^^^ crc16Update 0 (byte ^^^ (crc &&& 0xFF).toUInt8) := by
  have hzero : ∀ tmp : UInt8, tmp ^^^ ((0 : UInt16) &&& 0xFF).toUInt8 = tmp := by
    intro tmp
    exact UInt8.xor_zero
  have hshift : (0 : UInt16) >>> 8 = 0 := rfl
  simp only [crc16Update, hzero, hshift, UInt16.zero_xor, UInt16.xor_assoc]

/-- The byte that meets the lowest bits of the register. -/
theorem zipWith_lowBits (crc : UInt16) (byte : UInt8) :
    List.zipWith xor (lowBits 8 crc.toBitVec) (byteBits byte) =
      byteBits (byte ^^^ (crc &&& 0xFF).toUInt8) := by
  have hlow : (crc &&& 0xFF).toUInt8 = crc.toUInt8 := by
    refine UInt8.toNat_inj.mp ?_
    rw [UInt16.toNat_toUInt8, UInt16.toNat_and, UInt16.toNat_toUInt8]
    exact (congrArg (· % 2 ^ 8) (Nat.and_two_pow_sub_one_eq_mod crc.toNat 8)).trans
      (Nat.mod_mod _ _)
  refine List.ext_getElem (by simp [byteBits, lowBits]) fun i hi _ => ?_
  have hbound : i < 8 := by simpa [byteBits, lowBits] using hi
  simp [byteBits, lowBits, hbound, hlow, Bool.xor_comm]

/-- The byte step is eight bit steps. -/
theorem toBitVec_crc16Update (crc : UInt16) (byte : UInt8) :
    (crc16Update crc byte).toBitVec = feed crcPoly crc.toBitVec (byteBits byte) := by
  have hlength : (byteBits byte).length = 8 := by simp [byteBits, lowBits]
  rw [Library.feed_eq, hlength, zipWith_lowBits, feed_byteBits_zero, crc16Update_split]
  rfl

/-- A byte string is fed bit by bit. -/
theorem toBitVec_updateSlice (crc : Crc16) (bytes : List UInt8) :
    (crc.updateSlice bytes).value.toBitVec =
      feed crcPoly crc.value.toBitVec (bitString bytes) := by
  induction bytes generalizing crc with
  | nil => rfl
  | cons byte bytes ih =>
    have hfirst : bitString (byte :: bytes) = byteBits byte ++ bitString bytes := rfl
    rw [hfirst, Library.feed_append, ← toBitVec_crc16Update]
    exact ih (crc.update byte)

/-- Byte strings of equal length that differ, and only within 16 successive bits or in an odd number
of bits. -/
structure DetectableError (bytes bytes' : List UInt8) : Prop where
  length : bytes.length = bytes'.length
  differ : bytes ≠ bytes'
  error : WithinWindow 16 (bitString bytes) (bitString bytes') ∨
    Odd (distance (bitString bytes) (bitString bytes'))

private theorem length_bitString (bytes : List UInt8) :
    (bitString bytes).length = 8 * bytes.length := by
  induction bytes with
  | nil => rfl
  | cons byte bytes ih =>
    have hfirst : bitString (byte :: bytes) = byteBits byte ++ bitString bytes := rfl
    have hbyte : (byteBits byte).length = 8 := by simp [byteBits, lowBits]
    rw [hfirst, List.length_append, hbyte, ih, List.length_cons]
    omega

private theorem byteBits_injective : Function.Injective byteBits := by
  intro byte byte' h
  refine UInt8.toBitVec_inj.mp (BitVec.eq_of_getLsbD_eq fun i hi => ?_)
  have hbit := congrArg (fun bits : List Bool => bits.getD i false) h
  simpa [byteBits, lowBits, hi] using hbit

/-- The bits determine the bytes. -/
theorem bitString_injective : Function.Injective bitString := by
  intro bytes bytes' h
  induction bytes generalizing bytes' with
  | nil =>
    have hlength := congrArg List.length h
    rw [length_bitString, length_bitString] at hlength
    exact (List.length_eq_zero_iff.mp (by simpa using hlength.symm)).symm
  | cons byte bytes ih =>
    cases bytes' with
    | nil =>
      have hlength := congrArg List.length h
      rw [length_bitString, length_bitString] at hlength
      simp at hlength
    | cons byte' bytes' =>
      have hsplit : byteBits byte ++ bitString bytes = byteBits byte' ++ bitString bytes' := h
      obtain ⟨hfirst, hrest⟩ := List.append_inj hsplit (by simp [byteBits, lowBits])
      rw [byteBits_injective hfirst, ih hrest]

/-- The checksum of a byte string followed by the message's extra byte. -/
def messageChecksum (bytes : List UInt8) (crcExtra : UInt8) : UInt16 :=
  ((Crc16.new.updateSlice bytes).update crcExtra).finalize

/-- A detectable error changes the checksum. -/
private theorem messageChecksum_ne {bytes bytes' : List UInt8} (h : DetectableError bytes bytes')
    (crcExtra : UInt8) : messageChecksum bytes crcExtra ≠ messageChecksum bytes' crcExtra := by
  have hlength : (bitString bytes).length = (bitString bytes').length := by
    rw [length_bitString, length_bitString, h.length]
  have hdiffer : bitString bytes ≠ bitString bytes' :=
    fun hsame => h.differ (bitString_injective hsame)
  have hstates : feed crcPoly crcInit.toBitVec (bitString bytes) ≠
      feed crcPoly crcInit.toBitVec (bitString bytes') := by
    rcases h.error with hwindow | hodd
    · exact Library.feed_ne_of_withinWindow highestBit_crcPoly hlength hdiffer hwindow _
    · exact Library.feed_ne_of_odd weight_crcPoly hlength hodd _
  intro hsame
  have hbits := congrArg UInt16.toBitVec hsame
  simp only [messageChecksum, Crc16.finalize, Crc16.update, toBitVec_crc16Update,
    toBitVec_updateSlice] at hbits
  exact hstates (Library.feed_injective highestBit_crcPoly _ hbits)

/-- The end of the payload. -/
def payloadEnd (frame : List UInt8) (stx : Stx) : ℕ :=
  (parseHeader frame stx).payloadStart + (parseHeader frame stx).payloadLen.toNat

/-- The bytes that the checksum covers: everything between the start byte and the checksum. -/
def coveredBytes (frame : List UInt8) (stx : Stx) : List UInt8 :=
  (frame.take (payloadEnd frame stx)).drop 1

/-- The checksum that a frame carries. -/
def crcField (frame : List UInt8) (stx : Stx) : UInt16 :=
  u16FromLeBytes (frame.getD (payloadEnd frame stx) 0) (frame.getD (payloadEnd frame stx + 1) 0)

/-- A frame of a known message is accepted if it carries the checksum of its covered bytes. -/
theorem acceptsCrc_iff {table : MsgTable} {frame : List UInt8} {stx : Stx} {row : MsgEntry}
    (hrow : table.lookup (parseHeader frame stx).msgid = some row) :
    Framer.acceptsCrc table frame stx = true ↔
      messageChecksum (coveredBytes frame stx) row.crcExtra = crcField frame stx := by
  have haccepts : Framer.acceptsCrc table frame stx =
      crcOk frame (parseHeader frame stx) (table.lookup (parseHeader frame stx).msgid) := rfl
  rw [haccepts, hrow]
  exact beq_iff_eq

/-- Two byte strings that differ within 16 successive bits or in an odd number of bits have
different checksums. So of two frames of a known message with the same msgid and the same checksum
field, whose covered bytes differ in such a way, at most one is accepted. -/
theorem crc_detects_errors :
    (∀ bytes bytes' crcExtra, DetectableError bytes bytes' →
      messageChecksum bytes crcExtra ≠ messageChecksum bytes' crcExtra) ∧
    ∀ (table : MsgTable) (stx : Stx) (frame frame' : List UInt8) (row : MsgEntry),
      table.lookup (parseHeader frame stx).msgid = some row →
      (parseHeader frame' stx).msgid = (parseHeader frame stx).msgid →
      crcField frame' stx = crcField frame stx →
      DetectableError (coveredBytes frame stx) (coveredBytes frame' stx) →
      Framer.acceptsCrc table frame stx = true → Framer.acceptsCrc table frame' stx = false := by
  refine ⟨fun bytes bytes' crcExtra h => messageChecksum_ne h crcExtra, ?_⟩
  intro table stx frame frame' row hrow hmsgid hfield herror haccepted
  have hrow' : table.lookup (parseHeader frame' stx).msgid = some row := hmsgid ▸ hrow
  rw [← Bool.not_eq_true, acceptsCrc_iff hrow', hfield]
  rw [acceptsCrc_iff hrow] at haccepted
  exact fun hsame => messageChecksum_ne herror row.crcExtra (haccepted.trans hsame.symm)

/-- One bit of the payload is flipped. -/
theorem crc_detects_errors_heartbeat :
    let table : MsgTable := ⟨[(0, ⟨50, none, none⟩)], List.pairwise_singleton _ _⟩
    let frame : List UInt8 := [0xFE, 1, 0, 1, 1, 0, 7, 60, 164]
    let frame' : List UInt8 := [0xFE, 1, 0, 1, 1, 0, 6, 60, 164]
    Framer.acceptsCrc table frame .v1 = true ∧ Framer.acceptsCrc table frame' .v1 = false := by
  intro table frame frame'
  have haccepted : Framer.acceptsCrc table frame .v1 = true := by decide +kernel
  have herror : DetectableError (coveredBytes frame .v1) (coveredBytes frame' .v1) := by
    refine ⟨rfl, by decide, .inr ?_⟩
    have hone : distance (bitString (coveredBytes frame .v1))
        (bitString (coveredBytes frame' .v1)) = 1 := by decide
    exact hone ▸ odd_one
  exact ⟨haccepted, crc_detects_errors.2 table .v1 frame frame' ⟨50, none, none⟩ rfl rfl rfl
    herror haccepted⟩

end MavlinkRouter
