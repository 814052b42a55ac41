import MavlinkRouter.Build.Dialect
import MavlinkRouter.Mavlink.Detection

/-!
# The two copies of the checksum

The build script has its own copy of the byte step of the frame checksum. Both copies compute the
bit-by-bit CRC-16-MCRF4XX, whose register starts at 0xFFFF and moves down by one place for each bit
of the input, with the polynomial 0x8408 added where a bit falls out.
-/

namespace MavlinkRouter

open Library (feed shiftIn lowBits)

/-- One bit of CRC-16-MCRF4XX. -/
def mcrf4xxBit (crc : UInt16) : UInt16 :=
  if crc &&& 1 = 1 then (crc >>> 1) ^^^ 0x8408 else crc >>> 1

/-- One byte of CRC-16-MCRF4XX. -/
def mcrf4xxByte (crc : UInt16) (byte : UInt8) : UInt16 :=
  mcrf4xxBit^[8] (crc ^^^ byte.toUInt16)

/-- CRC-16-MCRF4XX of a byte string, with no final exclusive or. -/
def mcrf4xx (bytes : List UInt8) : UInt16 :=
  bytes.foldl mcrf4xxByte 0xFFFF

example : mcrf4xx [49, 50, 51, 52, 53, 54, 55, 56, 57] = 0x6F91 := by decide +kernel

/-- A bit step is a step of the register without input. -/
theorem toBitVec_mcrf4xxBit (crc : UInt16) :
    (mcrf4xxBit crc).toBitVec = shiftIn crcPoly crc.toBitVec false := by
  have hlowest : crc &&& 1 = 1 ↔ crc.toBitVec.getLsbD 0 = true := by
    rw [← UInt16.toBitVec_inj, UInt16.toBitVec_and]
    change crc.toBitVec &&& 1#16 = 1#16 ↔ _
    rw [BitVec.and_one_eq_setWidth_ofBool_getLsbD]
    cases crc.toBitVec.getLsbD 0 <;> decide
  rw [mcrf4xxBit, shiftIn, Bool.xor_false, apply_ite UInt16.toBitVec]
  simp only [hlowest]
  rfl

private theorem toBitVec_iterate_mcrf4xxBit (n : ℕ) (crc : UInt16) :
    (mcrf4xxBit^[n] crc).toBitVec =
      (fun register => shiftIn crcPoly register false)^[n] crc.toBitVec := by
  induction n generalizing crc with
  | zero => rfl
  | succ n ih => rw [Function.iterate_succ_apply, ih, toBitVec_mcrf4xxBit,
      Function.iterate_succ_apply]

/-- The byte step of the source is the byte step of CRC-16-MCRF4XX. -/
theorem crc16Update_eq_mcrf4xxByte (crc : UInt16) (byte : UInt8) :
    crc16Update crc byte = mcrf4xxByte crc byte := by
  have hbits : byteBits byte = lowBits 8 byte.toUInt16.toBitVec := by
    refine List.ext_getElem (by simp [byteBits, lowBits]) fun i hi _ => ?_
    have hbound : i < 8 := by simpa [byteBits, lowBits] using hi
    simp [byteBits, lowBits, show i < 16 by omega]
  have hbyte : byte.toUInt16.toBitVec >>> 8 = 0#16 := by
    refine BitVec.eq_of_toNat_eq ?_
    rw [BitVec.toNat_ushiftRight, Nat.shiftRight_eq_div_pow, UInt16.toNat_toBitVec,
      UInt8.toNat_toUInt16]
    exact Nat.div_eq_of_lt byte.toNat_lt
  refine UInt16.toBitVec_inj.mp ?_
  rw [toBitVec_crc16Update, hbits, Library.feed_lowBits_of_shiftRight_eq_zero hbyte, mcrf4xxByte,
    toBitVec_iterate_mcrf4xxBit, UInt16.toBitVec_xor]

/-- The runtime's accumulator takes a byte string in any number of slices. -/
theorem finalize_updateSlice (crc : Crc16) (bytes : List UInt8) :
    (crc.updateSlice bytes).finalize = bytes.foldl mcrf4xxByte crc.value := by
  induction bytes generalizing crc with
  | nil => rfl
  | cons byte bytes ih =>
    rw [List.foldl_cons, ← crc16Update_eq_mcrf4xxByte]
    exact ih (crc.update byte)

private theorem updateSlice_flatten (crc : Crc16) (slices : List (List UInt8)) :
    slices.foldl Crc16.updateSlice crc = crc.updateSlice slices.flatten :=
  List.foldl_flatten.symm

namespace Build

/-- The loop of the build script's copy. -/
def crc16Mcrf4xx (bytes : List UInt8) : UInt16 :=
  bytes.foldl crc16Update 0xFFFF

/-- The byte steps of the two copies are the same. -/
theorem crc16Update_eq (crc : UInt16) (byte : UInt8) :
    crc16Update crc byte = MavlinkRouter.crc16Update crc byte := rfl

private theorem foldl_crc16Update (crc : UInt16) (bytes : List UInt8) :
    bytes.foldl crc16Update crc = bytes.foldl mcrf4xxByte crc := by
  have hstep : crc16Update = mcrf4xxByte :=
    funext fun crc => funext fun byte =>
      (crc16Update_eq crc byte).trans (crc16Update_eq_mcrf4xxByte crc byte)
  rw [hstep]

end Build

/-- The checksum of the runtime, in whatever slices it is fed, and the copy of the build script are
CRC-16-MCRF4XX. -/
theorem crc_copies_agree :
    (∀ slices : List (List UInt8),
      (slices.foldl Crc16.updateSlice Crc16.new).finalize = mcrf4xx slices.flatten) ∧
    (∀ bytes : List UInt8, (bytes.foldl Crc16.update Crc16.new).finalize = mcrf4xx bytes) ∧
    ∀ bytes : List UInt8, Build.crc16Mcrf4xx bytes = mcrf4xx bytes := by
  refine ⟨fun slices => ?_, finalize_updateSlice Crc16.new, Build.foldl_crc16Update 0xFFFF⟩
  rw [updateSlice_flatten]
  exact finalize_updateSlice Crc16.new slices.flatten

/-- The checksum of a frame is CRC-16-MCRF4XX of its covered bytes and the message's extra byte. -/
theorem messageChecksum_eq_mcrf4xx (bytes : List UInt8) (crcExtra : UInt8) :
    messageChecksum bytes crcExtra = mcrf4xx (bytes ++ [crcExtra]) := by
  rw [mcrf4xx, List.foldl_concat, ← crc16Update_eq_mcrf4xxByte]
  exact congrArg (crc16Update · crcExtra) (finalize_updateSlice Crc16.new bytes)

namespace Build

/-- A text and a blank, as bytes. -/
def textBytes (text : String) : List UInt8 :=
  text.toUTF8.data.toList ++ [0x20]

/-- A field as it is described to the checksum: its type, its name and the length of an array. -/
def fieldBytes (field : CrcExtraField) : List UInt8 :=
  textBytes (crcType field.typeName) ++ textBytes field.name ++
    if 0 < field.arrayLength then [field.arrayLength] else []

private theorem crcText_eq (crc : UInt16) (text : String) :
    crcText crc text = (textBytes text).foldl mcrf4xxByte crc := by
  rw [← foldl_crc16Update, textBytes, List.foldl_concat]
  rfl

private theorem crcField_eq (crc : UInt16) (field : CrcExtraField) :
    crcField crc field = (fieldBytes field).foldl mcrf4xxByte crc := by
  rw [crcField, fieldBytes, List.foldl_append, List.foldl_append, ← crcText_eq, ← crcText_eq]
  split
  · exact foldl_crc16Update _ [field.arrayLength]
  · rfl

/-- The `crc_extra` byte is CRC-16-MCRF4XX of the message's description, folded into a byte. -/
theorem crcExtra_eq_mcrf4xx (msg : ParsedMessage) :
    msg.crcExtra = (sortBySize (baseFields msg.fields)).map fun base => crcFold (mcrf4xx
      (textBytes msg.name ++ (base.map ParsedField.toCrcExtraField).flatMap fieldBytes)) := by
  have hfields : ∀ (base : List CrcExtraField) (crc : UInt16),
      base.foldl crcField crc = (base.flatMap fieldBytes).foldl mcrf4xxByte crc := by
    intro base
    induction base with
    | nil => exact fun crc => rfl
    | cons field base ih =>
      intro crc
      rw [List.foldl_cons, ih, crcField_eq, List.flatMap_cons, List.foldl_append]
  simp only [ParsedMessage.crcExtra, crcExtraForMessage_map, hfields, crcText_eq, mcrf4xx,
    List.foldl_append]

end Build

end MavlinkRouter
