import MavlinkRouter.Mavlink.Frame

/-!
# The framer

The per-endpoint frame state machine of `src/mavlink/framer.rs`. The buffer is the
list of bytes received and not yet consumed. Slices and indices of the code read
inside a length that the caller has checked; they are total list reads here.
-/

namespace MavlinkRouter

/-- Largest value of a `u64`. -/
def u64Max : ℕ := 2 ^ 64 - 1

/-- `u64::saturating_add` of a count of bytes or frames. -/
def saturatingAdd (total : UInt64) (count : ℕ) : UInt64 :=
  UInt64.ofNat (min (total.toNat + count) u64Max)

/-- The sum, up to the maximum. -/
@[simp] theorem toNat_saturatingAdd (total : UInt64) (count : ℕ) :
    (saturatingAdd total count).toNat = min (total.toNat + count) u64Max := by
  have h : min (total.toNat + count) u64Max < 2 ^ 64 := by
    unfold u64Max
    omega
  simpa [saturatingAdd] using Nat.mod_eq_of_lt h

/-- Adding nothing. -/
@[simp] theorem saturatingAdd_zero (total : UInt64) : saturatingAdd total 0 = total := by
  apply UInt64.toNat_inj.mp
  have := total.toNat_lt
  simp only [toNat_saturatingAdd, u64Max]
  omega

/-- Saturating in two steps is saturating once. -/
theorem saturatingAdd_add (total : UInt64) (m n : ℕ) :
    saturatingAdd (saturatingAdd total m) n = saturatingAdd total (m + n) := by
  apply UInt64.toNat_inj.mp
  simp only [toNat_saturatingAdd]
  omega

/-- Bytes received so far and the two running totals. -/
structure Framer where
  buf : List UInt8
  resyncBytes : UInt64
  crcErrors : UInt64
  deriving DecidableEq, Repr

/-- What the header says about the length of the frame. -/
inductive FrameLen where
  | ready (len : ℕ)
  | unknownIncompatFlag
  deriving DecidableEq, Repr

/-- Read the header fields of a frame; the target fields are filled in later. -/
def parseHeader (frame : List UInt8) : Stx → ParsedHeader
  | .v1 =>
    { version := .v1
      payloadLen := frame.getD 1 0
      seq := frame.getD 2 0
      source := ⟨frame.getD 3 0, frame.getD 4 0⟩
      msgid := (frame.getD 5 0).toUInt32
      targetSystem := none
      targetComponent := none }
  | .v2 =>
    { version := .v2
      payloadLen := frame.getD 1 0
      seq := frame.getD 4 0
      source := ⟨frame.getD 5 0, frame.getD 6 0⟩
      msgid := u32FromLeBytes (frame.getD 7 0) (frame.getD 8 0) (frame.getD 9 0) 0
      targetSystem := none
      targetComponent := none }

/-- Compare the checksum of the covered bytes with the two bytes after the payload. -/
def validateCrc (frame : List UInt8) (header : ParsedHeader) (crcExtra : UInt8) : Bool :=
  let payloadEnd := header.payloadStart + header.payloadLen.toNat
  let crc := Crc16.new.updateSlice ((frame.take payloadEnd).drop 1)
  let crc := crc.update crcExtra
  let expected := u16FromLeBytes (frame.getD payloadEnd 0) (frame.getD (payloadEnd + 1) 0)
  crc.finalize == expected

/-- The CRC check of `try_validate_and_emit`: frames of unknown msgids pass unchecked. -/
def crcOk (frame : List UInt8) (header : ParsedHeader) : Option MsgEntry → Bool
  | some entry => validateCrc frame header entry.crcExtra
  | none => true

/-- The two target fields of a frame, where its message has them and they were not
trimmed off the payload. -/
def extractTargets (frame : List UInt8) (header : ParsedHeader) (entry : Option MsgEntry) :
    Option UInt8 × Option UInt8 :=
  match entry with
  | none => (none, none)
  | some entry =>
    let readAt (off : UInt8) : Option UInt8 :=
      if off.toNat < header.payloadLen.toNat then
        some (frame.getD (header.payloadStart + off.toNat) 0)
      else none
    (entry.targetSysOffset.bind readAt, entry.targetCompOffset.bind readAt)

namespace Framer

/-- A fresh framer. -/
def new : Framer := ⟨[], 0, 0⟩

/-- The caller writes received bytes at the end of the buffer. -/
def extendFromSlice (framer : Framer) (data : List UInt8) : Framer :=
  { framer with buf := framer.buf ++ data }

def addResync (framer : Framer) (count : ℕ) : Framer :=
  { framer with resyncBytes := saturatingAdd framer.resyncBytes count }

/-- Drop the first byte of the buffer and count it as resync. -/
def discardByte (framer : Framer) : Framer :=
  { framer.addResync 1 with buf := framer.buf.drop 1 }

/-- Position and kind of the first start byte of the buffer. -/
def findStx (buf : List UInt8) : Option (ℕ × Stx) :=
  buf.zipIdx.findSome? fun (byte, index) => (Stx.fromByte byte).map fun stx => (index, stx)

/-- Advance over any garbage prefix until the buffer starts at a start byte, or
clear the buffer if it holds none. -/
def alignToStx (framer : Framer) : Option Stx × Framer :=
  match findStx framer.buf with
  | some (pos, stx) =>
    if 0 < pos then
      (some stx, { framer.addResync pos with buf := framer.buf.drop pos })
    else (some stx, framer)
  | none => (none, { framer.addResync framer.buf.length with buf := [] })

/-- Peek the header far enough to compute the full frame length. -/
def decideFrameLen (buf : List UInt8) (stx : Stx) : FrameLen :=
  let payloadLen := (buf.getD 1 0).toNat
  match stx with
  | .v1 => .ready (v1HeaderLen + payloadLen + crcLen)
  | .v2 =>
    let iflags := buf.getD 2 0
    if iflags &&& ~~~v2IflagSigned ≠ 0 then .unknownIncompatFlag
    else
      let signedExtra := if iflags &&& v2IflagSigned ≠ 0 then v2SignatureLen else 0
      .ready (v2HeaderLen + payloadLen + crcLen + signedExtra)

/-- The header handed out with a frame: the parsed fields and the target fields. -/
def fullHeader (table : MsgTable) (frame : List UInt8) (stx : Stx) : ParsedHeader :=
  let header := parseHeader frame stx
  let (targetSystem, targetComponent) :=
    extractTargets frame header (table.lookup header.msgid)
  { header with targetSystem, targetComponent }

/-- Whether a complete frame of a known msgid carries the right checksum. -/
def acceptsCrc (table : MsgTable) (frame : List UInt8) (stx : Stx) : Bool :=
  let header := parseHeader frame stx
  crcOk frame header (table.lookup header.msgid)

/-- Check the CRC of known msgids and either split the frame off the buffer or count a
CRC failure and discard one byte. -/
def tryValidateAndEmit (table : MsgTable) (framer : Framer) (stx : Stx) (frameLen : ℕ) :
    Option (ParsedHeader × List UInt8) × Framer :=
  let frame := framer.buf.take frameLen
  if !acceptsCrc table frame stx then
    (none, { framer with crcErrors := saturatingAdd framer.crcErrors 1 }.discardByte)
  else
    (some (fullHeader table frame stx, frame), { framer with buf := framer.buf.drop frameLen })

/-- Alignment never lengthens the buffer. -/
theorem alignToStx_length_le (framer : Framer) :
    framer.alignToStx.2.buf.length ≤ framer.buf.length := by
  unfold alignToStx
  split
  · split <;> simp
  · simp

/-- A rejected frame costs the first byte of the buffer. -/
theorem tryValidateAndEmit_none {table : MsgTable} {framer framer' : Framer} {stx : Stx}
    {frameLen : ℕ} (h : tryValidateAndEmit table framer stx frameLen = (none, framer')) :
    acceptsCrc table (framer.buf.take frameLen) stx = false ∧
      framer' = { framer with crcErrors := saturatingAdd framer.crcErrors 1 }.discardByte := by
  simp only [tryValidateAndEmit] at h
  split at h <;> rename_i hcrc
  · exact ⟨by simpa using hcrc, (Prod.mk.inj h).2.symm⟩
  · simp at h

/-- An accepted frame is cut off the front of the buffer. -/
theorem tryValidateAndEmit_some {table : MsgTable} {framer framer' : Framer} {stx : Stx}
    {frameLen : ℕ} {frame : ParsedHeader × List UInt8}
    (h : tryValidateAndEmit table framer stx frameLen = (some frame, framer')) :
    acceptsCrc table (framer.buf.take frameLen) stx = true ∧
      frame = (fullHeader table (framer.buf.take frameLen) stx, framer.buf.take frameLen) ∧
      framer' = { framer with buf := framer.buf.drop frameLen } := by
  simp only [tryValidateAndEmit] at h
  split at h <;> rename_i hcrc
  · simp at h
  · obtain ⟨hframe, hrest⟩ := Prod.mk.inj h
    exact ⟨by simpa using hcrc, (Option.some.inj hframe).symm, hrest.symm⟩

/-- Attempt to extract one complete frame, discarding garbage and frames with a bad
CRC on the way. Every pass of the loop that goes on has dropped a byte. -/
def tryNextFrame (table : MsgTable) (framer : Framer) :
    Option (ParsedHeader × List UInt8) × Framer :=
  match _halign : framer.alignToStx with
  | (none, aligned) => (none, aligned)
  | (some stx, aligned) =>
    if aligned.buf.length < stx.headerLen then (none, aligned)
    else
      match decideFrameLen aligned.buf stx with
      | .unknownIncompatFlag => tryNextFrame table aligned.discardByte
      | .ready frameLen =>
        if aligned.buf.length < frameLen then (none, aligned)
        else
          match _hemit : tryValidateAndEmit table aligned stx frameLen with
          | (some frame, rest) => (some frame, rest)
          | (none, rest) => tryNextFrame table rest
termination_by framer.buf.length
decreasing_by
  all_goals
    have hle := alignToStx_length_le framer
    have hpos : 0 < stx.headerLen := by cases stx <;> decide
    simp only [_halign] at hle
  · simp only [discardByte, List.length_drop]
    omega
  · rw [(tryValidateAndEmit_none _hemit).2]
    simp only [discardByte, List.length_drop]
    omega

/-- A complete frame has at least one byte. -/
theorem decideFrameLen_pos {buf : List UInt8} {stx : Stx} {frameLen : ℕ}
    (h : decideFrameLen buf stx = .ready frameLen) : 0 < frameLen := by
  cases stx with
  | v1 =>
    simp only [decideFrameLen, v1HeaderLen, FrameLen.ready.injEq] at h
    omega
  | v2 =>
    simp only [decideFrameLen, v2HeaderLen] at h
    split at h
    · cases h
    · simp only [FrameLen.ready.injEq] at h
      omega

/-- Emitting a frame shortens the buffer. -/
theorem tryNextFrame_some_length {table : MsgTable} {framer framer' : Framer}
    {frame : ParsedHeader × List UInt8} (h : tryNextFrame table framer = (some frame, framer')) :
    framer'.buf.length < framer.buf.length := by
  fun_induction tryNextFrame table framer with
  | case1 => simp at h
  | case2 => simp at h
  | case3 framer stx aligned halign hheader hflag ih =>
    have hle := alignToStx_length_le framer
    have hrest := ih h
    simp only [halign] at hle
    simp only [discardByte, List.length_drop] at hrest
    omega
  | case4 => simp at h
  | case5 framer stx aligned halign hheader frameLen hready hlen frame' rest hemit =>
    have hle := alignToStx_length_le framer
    have hpos := decideFrameLen_pos hready
    obtain ⟨-, -, rfl⟩ := tryValidateAndEmit_some hemit
    simp only [halign] at hle
    rw [← (Prod.mk.inj h).2, List.length_drop]
    omega
  | case6 framer stx aligned halign hheader frameLen hready hlen rest hemit ih =>
    have hle := alignToStx_length_le framer
    have hrest := ih h
    rw [(tryValidateAndEmit_none hemit).2] at hrest
    simp only [halign] at hle
    simp only [discardByte, List.length_drop] at hrest
    omega

/-- Extract frames until none is left: the `while let` loop around `try_next_frame`. -/
def drain (table : MsgTable) (framer : Framer) : List (ParsedHeader × List UInt8) × Framer :=
  match _hnext : tryNextFrame table framer with
  | (none, rest) => ([], rest)
  | (some frame, rest) =>
    let (frames, last) := drain table rest
    (frame :: frames, last)
termination_by framer.buf.length
decreasing_by exact tryNextFrame_some_length _hnext

/-- A drain ends when no frame is left. -/
theorem drain_of_none {table : MsgTable} {framer rest : Framer}
    (h : tryNextFrame table framer = (none, rest)) : drain table framer = ([], rest) := by
  rw [drain]
  split
  · rename_i hnext
    rw [h] at hnext
    cases hnext
    rfl
  · rename_i hnext
    rw [h] at hnext
    cases hnext

/-- A drain takes the next frame first. -/
theorem drain_of_some {table : MsgTable} {framer rest : Framer}
    {frame : ParsedHeader × List UInt8} (h : tryNextFrame table framer = (some frame, rest)) :
    drain table framer = (frame :: (drain table rest).1, (drain table rest).2) := by
  rw [drain]
  split
  · rename_i hnext
    rw [h] at hnext
    cases hnext
  · rename_i hnext
    rw [h] at hnext
    cases hnext
    rfl

end Framer

end MavlinkRouter
