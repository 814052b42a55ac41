import MavlinkRouter.Mavlink.Scanning

/-!
# What the framer does to a stream

Every byte of a stream ends up in an emitted frame, is discarded on its own, or is
left in the buffer. The acceptable frames and the causes of a discard are stated
here on the bytes alone, without reference to the scanning loop.
-/

namespace MavlinkRouter

open Library

/-- The frame length that a header announces. -/
def announcedLen (frame : List UInt8) : Stx → ℕ
  | .v1 => v1HeaderLen + (frame.getD 1 0).toNat + crcLen
  | .v2 =>
    v2HeaderLen + (frame.getD 1 0).toNat + crcLen +
      if frame.getD 2 0 &&& v2IflagSigned ≠ 0 then v2SignatureLen else 0

/-- A v2 header has an incompat flag other than SIGNED. -/
def HasUnknownFlag (frame : List UInt8) : Prop :=
  frame.getD 2 0 &&& ~~~v2IflagSigned ≠ 0

instance (frame : List UInt8) : Decidable (HasUnknownFlag frame) :=
  inferInstanceAs (Decidable (_ ≠ _))

/-- The buffer starts with the start byte of the given kind. -/
def StartsWith (stx : Stx) (buf : List UInt8) : Prop :=
  buf.head?.bind Stx.fromByte = some stx

/-- A byte string with the length its header announces and no unknown incompat flag. -/
structure CompleteFrame (stx : Stx) (frame : List UInt8) : Prop where
  start : StartsWith stx frame
  flags : stx = .v2 → ¬ HasUnknownFlag frame
  length : frame.length = announcedLen frame stx

/-- If the msgid of the frame is in the table, the CRC of the frame matches. -/
def CrcMatches (table : MsgTable) (stx : Stx) (frame : List UInt8) : Prop :=
  ∀ entry, table.lookup (parseHeader frame stx).msgid = some entry →
    validateCrc frame (parseHeader frame stx) entry.crcExtra = true

/-- A frame the router should forward. -/
def AcceptableFrame (table : MsgTable) (frame : List UInt8) : Prop :=
  ∃ stx, CompleteFrame stx frame ∧ CrcMatches table stx frame

/-- The cause of a discard, on the stream from the discarded byte on. -/
def DiscardCause (table : MsgTable) (here : List UInt8) : Discard → Prop
  | .noStx => ∃ byte rest, here = byte :: rest ∧ byte ≠ stxV1 ∧ byte ≠ stxV2
  | .unknownFlag => StartsWith .v2 here ∧ v2HeaderLen ≤ here.length ∧ HasUnknownFlag here
  | .badCrc => ∃ stx frame, frame <+: here ∧ CompleteFrame stx frame ∧
      ¬ CrcMatches table stx frame

/-- Bytes that may still grow into a frame: fewer than the header, or fewer than the
frame it announces. -/
def Unfinished (buf : List UInt8) : Prop :=
  buf = [] ∨ ∃ stx, StartsWith stx buf ∧
    (buf.length < stx.headerLen ∨
      (stx = .v2 → ¬ HasUnknownFlag buf) ∧ buf.length < announcedLen buf stx)

namespace Framer

variable {table : MsgTable} {buf frame : List UInt8} {stx : Stx}

/-- The length decision of the code in terms of the announced length. -/
theorem decideFrameLen_eq (buf : List UInt8) (stx : Stx) :
    decideFrameLen buf stx =
      if stx = .v2 ∧ HasUnknownFlag buf then .unknownIncompatFlag
      else .ready (announcedLen buf stx) := by
  cases stx with
  | v1 => rfl
  | v2 =>
    simp only [decideFrameLen, announcedLen, true_and]
    rfl

/-- The code announces a length unless it refuses the flags. -/
theorem decideFrameLen_eq_ready {frameLen : ℕ} :
    decideFrameLen buf stx = .ready frameLen ↔
      (stx = .v2 → ¬ HasUnknownFlag buf) ∧ frameLen = announcedLen buf stx := by
  rw [decideFrameLen_eq]
  split <;> rename_i hflag
  · simp [hflag]
  · rw [FrameLen.ready.injEq]
    constructor
    · rintro rfl
      exact ⟨fun hv2 hunknown => hflag ⟨hv2, hunknown⟩, rfl⟩
    · rintro ⟨-, rfl⟩
      rfl

/-- The code refuses exactly the v2 headers with an unknown incompat flag. -/
theorem decideFrameLen_eq_unknown :
    decideFrameLen buf stx = .unknownIncompatFlag ↔ stx = .v2 ∧ HasUnknownFlag buf := by
  rw [decideFrameLen_eq]
  split <;> rename_i hflag <;> simp [hflag]

/-- The CRC test of the code is the CRC condition on frames. -/
theorem acceptsCrc_iff : acceptsCrc table frame stx = true ↔ CrcMatches table stx frame := by
  simp only [acceptsCrc, CrcMatches]
  cases table.lookup (parseHeader frame stx).msgid with
  | none => simp [crcOk]
  | some entry => simp [crcOk]

/-- A header announces at least a header and a checksum. -/
theorem headerLen_lt_announcedLen (frame : List UInt8) (stx : Stx) :
    stx.headerLen < announcedLen frame stx := by
  cases stx <;> simp only [announcedLen, Stx.headerLen, crcLen] <;> omega

/-- No frame is longer than a signed v2 frame with a full payload. -/
theorem announcedLen_le (frame : List UInt8) (stx : Stx) : announcedLen frame stx ≤ 280 := by
  have hlen := (frame.getD 1 0).toNat_lt
  cases stx with
  | v1 => simp only [announcedLen, v1HeaderLen, crcLen]; omega
  | v2 =>
    simp only [announcedLen, v2HeaderLen, crcLen, v2SignatureLen]
    split <;> omega

/-- A buffer that starts with a start byte is judged at that byte. -/
theorem verdict_of_startsWith (h : StartsWith stx buf) :
    (scanner table).verdict buf = verdictAtStx table buf stx := by
  cases buf with
  | nil => simp [StartsWith] at h
  | cons byte rest =>
    have hbyte : Stx.fromByte byte = some stx := by simpa [StartsWith] using h
    simp [scanner, verdict, hbyte]

/-- A complete frame at the front of the buffer is judged by its CRC alone. -/
theorem verdict_completeFrame (table : MsgTable) (h : CompleteFrame stx frame) (rest : List UInt8) :
    (scanner table).verdict (frame ++ rest) =
      if acceptsCrc table frame stx then .emit frame.length (fullHeader table frame stx)
      else .discard .badCrc := by
  have hlen := headerLen_lt_announcedLen frame stx
  have hframeLen := h.length
  have hready : decideFrameLen (frame ++ rest) stx = .ready frame.length := by
    rw [decideFrameLen_append (by omega)]
    exact decideFrameLen_eq_ready.mpr ⟨h.flags, h.length⟩
  have hstart : StartsWith stx (frame ++ rest) := by
    have hstart := h.start
    cases frame with
    | nil => simp [StartsWith] at hstart
    | cons byte tail => simpa [StartsWith] using hstart
  have hheader : ¬ (frame ++ rest).length < stx.headerLen := by
    simp only [List.length_append]
    omega
  have hfits : ¬ (frame ++ rest).length < frame.length := by simp
  rw [verdict_of_startsWith hstart, verdictAtStx, if_neg hheader, hready]
  simp only [if_neg hfits, List.take_left]

/-- A complete frame at the front of a buffer, from the length decision of the code. -/
theorem completeFrame_take (hstart : StartsWith stx buf) {frameLen : ℕ}
    (hready : decideFrameLen buf stx = .ready frameLen) (hlen : frameLen ≤ buf.length) :
    CompleteFrame stx (buf.take frameLen) := by
  obtain ⟨hflags, hframeLen⟩ := decideFrameLen_eq_ready.mp hready
  have hheader := headerLen_lt_announcedLen buf stx
  have htake : (buf.take frameLen).length = frameLen := List.length_take_of_le hlen
  have hready' : decideFrameLen (buf.take frameLen) stx = .ready frameLen := by
    rw [← hready]
    conv_rhs => rw [← List.take_append_drop frameLen buf]
    rw [decideFrameLen_append (by omega)]
  obtain ⟨hflags', hframeLen'⟩ := decideFrameLen_eq_ready.mp hready'
  refine ⟨?_, hflags', htake.trans hframeLen'⟩
  cases buf with
  | nil => simp [StartsWith] at hstart
  | cons byte rest =>
    obtain ⟨n, rfl⟩ : ∃ n, frameLen = n + 1 := ⟨frameLen - 1, by omega⟩
    simpa [StartsWith] using hstart

/-- All the ways in which the front of a buffer can be judged. -/
inductive Judged (table : MsgTable) (buf : List UInt8) : Verdict ParsedHeader Discard → Prop
  | empty (hbuf : buf = []) : Judged table buf .wait
  | noStx {byte : UInt8} {rest : List UInt8} (hbuf : buf = byte :: rest)
      (hbyte : Stx.fromByte byte = none) : Judged table buf (.discard .noStx)
  | shortHeader {stx : Stx} (hstart : StartsWith stx buf)
      (hlen : buf.length < stx.headerLen) : Judged table buf .wait
  | unknownFlag (hstart : StartsWith .v2 buf) (hlen : v2HeaderLen ≤ buf.length)
      (hflag : HasUnknownFlag buf) : Judged table buf (.discard .unknownFlag)
  | shortFrame {stx : Stx} (hstart : StartsWith stx buf)
      (hflags : stx = .v2 → ¬ HasUnknownFlag buf)
      (hlen : buf.length < announcedLen buf stx) : Judged table buf .wait
  | badCrc {stx : Stx} {frame rest : List UInt8} (hbuf : buf = frame ++ rest)
      (hframe : CompleteFrame stx frame) (hcrc : ¬ CrcMatches table stx frame) :
      Judged table buf (.discard .badCrc)
  | accepted {stx : Stx} {frame rest : List UInt8} (hbuf : buf = frame ++ rest)
      (hframe : CompleteFrame stx frame) (hcrc : CrcMatches table stx frame) :
      Judged table buf (.emit frame.length (fullHeader table frame stx))

/-- The verdict on a buffer has one of these grounds. -/
theorem judged_verdict (table : MsgTable) (buf : List UInt8) :
    Judged table buf ((scanner table).verdict buf) := by
  cases hbuf : buf with
  | nil => exact .empty rfl
  | cons byte rest =>
    rw [← hbuf]
    cases hbyte : Stx.fromByte byte with
    | none =>
      have hverdict : (scanner table).verdict buf = .discard .noStx := by
        simp [hbuf, scanner, verdict, hbyte]
      rw [hverdict]
      exact .noStx hbuf hbyte
    | some stx =>
      have hstart : StartsWith stx buf := by simpa [hbuf, StartsWith] using hbyte
      rw [verdict_of_startsWith hstart, verdictAtStx]
      split <;> rename_i hheader
      · exact .shortHeader hstart hheader
      · split <;> rename_i hframe
        · obtain ⟨rfl, hflag⟩ := decideFrameLen_eq_unknown.mp hframe
          exact .unknownFlag hstart (Nat.le_of_not_lt hheader) hflag
        · rename_i frameLen
          obtain ⟨hflags, hframeLen⟩ := decideFrameLen_eq_ready.mp hframe
          split <;> rename_i hlen
          · exact .shortFrame hstart hflags (hframeLen ▸ hlen)
          · have hcomplete := completeFrame_take hstart hframe (by omega)
            have hsplit := (List.take_append_drop frameLen buf).symm
            have htake : (buf.take frameLen).length = frameLen :=
              List.length_take_of_le (by omega)
            split <;> rename_i hcrc
            · simpa only [htake] using
                Judged.accepted hsplit hcomplete (acceptsCrc_iff.mp hcrc)
            · exact .badCrc hsplit hcomplete (acceptsCrc_iff.not.mp hcrc)

/-- Waiting means that the buffer may still grow into a frame. -/
theorem unfinished_of_wait (h : (scanner table).verdict buf = .wait) : Unfinished buf := by
  have hjudged := judged_verdict table buf
  rw [h] at hjudged
  cases hjudged with
  | empty hbuf => exact .inl hbuf
  | shortHeader hstart hlen => exact .inr ⟨_, hstart, .inl hlen⟩
  | shortFrame hstart hflags hlen => exact .inr ⟨_, hstart, .inr ⟨hflags, hlen⟩⟩

/-- Every discard has one of the three causes. -/
theorem discardCause_of_discard {why : Discard}
    (h : (scanner table).verdict buf = .discard why) : DiscardCause table buf why := by
  have hjudged := judged_verdict table buf
  rw [h] at hjudged
  cases hjudged with
  | noStx hbuf hbyte => exact ⟨_, _, hbuf, Stx.fromByte_eq_none.mp hbyte⟩
  | unknownFlag hstart hlen hflag => exact ⟨hstart, hlen, hflag⟩
  | @badCrc stx frame rest hbuf hframe hcrc =>
    exact ⟨stx, frame, hbuf ▸ List.prefix_append _ _, hframe, hcrc⟩

/-- An emitted block is an acceptable frame. -/
theorem acceptableFrame_of_emit {rest : List UInt8} {header : ParsedHeader}
    (h : (scanner table).verdict (frame ++ rest) = .emit frame.length header) :
    AcceptableFrame table frame := by
  have hjudged := judged_verdict table (frame ++ rest)
  rw [h] at hjudged
  generalize hlen : frame.length = frameLen at hjudged
  cases hjudged with
  | @accepted stx frame' rest' hbuf hframe hcrc =>
    obtain ⟨rfl, rfl⟩ := List.append_inj hbuf hlen
    exact ⟨stx, hframe, hcrc⟩

/-- What a run of the scanner hands out are acceptable frames. -/
theorem acceptableFrame_of_mem_emissions {rest : List UInt8} {pieces : List Piece}
    {header : ParsedHeader} (hrun : (scanner table).Run buf pieces rest)
    (hmem : (header, frame) ∈ emissions pieces) : AcceptableFrame table frame := by
  rw [emissions, List.mem_filterMap] at hmem
  obtain ⟨piece, hpiece, houtput⟩ := hmem
  obtain ⟨before, after, rfl⟩ := List.append_of_mem hpiece
  obtain ⟨here, rest, -, hstep, -⟩ := hrun.step_of_mem
  cases piece with
  | discarded byte why => cases houtput
  | emitted frame' header' =>
    obtain ⟨rfl, rfl⟩ : header' = header ∧ frame' = frame := by simpa using houtput
    have hverdict := hstep.verdict_eq
    rw [hstep.eq_append] at hverdict
    exact acceptableFrame_of_emit hverdict

/-- A framer hands out acceptable frames. -/
theorem acceptableFrame_of_tryNextFrame {framer after : Framer} {header : ParsedHeader}
    (h : tryNextFrame table framer = (some (header, frame), after)) :
    AcceptableFrame table frame := by
  obtain ⟨pieces, hscan, hemit, -⟩ := tryNextFrame_scans table framer
  have hmem : (header, frame) ∈ emissions pieces := by
    rw [hemit, h]
    exact List.mem_singleton_self _
  exact acceptableFrame_of_mem_emissions hscan.run hmem

/-- No acceptable frame is longer than a signed v2 frame with a full payload. -/
theorem length_le_of_acceptableFrame (h : AcceptableFrame table frame) : frame.length ≤ 280 := by
  obtain ⟨stx, hframe, -⟩ := h
  rw [hframe.length]
  exact announcedLen_le frame stx

/-- No acceptable frame starts at a position that is discarded. -/
theorem not_acceptable_of_discard {why : Discard}
    (h : (scanner table).verdict buf = .discard why) (hbuf : frame <+: buf) :
    ¬ AcceptableFrame table frame := by
  rintro ⟨stx, hframe, hcrc⟩
  obtain ⟨rest, rfl⟩ := hbuf
  rw [verdict_completeFrame table hframe, if_pos (acceptsCrc_iff.mpr hcrc)] at h
  cases h

/-- At most 279 bytes wait in the buffer. -/
theorem length_le_of_unfinished (h : Unfinished buf) : buf.length ≤ 279 := by
  rcases h with rfl | ⟨stx, -, hheader | ⟨-, hframe⟩⟩
  · simp
  · have hlen : stx.headerLen ≤ 10 := by cases stx <;> decide
    omega
  · have hlen := announcedLen_le buf stx
    omega

/-- The parts of a stream that a framer has been fed and has drained. -/
structure Tiling (table : MsgTable) (stream : List UInt8) (pieces : List Piece)
    (frames : List (ParsedHeader × List UInt8)) (framer : Framer) : Prop where
  /-- The pieces and the bytes left make up the stream. -/
  tiles : stream = pieces.flatMap Segment.symbols ++ framer.buf
  /-- The frames handed out are the emitted pieces, in order. -/
  frames_eq : frames = emissions pieces
  /-- Every emitted frame is acceptable. -/
  accepted : ∀ header frame, (header, frame) ∈ frames → AcceptableFrame table frame
  /-- Every discarded byte has its cause, and no acceptable frame starts at it. -/
  discarded : ∀ before byte why after, pieces = before ++ .discarded byte why :: after →
    ∃ here, stream = before.flatMap Segment.symbols ++ here ∧ here.head? = some byte ∧
      DiscardCause table here why ∧ ∀ frame, frame <+: here → ¬ AcceptableFrame table frame
  /-- The counters are the numbers of discarded pieces, up to saturation. -/
  resync : framer.resyncBytes.toNat = min (discards pieces) u64Max
  crc : framer.crcErrors.toNat = min (crcDiscards pieces) u64Max
  /-- What is left may still grow into a frame. -/
  left : Unfinished framer.buf
  left_length : framer.buf.length ≤ 279
  /-- The drain has ended: another call finds nothing and changes nothing. -/
  ended : tryNextFrame table framer = (none, framer)

/-- A framer that waits hands out nothing and stays as it is. -/
theorem tryNextFrame_of_wait {framer : Framer}
    (h : (scanner table).verdict framer.buf = .wait) :
    tryNextFrame table framer = (none, framer) := by
  obtain ⟨pieces, hscan, hemit, hwait⟩ := tryNextFrame_scans table framer
  obtain rfl := hscan.run.eq_nil_of_wait h
  have hnone : (tryNextFrame table framer).1 = none := Option.toList_eq_nil_iff.mp hemit.symm
  obtain ⟨-, hsame⟩ := scans_unique hscan (hwait hnone) (Scans.refl framer) h
  exact Prod.ext hnone hsame

/-- Tiling: draining a fresh framer fed with any stream cuts it into acceptable frames,
single discarded bytes and a residue. -/
theorem drain_tiling (table : MsgTable) (stream : List UInt8) :
    ∃ pieces, Tiling table stream pieces (drain table (new.extendFromSlice stream)).1
      (drain table (new.extendFromSlice stream)).2 := by
  obtain ⟨pieces, hscan, hemit, hwait⟩ := drain_scans table (new.extendFromSlice stream)
  have hrun : (scanner table).Run stream pieces _ := hscan.run
  refine ⟨pieces, ?_⟩
  constructor
  case tiles => exact hrun.eq_append
  case frames_eq => exact hemit.symm
  case accepted =>
    intro header frame hmem
    rw [← hemit] at hmem
    exact acceptableFrame_of_mem_emissions hrun hmem
  case discarded =>
    rintro before byte why after rfl
    obtain ⟨here, rest, hstream, hstep, -⟩ := hrun.step_of_mem
    have hverdict : (scanner table).verdict here = .discard why := hstep.verdict_eq
    refine ⟨here, hstream, by rw [hstep.eq_append]; rfl, discardCause_of_discard hverdict, ?_⟩
    exact fun frame hbuf => not_acceptable_of_discard hverdict hbuf
  case resync => rw [hscan.resync]; simp [new, extendFromSlice]
  case crc => rw [hscan.crc]; simp [new, extendFromSlice]
  case left => exact unfinished_of_wait hwait
  case left_length => exact length_le_of_unfinished (unfinished_of_wait hwait)
  case ended => exact tryNextFrame_of_wait hwait

end Framer

end MavlinkRouter
