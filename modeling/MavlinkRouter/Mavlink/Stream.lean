import MavlinkRouter.Mavlink.Tiling

/-!
# Frames back to back

A frame that a framer handed out is a frame on its own: written out again and read by
another framer with the same table it comes out as it was, with the same header and
whatever the stream continues with.
-/

namespace MavlinkRouter

open Library

namespace Framer

variable {table : MsgTable} {frame part rest stream : List UInt8} {header : ParsedHeader}

/-- The frames in a stream, as a framer finds them that starts with the stream. -/
def framesOf (table : MsgTable) (stream : List UInt8) : List (ParsedHeader × List UInt8) :=
  (drain table (new.extendFromSlice stream)).1

/-- A frame is never longer than what the framer holds. -/
theorem length_le_of_emit {frameLen : ℕ}
    (h : (scanner table).verdict stream = .emit frameLen header) : frameLen ≤ stream.length := by
  have hjudged := judged_verdict table stream
  rw [h] at hjudged
  cases hjudged with
  | accepted hbuf hframe hcrc =>
    rw [hbuf, List.length_append]
    exact Nat.le_add_right _ _

/-- What was cut off a stream is a frame without the rest of the stream. -/
theorem emits_of_emit
    (h : (scanner table).verdict (frame ++ rest) = .emit frame.length header) :
    (scanner table).Emits frame header := by
  obtain ⟨stx, hcomplete, hcrc⟩ := acceptableFrame_of_emit h
  have halone := verdict_completeFrame table hcomplete []
  rw [List.append_nil, ← verdict_completeFrame table hcomplete rest, h] at halone
  exact halone

/-- Every frame cut off a stream is a frame on its own. -/
theorem emits_of_mem_emissions {pieces : List Piece}
    (hrun : (scanner table).Run stream pieces rest)
    (hmem : (header, frame) ∈ emissions pieces) : (scanner table).Emits frame header := by
  obtain ⟨piece, hpiece, hout⟩ := List.mem_filterMap.mp hmem
  obtain ⟨earlier, later, rfl⟩ := List.append_of_mem hpiece
  obtain ⟨here, after, -, hstep, -⟩ := hrun.step_of_mem
  cases piece with
  | discarded byte why => cases hout
  | emitted symbols output =>
    cases hout
    apply emits_of_emit
    rw [← show here = frame ++ after from hstep.eq_append]
    exact hstep.verdict_eq

/-- Part of a frame makes the framer wait. -/
theorem wait_of_part (h : (scanner table).Emits frame header) (hpart : part <+: frame)
    (hproper : part ≠ frame) : (scanner table).verdict part = .wait :=
  h.wait_of_prefix length_le_of_emit hpart hproper

/-- Of a list of frames every piece is emitted. -/
theorem emissions_frames (frames : List (ParsedHeader × List UInt8)) :
    emissions (frames.map fun out => .emitted out.2 out.1) = frames := by
  induction frames with
  | nil => rfl
  | cons out frames ih => rw [List.map_cons, emissions_emitted, ih]

/-- Of a list of frames no piece is discarded. -/
theorem discards_frames (frames : List (ParsedHeader × List UInt8)) :
    discards (frames.map fun out => .emitted out.2 out.1) = 0 ∧
      crcDiscards (frames.map fun out => .emitted out.2 out.1) = 0 := by
  constructor
  · simp [discards]
  · simp [crcDiscards]

/-- Frames back to back, and a part the framer waits on, are read as they are: every frame in
order with its header, and no byte is discarded. -/
theorem drain_frames {frames : List (ParsedHeader × List UInt8)}
    (hframes : ∀ out ∈ frames, (scanner table).Emits out.2 out.1)
    (hrest : (scanner table).verdict rest = .wait) :
    drain table (new.extendFromSlice (frames.flatMap Prod.snd ++ rest)) =
      (frames, new.extendFromSlice rest) := by
  obtain ⟨hdiscards, hcrc⟩ := discards_frames frames
  have hread : Scans table (new.extendFromSlice (frames.flatMap Prod.snd ++ rest))
      (frames.map fun out => .emitted out.2 out.1) (new.extendFromSlice rest) := by
    refine ⟨?_, ?_, ?_⟩
    · simpa [extendFromSlice, new] using Scanner.run_blocks hframes rest
    · rw [hdiscards]
      rfl
    · rw [hcrc]
      rfl
  obtain ⟨pieces, hscans, hemitted, hwait⟩ :=
    drain_scans table (new.extendFromSlice (frames.flatMap Prod.snd ++ rest))
  obtain ⟨rfl, hlast⟩ := scans_unique hscans hwait hread hrest
  rw [emissions_frames] at hemitted
  exact Prod.ext hemitted.symm hlast

/-- A frame on its own is all there is to read. -/
theorem framesOf_frame (h : (scanner table).Emits frame header) :
    framesOf table frame = [(header, frame)] := by
  have hframes : ∀ out ∈ [(header, frame)], (scanner table).Emits out.2 out.1 :=
    List.forall_mem_singleton.mpr h
  have hwait : (scanner table).verdict [] = .wait := rfl
  have hdrain := drain_frames hframes hwait
  rw [List.flatMap_singleton, List.append_nil] at hdrain
  rw [framesOf, hdrain]

/-- What has been found in a stream stays found when the stream goes on. -/
theorem framesOf_append (table : MsgTable) (stream more : List UInt8) :
    framesOf table stream <+: framesOf table (stream ++ more) := by
  have hchunks := feed_new table .afterEveryChunk ([stream] ++ [more])
  rw [feed_snoc, feed_new] at hchunks
  have hframes := congrArg Prod.fst hchunks
  simp only [List.flatten_append, List.flatten_singleton] at hframes
  exact ⟨_, hframes⟩

end Framer

end MavlinkRouter
