import Mathlib

/-!
# Resumable scanners

A scanner reads a buffer that grows at its end. Looking at the buffer alone it
waits for more symbols, discards the first symbol, or emits a block of symbols
from the front. If every decision other than waiting is final, then the segments
a scanner cuts off do not depend on how the stream was delivered.
-/

namespace Library

/-- What a scanner decides about the front of its buffer. -/
inductive Verdict (β ρ : Type*) where
  /-- The buffer is too short to decide. -/
  | wait
  /-- The first symbol cannot start a block. -/
  | discard (reason : ρ)
  /-- The first `length` symbols form a block with this output. -/
  | emit (length : ℕ) (output : β)

/-- One piece of the stream that a scanner has cut off. -/
inductive Segment (α β ρ : Type*) where
  | discarded (symbol : α) (reason : ρ)
  | emitted (symbols : List α) (output : β)

namespace Segment

variable {α β ρ : Type*}

/-- The symbols a segment covers. -/
@[simp] def symbols : Segment α β ρ → List α
  | discarded a _ => [a]
  | emitted xs _ => xs

/-- The block and the output of an emitted segment. -/
@[simp] def output? : Segment α β ρ → Option (β × List α)
  | discarded _ _ => none
  | emitted xs out => some (out, xs)

/-- The reason of a discarded segment. -/
@[simp] def reason? : Segment α β ρ → Option ρ
  | discarded _ why => some why
  | emitted _ _ => none

/-- The decision that cuts a segment off. -/
def verdict : Segment α β ρ → Verdict β ρ
  | discarded _ why => .discard why
  | emitted xs out => .emit xs.length out

private theorem verdict_ne_wait (seg : Segment α β ρ) : seg.verdict ≠ .wait := by
  cases seg <;> simp [verdict]

end Segment

/-- A scanner whose decisions, once taken, survive any extension of the buffer. -/
structure Scanner (α β ρ : Type*) where
  verdict : List α → Verdict β ρ
  /-- A decision does not change when more symbols arrive. -/
  stable : ∀ {l}, verdict l ≠ .wait → ∀ more, verdict (l ++ more) = verdict l

namespace Scanner

variable {α β ρ : Type*} (sc : Scanner α β ρ)

/-- One segment is cut off the front of the buffer, as the verdict says. -/
structure Step (l : List α) (seg : Segment α β ρ) (m : List α) : Prop where
  eq_append : l = seg.symbols ++ m
  verdict_eq : sc.verdict l = seg.verdict

/-- A sequence of segments is cut off the front of the buffer. -/
inductive Run : List α → List (Segment α β ρ) → List α → Prop
  | nil (l : List α) : Run l [] l
  | cons {l m r : List α} {seg : Segment α β ρ} {segs : List (Segment α β ρ)}
      (hstep : sc.Step l seg m) (hrun : Run m segs r) : Run l (seg :: segs) r

variable {sc} {l m r r' more : List α} {seg seg' : Segment α β ρ}
  {segs segs' : List (Segment α β ρ)}

/-- No step is possible from a buffer on which the scanner waits. -/
theorem Step.not_wait (h : sc.Step l seg m) : sc.verdict l ≠ .wait := by
  rw [h.verdict_eq]
  exact seg.verdict_ne_wait

/-- A step does not depend on symbols that arrive later. -/
theorem Step.extend (h : sc.Step l seg m) (more : List α) :
    sc.Step (l ++ more) seg (m ++ more) where
  eq_append := by rw [h.eq_append, List.append_assoc]
  verdict_eq := by rw [sc.stable h.not_wait, h.verdict_eq]

/-- At most one step is possible from each buffer. -/
theorem Step.unique (h : sc.Step l seg m) (h' : sc.Step l seg' r) : seg = seg' ∧ m = r := by
  have hverdict := h.verdict_eq.symm.trans h'.verdict_eq
  have hbuf := h.eq_append.symm.trans h'.eq_append
  cases seg with
  | discarded a why =>
    cases seg' with
    | discarded a' why' =>
      obtain rfl : why = why' := by simpa [Segment.verdict] using hverdict
      obtain ⟨rfl, rfl⟩ : a = a' ∧ m = r := by simpa using hbuf
      exact ⟨rfl, rfl⟩
    | emitted xs' out' => simp [Segment.verdict] at hverdict
  | emitted xs out =>
    cases seg' with
    | discarded a' why' => simp [Segment.verdict] at hverdict
    | emitted xs' out' =>
      obtain ⟨hlen, rfl⟩ : xs.length = xs'.length ∧ out = out' := by
        simpa [Segment.verdict] using hverdict
      obtain ⟨rfl, rfl⟩ := List.append_inj hbuf hlen
      exact ⟨rfl, rfl⟩

/-- Runs compose. -/
theorem Run.append (h : sc.Run l segs m) (h' : sc.Run m segs' r) :
    sc.Run l (segs ++ segs') r := by
  induction h with
  | nil => exact h'
  | cons hstep _ ih => exact .cons hstep (ih h')

/-- A single step is a run. -/
theorem Step.run (h : sc.Step l seg m) : sc.Run l [seg] m := .cons h (.nil m)

/-- The segments of a run tile the consumed part of the buffer. -/
theorem Run.eq_append (h : sc.Run l segs r) : l = segs.flatMap Segment.symbols ++ r := by
  induction h with
  | nil => simp
  | cons hstep _ ih => rw [hstep.eq_append, ih]; simp

/-- A run does not depend on symbols that arrive later. -/
theorem Run.extend (h : sc.Run l segs r) (more : List α) :
    sc.Run (l ++ more) segs (r ++ more) := by
  induction h with
  | nil => exact .nil _
  | cons hstep _ ih => exact .cons (hstep.extend more) ih

/-- From a buffer on which the scanner waits there is only the empty run. -/
theorem Run.eq_nil_of_wait (h : sc.Run l segs r) (hl : sc.verdict l = .wait) : segs = [] := by
  cases h with
  | nil => rfl
  | cons hstep _ => exact absurd hl hstep.not_wait

/-- Two runs that both end waiting have cut the stream in the same way. -/
theorem Run.unique (h : sc.Run l segs r) (hr : sc.verdict r = .wait)
    (h' : sc.Run l segs' r') (hr' : sc.verdict r' = .wait) : segs = segs' ∧ r = r' := by
  induction h generalizing segs' with
  | nil l =>
    cases h' with
    | nil => exact ⟨rfl, rfl⟩
    | cons hstep _ => exact absurd hr hstep.not_wait
  | cons hstep hrun ih =>
    cases h' with
    | nil => exact absurd hr' hstep.not_wait
    | cons hstep' hrun' =>
      obtain ⟨rfl, rfl⟩ := hstep.unique hstep'
      obtain ⟨rfl, rfl⟩ := ih hr hrun'
      exact ⟨rfl, rfl⟩

/-- A segment in the middle of a run was cut off the stream at its own position. -/
theorem Run.step_of_mem {pre post : List (Segment α β ρ)}
    (h : sc.Run l (pre ++ seg :: post) r) :
    ∃ m m', l = pre.flatMap Segment.symbols ++ m ∧ sc.Step m seg m' ∧ sc.Run m' post r := by
  induction pre generalizing l with
  | nil =>
    cases h with
    | cons hstep hrun => exact ⟨l, _, by simp, hstep, hrun⟩
  | cons first pre ih =>
    cases h with
    | cons hstep hrun =>
      obtain ⟨m, m', hm, hseg, hpost⟩ := ih hrun
      exact ⟨m, m', by rw [hstep.eq_append, hm]; simp, hseg, hpost⟩

/-- Standing alone, the block is cut off whole, with this output. -/
def Emits (sc : Scanner α β ρ) (block : List α) (out : β) : Prop :=
  sc.verdict block = .emit block.length out

variable {block part : List α} {out : β}

/-- A block is cut off whatever follows it. -/
theorem Emits.step (h : sc.Emits block out) (rest : List α) :
    sc.Step (block ++ rest) (.emitted block out) rest where
  eq_append := rfl
  verdict_eq := by
    have hdecided : sc.verdict block ≠ .wait := by
      rw [h]
      exact Segment.verdict_ne_wait (.emitted block out)
    exact (sc.stable hdecided rest).trans h

/-- Blocks in a row are cut off one by one. -/
theorem run_blocks {blocks : List (β × List α)}
    (h : ∀ emitted ∈ blocks, sc.Emits emitted.2 emitted.1) (rest : List α) :
    sc.Run (blocks.flatMap Prod.snd ++ rest)
      (blocks.map fun emitted => .emitted emitted.2 emitted.1) rest := by
  induction blocks with
  | nil => exact .nil rest
  | cons emitted blocks ih =>
    rw [List.flatMap_cons, List.append_assoc]
    have hfirst := (h emitted List.mem_cons_self).step (blocks.flatMap Prod.snd ++ rest)
    exact .cons hfirst (ih fun other hother => h other (List.mem_cons_of_mem _ hother))

/-- On a proper part of a block a scanner that never cuts off more than it holds waits for the
rest: any decision it took would be its decision on the whole block. -/
theorem Emits.wait_of_prefix (h : sc.Emits block out)
    (hheld : ∀ {buffer length output}, sc.verdict buffer = .emit length output →
      length ≤ buffer.length) (hpart : part <+: block) (hproper : part ≠ block) :
    sc.verdict part = .wait := by
  by_contra hdecided
  obtain ⟨rest, rfl⟩ := hpart
  have hlen : (part ++ rest).length ≤ part.length :=
    hheld ((sc.stable hdecided rest).symm.trans h)
  have hrest : rest = [] := by
    rw [List.length_append] at hlen
    exact List.length_eq_zero_iff.mp (by omega)
  exact hproper (by rw [hrest, List.append_nil])

end Scanner

end Library
