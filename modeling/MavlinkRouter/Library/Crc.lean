import Mathlib

/-!
# Checksums by a shift register

A register of `w` bits takes one bit at a time: it moves down by one place, and if the bit that
falls out differs from the bit that comes in, the polynomial is added to it. The polynomial has
its highest bit set. Then inputs that differ within `w` successive bits lead to different states,
and if the polynomial has an odd number of bits, so do inputs that differ in an odd number of
bits.
-/

namespace Library

variable {w : ℕ}

/-- One bit of input. -/
def shiftIn (poly : BitVec w) (state : BitVec w) (bit : Bool) : BitVec w :=
  if state.getLsbD 0 ^^ bit then (state >>> 1) ^^^ poly else state >>> 1

/-- A string of bits. -/
def feed (poly : BitVec w) (state : BitVec w) (bits : List Bool) : BitVec w :=
  bits.foldl (shiftIn poly) state

variable {poly state state' : BitVec w} {bits bits' : List Bool}

private theorem getLsbD_shiftIn (poly state : BitVec w) (bit : Bool) (i : ℕ) :
    (shiftIn poly state bit).getLsbD i =
      (state.getLsbD (i + 1) ^^ ((state.getLsbD 0 ^^ bit) && poly.getLsbD i)) := by
  rw [shiftIn, Nat.add_comm i 1]
  cases hfeedback : state.getLsbD 0 ^^ bit with
  | false => simp
  | true => simp

@[simp] private theorem feed_nil (poly state : BitVec w) : feed poly state [] = state := rfl

@[simp] private theorem feed_cons (poly state : BitVec w) (bit : Bool) (bits : List Bool) :
    feed poly state (bit :: bits) = feed poly (shiftIn poly state bit) bits := rfl

/-- Feeding one string after another. -/
theorem feed_append (poly state : BitVec w) (bits bits' : List Bool) :
    feed poly state (bits ++ bits') = feed poly (feed poly state bits) bits' :=
  List.foldl_append

section Linear

/-- A step is linear in the state and the input together. -/
theorem shiftIn_xor (poly state state' : BitVec w) (bit bit' : Bool) :
    shiftIn poly (state ^^^ state') (bit ^^ bit') =
      shiftIn poly state bit ^^^ shiftIn poly state' bit' := by
  refine BitVec.eq_of_getLsbD_eq fun i _ => ?_
  simp only [BitVec.getLsbD_xor, getLsbD_shiftIn]
  cases state.getLsbD 0 <;> cases state'.getLsbD 0 <;> cases bit <;> cases bit' <;>
    cases poly.getLsbD i <;> cases state.getLsbD (i + 1) <;> cases state'.getLsbD (i + 1) <;> rfl

/-- So is a run. -/
theorem feed_xor (poly state state' : BitVec w) (hlength : bits.length = bits'.length) :
    feed poly (state ^^^ state') (List.zipWith xor bits bits') =
      feed poly state bits ^^^ feed poly state' bits' := by
  induction bits generalizing state state' bits' with
  | nil =>
    cases bits' with
    | nil => rfl
    | cons bit' bits' => cases hlength
  | cons bit bits ih =>
    cases bits' with
    | nil => cases hlength
    | cons bit' bits' =>
      rw [List.zipWith_cons_cons, feed_cons, shiftIn_xor, ih _ _ (Nat.succ.inj hlength)]
      rfl

/-- The lowest bits of the register, the lowest first. -/
def lowBits (n : ℕ) (state : BitVec w) : List Bool :=
  (List.range n).map state.getLsbD

private theorem lowBits_succ (n : ℕ) (state : BitVec w) :
    lowBits (n + 1) state = state.getLsbD 0 :: lowBits n (state >>> 1) := by
  rw [lowBits, List.range_succ_eq_map, List.map_cons, List.map_map, lowBits]
  refine congrArg _ (List.map_congr_left fun i _ => ?_)
  simp [Nat.add_comm]

/-- Fed with what falls out of it, the register only moves down. -/
theorem feed_lowBits (poly : BitVec w) (n : ℕ) (state : BitVec w) :
    feed poly state (lowBits n state) = state >>> n := by
  induction n generalizing state with
  | zero => simp [lowBits]
  | succ n ih =>
    have hstep : shiftIn poly state (state.getLsbD 0) = state >>> 1 := by simp [shiftIn]
    rw [lowBits_succ, feed_cons, hstep, ih, ← BitVec.shiftRight_add, Nat.add_comm]

/-- A run from any state is the state moved down and a run from zero. -/
theorem feed_eq (poly state : BitVec w) (bits : List Bool) :
    feed poly state bits =
      (state >>> bits.length) ^^^
        feed poly 0#w (List.zipWith xor (lowBits bits.length state) bits) := by
  have hlow : (lowBits bits.length state).length = bits.length := by simp [lowBits]
  have hcancel : List.zipWith xor (lowBits bits.length state)
      (List.zipWith xor (lowBits bits.length state) bits) = bits := by
    refine List.ext_getElem (by simp [hlow]) fun i _ _ => ?_
    simp
  have hlength : (lowBits bits.length state).length =
      (List.zipWith xor (lowBits bits.length state) bits).length := by
    rw [List.length_zipWith, hlow, Nat.min_self]
  have hxor := feed_xor poly state 0#w hlength
  rwa [hcancel, BitVec.xor_zero, feed_lowBits] at hxor

/-- A word that is added to the register at once and then moved through it. -/
theorem feed_lowBits_of_shiftRight_eq_zero {n : ℕ} {word : BitVec w} (hword : word >>> n = 0#w)
    (poly state : BitVec w) :
    feed poly state (lowBits n word) =
      (fun register => shiftIn poly register false)^[n] (state ^^^ word) := by
  have hzero : List.zipWith xor (lowBits n word) (lowBits n word) = List.replicate n false := by
    refine List.ext_getElem (by simp [lowBits]) fun i _ _ => ?_
    simp
  have hiterate : ∀ register, feed poly register (List.replicate n false) =
      (fun register => shiftIn poly register false)^[n] register := by
    clear hword hzero
    induction n with
    | zero => exact fun register => rfl
    | succ n ih => exact fun register => ih _
  have hxor := feed_xor poly state word (rfl : (lowBits n word).length = _)
  rw [hzero, hiterate, feed_lowBits, hword, BitVec.xor_zero] at hxor
  exact hxor.symm

end Linear

section Bursts

/-- The polynomial has the highest bit of the register. -/
def HighestBit (poly : BitVec w) : Prop :=
  ∃ n, w = n + 1 ∧ poly.getLsbD n = true

/-- The highest bit shows whether the polynomial has been added. -/
theorem getLsbD_shiftIn_highest {n : ℕ} (hw : w = n + 1) (hbit : poly.getLsbD n = true)
    (state : BitVec w) (bit : Bool) :
    (shiftIn poly state bit).getLsbD n = (state.getLsbD 0 ^^ bit) := by
  have hout : state.getLsbD (n + 1) = false := BitVec.getLsbD_of_ge _ _ (by omega)
  rw [getLsbD_shiftIn, hout, hbit, Bool.and_true, Bool.false_xor]

/-- Runs over at most `w` bits that end in the same state: where the starts differ, so do the
inputs. -/
theorem xor_getLsbD_of_feed_eq (hpoly : HighestBit poly) (hlength : bits.length = bits'.length)
    (hshort : bits.length ≤ w) (h : feed poly state bits = feed poly state' bits') (i : ℕ) :
    (state.getLsbD i ^^ state'.getLsbD i) = (bits.getD i false ^^ bits'.getD i false) := by
  induction bits generalizing state state' bits' i with
  | nil =>
    obtain rfl : bits' = [] := List.length_eq_zero_iff.mp hlength.symm
    obtain rfl : state = state' := h
    simp
  | cons bit bits ih =>
    cases bits' with
    | nil => cases hlength
    | cons bit' bits' =>
      have hlength' : bits.length = bits'.length := Nat.succ.inj hlength
      have hrest := ih hlength' (Nat.le_of_succ_le hshort) h
      obtain ⟨n, hw, hbit⟩ := hpoly
      -- Neither input has a bit for the highest place, so the two feedbacks agree.
      have hfeedback : (state.getLsbD 0 ^^ bit) = (state'.getLsbD 0 ^^ bit') := by
        have hhighest := hrest n
        rw [getLsbD_shiftIn_highest hw hbit, getLsbD_shiftIn_highest hw hbit,
          List.getD_eq_default _ _ (by rw [List.length_cons] at hshort; omega),
          List.getD_eq_default _ _ (by rw [List.length_cons] at hshort; omega)] at hhighest
        revert hhighest
        generalize (state.getLsbD 0 ^^ bit) = feedback
        generalize (state'.getLsbD 0 ^^ bit') = feedback'
        cases feedback <;> cases feedback' <;> decide
      cases i with
      | zero =>
        rw [List.getD_cons_zero, List.getD_cons_zero]
        revert hfeedback
        cases state.getLsbD 0 <;> cases state'.getLsbD 0 <;> cases bit <;> cases bit' <;> decide
      | succ i =>
        have hplace := hrest i
        rw [getLsbD_shiftIn, getLsbD_shiftIn, hfeedback] at hplace
        rw [List.getD_cons_succ, List.getD_cons_succ, ← hplace]
        generalize ((state'.getLsbD 0 ^^ bit') && poly.getLsbD i) = added
        cases state.getLsbD (i + 1) <;> cases state'.getLsbD (i + 1) <;> cases added <;> rfl

/-- Runs over at most `w` bits from one state are told apart. -/
theorem eq_of_feed_eq (hpoly : HighestBit poly) (hlength : bits.length = bits'.length)
    (hshort : bits.length ≤ w) (h : feed poly state bits = feed poly state bits') :
    bits = bits' := by
  refine List.ext_getElem hlength fun i hi hi' => ?_
  have hplace := xor_getLsbD_of_feed_eq hpoly hlength hshort h i
  rw [List.getD_eq_getElem _ _ hi, List.getD_eq_getElem _ _ hi'] at hplace
  simpa using hplace

/-- States stay apart under the same input. -/
theorem feed_injective (hpoly : HighestBit poly) (bits : List Bool) :
    Function.Injective fun state => feed poly state bits := by
  induction bits with
  | nil => exact fun _ _ h => h
  | cons bit bits ih =>
    intro state state' h
    have hstep : feed poly state [bit] = feed poly state' [bit] := ih h
    have hshort : [bit].length ≤ w := by
      obtain ⟨n, rfl, -⟩ := hpoly
      exact Nat.succ_le_succ (Nat.zero_le n)
    refine BitVec.eq_of_getLsbD_eq fun i _ => ?_
    simpa using xor_getLsbD_of_feed_eq hpoly rfl hshort hstep i

/-- The strings differ in `n` successive places at most. -/
def WithinWindow (n : ℕ) (bits bits' : List Bool) : Prop :=
  ∃ start, ∀ i, bits[i]? ≠ bits'[i]? → start ≤ i ∧ i < start + n

/-- Inputs that differ within `w` successive bits lead to different states. -/
theorem feed_ne_of_withinWindow (hpoly : HighestBit poly) (hlength : bits.length = bits'.length)
    (hne : bits ≠ bits') (hwindow : WithinWindow w bits bits') (state : BitVec w) :
    feed poly state bits ≠ feed poly state bits' := by
  obtain ⟨start, hwindow⟩ := hwindow
  have hbefore : bits.take start = bits'.take start := by
    refine List.ext_getElem? fun i => ?_
    rw [List.getElem?_take, List.getElem?_take]
    split
    · by_contra hdiff
      have := hwindow i hdiff
      omega
    · rfl
  have hafter : (bits.drop start).drop w = (bits'.drop start).drop w := by
    refine List.ext_getElem? fun i => ?_
    rw [List.drop_drop, List.drop_drop, List.getElem?_drop, List.getElem?_drop]
    by_contra hdiff
    have := hwindow _ hdiff
    omega
  have hsplit : ∀ list : List Bool, list =
      list.take start ++ ((list.drop start).take w ++ (list.drop start).drop w) := by
    intro list
    rw [List.take_append_drop, List.take_append_drop]
  intro h
  rw [hsplit bits, hsplit bits', feed_append, feed_append, feed_append, feed_append, hbefore,
    hafter] at h
  have hwithin := eq_of_feed_eq hpoly (by simp [hlength]) (List.length_take_le _ _)
    (feed_injective hpoly _ h)
  rw [hsplit bits, hsplit bits', hbefore, hafter, hwithin] at hne
  exact hne rfl

end Bursts

section Parity

/-- The number of bits that are set, modulo 2. -/
def weight (state : BitVec w) : ZMod 2 :=
  ∑ i ∈ Finset.range w, if state.getLsbD i then 1 else 0

/-- The number of bits of a string that are set, modulo 2. -/
def bitWeight (bits : List Bool) : ZMod 2 :=
  (bits.map fun bit => if bit then 1 else 0).sum

/-- The number of places in which two strings differ. -/
def distance (bits bits' : List Bool) : ℕ :=
  (List.zipWith xor bits bits').count true

private theorem indicator_xor (bit bit' : Bool) :
    (if bit ^^ bit' then 1 else 0 : ZMod 2) = (if bit then 1 else 0) + if bit' then 1 else 0 := by
  cases bit <;> cases bit' <;> decide

private theorem weight_xor (state state' : BitVec w) :
    weight (state ^^^ state') = weight state + weight state' := by
  rw [weight, weight, weight, ← Finset.sum_add_distrib]
  refine Finset.sum_congr rfl fun i _ => ?_
  rw [BitVec.getLsbD_xor, indicator_xor]

/-- The bit that falls out is missing. -/
theorem weight_shiftRight (state : BitVec w) :
    weight (state >>> 1) + (if state.getLsbD 0 then 1 else 0) = weight state := by
  have houter : (if state.getLsbD w then 1 else 0 : ZMod 2) = 0 := by
    rw [BitVec.getLsbD_of_ge _ _ le_rfl]
    rfl
  calc weight (state >>> 1) + (if state.getLsbD 0 then 1 else 0)
      = ∑ i ∈ Finset.range (w + 1), if state.getLsbD i then 1 else 0 := by
        rw [Finset.sum_range_succ', weight]
        refine congrArg (· + _) (Finset.sum_congr rfl fun i _ => ?_)
        rw [BitVec.getLsbD_ushiftRight, Nat.add_comm]
    _ = weight state := by rw [Finset.sum_range_succ, houter, add_zero, weight]

/-- A polynomial of odd weight: the register's parity is that of its input. -/
theorem weight_shiftIn (hpoly : weight poly = 1) (state : BitVec w) (bit : Bool) :
    weight (shiftIn poly state bit) = weight state + if bit then 1 else 0 := by
  have hshift : weight (state >>> 1) = weight state + if state.getLsbD 0 then 1 else 0 := by
    rw [← weight_shiftRight state, add_assoc, CharTwo.add_self_eq_zero, add_zero]
  have hadded : weight (shiftIn poly state bit) =
      weight (state >>> 1) + if state.getLsbD 0 ^^ bit then 1 else 0 := by
    rw [shiftIn]
    split
    · rw [weight_xor, hpoly]
    · rw [add_zero]
  rw [hadded, hshift, indicator_xor, add_assoc, CharTwo.add_cancel_left]

private theorem weight_feed (hpoly : weight poly = 1) (state : BitVec w) (bits : List Bool) :
    weight (feed poly state bits) = weight state + bitWeight bits := by
  induction bits generalizing state with
  | nil => simp [bitWeight]
  | cons bit bits ih =>
    rw [feed_cons, ih, weight_shiftIn hpoly, add_assoc]
    rfl

private theorem distance_eq (hlength : bits.length = bits'.length) :
    (distance bits bits' : ZMod 2) = bitWeight bits + bitWeight bits' := by
  induction bits generalizing bits' with
  | nil =>
    obtain rfl : bits' = [] := List.length_eq_zero_iff.mp hlength.symm
    rfl
  | cons bit bits ih =>
    cases bits' with
    | nil => cases hlength
    | cons bit' bits' =>
      have hrest := ih (Nat.succ.inj hlength)
      have hfirst : (distance (bit :: bits) (bit' :: bits') : ZMod 2) =
          distance bits bits' + if bit ^^ bit' then 1 else 0 := by
        rw [distance, List.zipWith_cons_cons, List.count_cons, Nat.cast_add]
        cases bit ^^ bit' <;> rfl
      rw [hfirst, hrest, indicator_xor, bitWeight, bitWeight, bitWeight, bitWeight, List.map_cons,
        List.map_cons, List.sum_cons, List.sum_cons]
      ring

/-- Inputs that differ in an odd number of bits lead to different states. -/
theorem feed_ne_of_odd (hpoly : weight poly = 1) (hlength : bits.length = bits'.length)
    (hodd : Odd (distance bits bits')) (state : BitVec w) :
    feed poly state bits ≠ feed poly state bits' := by
  intro h
  have hweight := congrArg weight h
  rw [weight_feed hpoly, weight_feed hpoly, add_right_inj] at hweight
  have hzero : (distance bits bits' : ZMod 2) = 0 := by
    rw [distance_eq hlength, hweight, CharTwo.add_self_eq_zero]
  exact ZMod.natCast_ne_zero_iff_odd.mpr hodd hzero

end Parity

end Library
