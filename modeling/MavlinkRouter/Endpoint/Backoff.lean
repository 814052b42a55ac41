import MavlinkRouter.Library.Fallible
import MavlinkRouter.Library.Machine
import MavlinkRouter.Router.Basic

/-!
# Backoff

The delays between attempts to bind or to connect: the base delay doubles with every attempt up to
a maximum, and each delay is spread by up to a fifth of its base. The arithmetic of a delay is
checked, and for delays of up to 2^62 milliseconds it never panics.
-/

namespace MavlinkRouter

open Library (ArithmeticPanic checkUnsigned checkSigned checkedRem castSigned castUnsigned
  bind_eq_ok foldlM_snoc_eq_ok)

/-- `Duration::as_millis`. -/
def durationAsMillis (duration : Duration) : ℕ :=
  duration / 1000000

/-- `Duration::saturating_mul`; the seconds of a duration are a `u64`. -/
def durationSaturatingMul (duration : Duration) (factor : ℕ) : Duration :=
  min (duration * factor) (2 ^ 64 * 1000000000 - 1)

/-- The generator that spreads the delays. -/
structure Xorshift where
  state : UInt64
  deriving DecidableEq, Repr

namespace Xorshift

/-- The seed is the time since the epoch, in nanoseconds, unless the clock is before it. -/
def seededFromClock (sinceEpoch : Option ℕ) : Xorshift :=
  let nanos := (sinceEpoch.map UInt64.ofNat).getD 0xDEADBEEFCAFEBABE
  ⟨nanos ||| 1⟩

def next (rng : Xorshift) : UInt64 × Xorshift :=
  let state := rng.state
  let state := state ^^^ (state <<< 13)
  let state := state ^^^ (state >>> 7)
  let state := state ^^^ (state <<< 17)
  (state, ⟨state⟩)

end Xorshift

structure Backoff where
  initial : Duration
  max : Duration
  current : Duration
  rng : Xorshift
  deriving DecidableEq, Repr

namespace Backoff

/-- A backoff with a given generator; an initial delay of 0 is raised to 1. -/
def seeded (initialMs maxMs : UInt64) (rng : Xorshift) : Backoff :=
  let initialMs := Max.max initialMs 1
  let maxMs := Max.max maxMs initialMs
  { initial := durationFromMillis initialMs
    max := durationFromMillis maxMs
    current := durationFromMillis initialMs
    rng := rng }

def new (initialMs maxMs : UInt64) (sinceEpoch : Option ℕ) : Backoff :=
  seeded initialMs maxMs (.seededFromClock sinceEpoch)

def reset (backoff : Backoff) : Backoff :=
  { backoff with current := backoff.initial }

/-- The base of the delays after this one. -/
def advance (backoff : Backoff) : Backoff :=
  { backoff with
    current := min (durationSaturatingMul backoff.current 2) backoff.max
    rng := backoff.rng.next.2 }

/-- The delay before the next attempt. -/
def nextDelay (backoff : Backoff) : Except ArithmeticPanic (Duration × Backoff) := do
  let baseMs := durationAsMillis backoff.current % 2 ^ 64
  let jitterRange := baseMs / 5
  let double ← checkUnsigned 64 (jitterRange * 2)
  let span ← checkUnsigned 64 (double + 1)
  let spread ← checkedRem backoff.rng.next.1.toNat span
  let jitter ← checkSigned 64 (castSigned 64 spread - castSigned 64 jitterRange)
  let jittered ← checkSigned 64 (castSigned 64 baseMs + jitter)
  let jitteredMs := castUnsigned 64 (Max.max jittered 1)
  return (durationFromMillis (.ofNat jitteredMs), backoff.advance)

section Band

/-- A delay is a whole number of milliseconds that differs from a base by at most a fifth of it. -/
def WithinFifth (base : ℕ) (delay : Duration) : Prop :=
  ∃ millis : ℕ, delay = millis * 1000000 ∧ 1 ≤ millis ∧ base ≤ millis + base / 5 ∧
    millis ≤ base + base / 5

variable {backoff : Backoff} {base : ℕ}

/-- What a delay is. -/
theorem nextDelay_eq_ok (hcurrent : backoff.current = base * 1000000) (hpos : 1 ≤ base)
    (hbase : base ≤ 2 ^ 62) :
    ∃ delay, backoff.nextDelay = .ok (delay, backoff.advance) ∧ WithinFifth base delay := by
  obtain ⟨spread, hspread⟩ : ∃ spread, spread = backoff.rng.next.1.toNat % (base / 5 * 2 + 1) :=
    ⟨_, rfl⟩
  have hlt : spread < base / 5 * 2 + 1 := hspread ▸ Nat.mod_lt _ (by omega)
  have hmillis : durationAsMillis backoff.current % 2 ^ 64 = base := by
    rw [durationAsMillis, hcurrent, Nat.mul_div_cancel _ (by decide)]
    exact Nat.mod_eq_of_lt (by omega)
  -- The sum is positive, so taking the maximum with 1 changes nothing.
  obtain ⟨millis, hsum⟩ : ∃ millis : ℕ, (base : ℤ) + (spread - (base / 5 : ℕ)) = millis :=
    Int.eq_ofNat_of_zero_le (by omega)
  refine ⟨millis * 1000000, ?_, millis, rfl, by omega, by omega, by omega⟩
  have hmax : Max.max (millis : ℤ) 1 = millis := max_eq_left (by omega)
  have hfits : millis < UInt64.size := by
    change millis < 2 ^ 64
    omega
  have hdelay : durationFromMillis (.ofNat millis) = millis * 1000000 := by
    rw [durationFromMillis, UInt64.toNat_ofNat_of_lt' hfits]
  unfold nextDelay
  rw [hmillis]
  refine bind_eq_ok.mpr ⟨_, Library.checkUnsigned_of_lt (by omega), ?_⟩
  refine bind_eq_ok.mpr ⟨_, Library.checkUnsigned_of_lt (by omega), ?_⟩
  refine bind_eq_ok.mpr ⟨_, Library.checkedRem_of_pos (by omega), ?_⟩
  rw [← hspread, Library.castSigned_of_lt (by omega), Library.castSigned_of_lt (by omega),
    Library.castSigned_of_lt (by omega)]
  refine bind_eq_ok.mpr ⟨_, Library.checkSigned_of_mem (by omega) (by omega), ?_⟩
  refine bind_eq_ok.mpr ⟨_, Library.checkSigned_of_mem (by omega) (by omega), ?_⟩
  rw [hsum, hmax, Library.castUnsigned_natCast hfits, ← hdelay]
  rfl

end Band

/-- A backoff after a number of delays, for an initial delay and a maximum in milliseconds. -/
structure OnCurve (initialMs maxMs steps : ℕ) (backoff : Backoff) : Prop where
  initial : backoff.initial = initialMs * 1000000
  max : backoff.max = maxMs * 1000000
  current : backoff.current = min (initialMs * 2 ^ steps) maxMs * 1000000

section Curve

variable {backoff : Backoff} {initialMs maxMs steps : ℕ}

/-- Twice the maximum is far below the longest duration. -/
theorem min_saturated {base : ℕ} (hmax : maxMs ≤ 2 ^ 62) :
    min (min (min base maxMs * 1000000 * 2) (2 ^ 64 * 1000000000 - 1)) (maxMs * 1000000) =
      min (base * 2) maxMs * 1000000 := by
  omega

private theorem OnCurve.advance (h : OnCurve initialMs maxMs steps backoff)
    (hmax : maxMs ≤ 2 ^ 62) : OnCurve initialMs maxMs (steps + 1) backoff.advance := by
  refine ⟨h.initial, h.max, ?_⟩
  change min (durationSaturatingMul backoff.current 2) backoff.max = _
  rw [durationSaturatingMul, h.current, h.max, pow_succ 2 steps, ← Nat.mul_assoc]
  exact min_saturated hmax

private theorem OnCurve.reset (h : OnCurve initialMs maxMs steps backoff)
    (hle : initialMs ≤ maxMs) : OnCurve initialMs maxMs 0 backoff.reset := by
  refine ⟨h.initial, h.max, ?_⟩
  change backoff.initial = _
  rw [h.initial, pow_zero, Nat.mul_one, min_eq_left hle]

/-- A delay, and the backoff after it. -/
theorem OnCurve.nextDelay (h : OnCurve initialMs maxMs steps backoff) (hpos : 1 ≤ initialMs)
    (hle : initialMs ≤ maxMs) (hmax : maxMs ≤ 2 ^ 62) :
    ∃ delay next, backoff.nextDelay = .ok (delay, next) ∧
      WithinFifth (min (initialMs * 2 ^ steps) maxMs) delay ∧
      OnCurve initialMs maxMs (steps + 1) next := by
  have hbase : 1 ≤ min (initialMs * 2 ^ steps) maxMs :=
    le_min (Nat.mul_pos hpos (Nat.two_pow_pos steps)) (hpos.trans hle)
  obtain ⟨delay, hdelay, hband⟩ :=
    nextDelay_eq_ok h.current hbase ((min_le_right _ _).trans hmax)
  exact ⟨delay, backoff.advance, hdelay, hband, h.advance hmax⟩

end Curve

private theorem toNat_max (a b : UInt64) : (Max.max a b).toNat = Max.max a.toNat b.toNat := by
  change (if a ≤ b then b else a).toNat = if a.toNat ≤ b.toNat then b.toNat else a.toNat
  rw [apply_ite UInt64.toNat]
  rfl

private theorem onCurve_seeded (initialMs maxMs : UInt64) (rng : Xorshift) :
    OnCurve (Max.max initialMs.toNat 1) (Max.max maxMs.toNat (Max.max initialMs.toNat 1)) 0
      (seeded initialMs maxMs rng) := by
  have hinitial : durationFromMillis (Max.max initialMs 1) =
      Max.max initialMs.toNat 1 * 1000000 := by
    rw [durationFromMillis, toNat_max]
    rfl
  refine ⟨hinitial, ?_, ?_⟩
  · change durationFromMillis (Max.max maxMs (Max.max initialMs 1)) = _
    rw [durationFromMillis, toNat_max, toNat_max]
    rfl
  · rw [pow_zero, Nat.mul_one, min_eq_left (le_max_right _ _)]
    exact hinitial

/-- The calls that a backoff gets. -/
inductive Call where
  | nextDelay
  | reset
  deriving DecidableEq, Repr

/-- A call, whose delay is not looked at. -/
def perform (backoff : Backoff) : Call → Except ArithmeticPanic Backoff
  | .nextDelay => do return (← backoff.nextDelay).2
  | .reset => return backoff.reset

/-- A sequence of calls. -/
def run (backoff : Backoff) (calls : List Call) : Except ArithmeticPanic Backoff :=
  calls.foldlM perform backoff

/-- The number of delays since the last reset. -/
def delaysSinceReset (calls : List Call) : ℕ :=
  (calls.rtakeWhile (· != .reset)).length

private theorem delaysSinceReset_nextDelay (calls : List Call) :
    delaysSinceReset (calls ++ [.nextDelay]) = delaysSinceReset calls + 1 := by
  rw [delaysSinceReset, List.rtakeWhile_concat, if_pos (by decide), List.length_append]
  rfl

private theorem delaysSinceReset_reset (calls : List Call) :
    delaysSinceReset (calls ++ [.reset]) = 0 := by
  rw [delaysSinceReset, List.rtakeWhile_concat, if_neg (by decide)]
  rfl

/-- The delays stay on the curve through every sequence of calls. -/
private theorem OnCurve.run {backoff : Backoff} {initialMs maxMs : ℕ}
    (h : OnCurve initialMs maxMs 0 backoff) (hpos : 1 ≤ initialMs) (hle : initialMs ≤ maxMs)
    (hmax : maxMs ≤ 2 ^ 62) (calls : List Call) :
    ∃ reached, backoff.run calls = .ok reached ∧
      OnCurve initialMs maxMs (delaysSinceReset calls) reached := by
  induction calls using List.reverseRecOn with
  | nil => exact ⟨backoff, rfl, h⟩
  | append_singleton calls call ih =>
    obtain ⟨reached, hreached, hcurve⟩ := ih
    cases call with
    | nextDelay =>
      obtain ⟨delay, next, hdelay, -, hnext⟩ := hcurve.nextDelay hpos hle hmax
      refine ⟨next, foldlM_snoc_eq_ok.mpr ⟨reached, hreached, ?_⟩, ?_⟩
      · exact bind_eq_ok.mpr ⟨_, hdelay, rfl⟩
      · rw [delaysSinceReset_nextDelay]
        exact hnext
    | reset =>
      refine ⟨reached.reset, foldlM_snoc_eq_ok.mpr ⟨reached, hreached, rfl⟩, ?_⟩
      rw [delaysSinceReset_reset]
      exact hcurve.reset hle

/-- After any sequence of calls the next delay differs from its base by at most a fifth, and the
base is the initial delay doubled as often as there have been delays since the last reset, up to
the maximum. No arithmetic panics. -/
theorem backoff_curve {initialMs maxMs : UInt64} (hinitial : initialMs.toNat ≤ 2 ^ 62)
    (hmax : maxMs.toNat ≤ 2 ^ 62) (rng : Xorshift) (calls : List Call) :
    let first := Max.max initialMs.toNat 1
    let limit := Max.max maxMs.toNat first
    ∃ reached delay next, (seeded initialMs maxMs rng).run calls = .ok reached ∧
      reached.nextDelay = .ok (delay, next) ∧
      WithinFifth (min (first * 2 ^ delaysSinceReset calls) limit) delay := by
  intro first limit
  have hpos : 1 ≤ first := le_max_right _ _
  have hle : first ≤ limit := le_max_right _ _
  have hlimit : limit ≤ 2 ^ 62 := max_le hmax (max_le hinitial (by decide))
  obtain ⟨reached, hreached, hcurve⟩ :=
    (onCurve_seeded initialMs maxMs rng).run hpos hle hlimit calls
  obtain ⟨delay, next, hdelay, hband, -⟩ := hcurve.nextDelay hpos hle hlimit
  exact ⟨reached, delay, next, hreached, hdelay, hband⟩

/-- The second delay after a reset. -/
theorem backoff_curve_second :
    ∃ reached delay next,
      (new 1000 30000 none).run [.nextDelay, .nextDelay, .reset, .nextDelay] = .ok reached ∧
        reached.nextDelay = .ok (delay, next) ∧ WithinFifth 2000 delay :=
  backoff_curve (show UInt64.toNat 1000 ≤ 2 ^ 62 by decide)
    (show UInt64.toNat 30000 ≤ 2 ^ 62 by decide) (.seededFromClock none)
    [.nextDelay, .nextDelay, .reset, .nextDelay]

end Backoff

/-- What an attempt of `bind_with_backoff` finds: the token has been cancelled before it, it
succeeds, or it fails and the token is or is not cancelled while the delay lasts. -/
inductive BindAttempt (τ : Type) where
  | cancelled
  | bound (resource : τ)
  | failed (cancelled : Bool)

inductive BindOutcome (τ : Type) where
  | bound (resource : τ)
  | cancelled

/-- The loop over the attempts, which returns the delays as well; without an outcome it goes on. -/
def bindWithBackoff {τ : Type} (backoff : Backoff) : List (BindAttempt τ) →
    Except ArithmeticPanic (Option (BindOutcome τ) × List Duration × Backoff)
  | [] => return (none, [], backoff)
  | .cancelled :: _ => return (some .cancelled, [], backoff)
  | .bound resource :: _ => return (some (.bound resource), [], backoff.reset)
  | .failed cancelled :: attempts => do
    let (delay, next) ← backoff.nextDelay
    if cancelled then return (some .cancelled, [delay], next)
    else
      let (outcome, delays, reached) ← bindWithBackoff next attempts
      return (outcome, delay :: delays, reached)

/-- The delays of the loop follow the curve, from where the backoff stands on. -/
theorem Backoff.OnCurve.bindWithBackoff {τ : Type} {backoff : Backoff} {initialMs maxMs steps : ℕ}
    (h : OnCurve initialMs maxMs steps backoff) (hpos : 1 ≤ initialMs) (hle : initialMs ≤ maxMs)
    (hmax : maxMs ≤ 2 ^ 62) (attempts : List (BindAttempt τ)) :
    ∃ outcome delays reached,
      MavlinkRouter.bindWithBackoff backoff attempts = .ok (outcome, delays, reached) ∧
      ∀ k delay, delays[k]? = some delay →
        WithinFifth (min (initialMs * 2 ^ (steps + k)) maxMs) delay := by
  induction attempts generalizing backoff steps with
  | nil => exact ⟨_, _, _, rfl, by simp⟩
  | cons attempt attempts ih =>
    cases attempt with
    | cancelled => exact ⟨_, _, _, rfl, by simp⟩
    | bound resource => exact ⟨_, _, _, rfl, by simp⟩
    | failed cancelled =>
      obtain ⟨delay, next, hdelay, hband, hnext⟩ := h.nextDelay hpos hle hmax
      cases cancelled with
      | true =>
        refine ⟨_, _, _, bind_eq_ok.mpr ⟨_, hdelay, rfl⟩, ?_⟩
        intro k found hfound
        cases k with
        | zero =>
          cases hfound
          exact hband
        | succ k => cases hfound
      | false =>
        obtain ⟨outcome, delays, reached, hrest, hbands⟩ := ih hnext
        refine ⟨_, _, _, bind_eq_ok.mpr ⟨_, hdelay, bind_eq_ok.mpr ⟨_, hrest, rfl⟩⟩, ?_⟩
        intro k found hfound
        cases k with
        | zero =>
          cases hfound
          exact hband
        | succ k =>
          rw [Nat.add_succ, ← Nat.succ_add]
          exact hbands k found hfound

/-- The delay after the failed attempt `k` of a new backoff. -/
theorem delays_of_bindWithBackoff {τ : Type} {initialMs maxMs : UInt64}
    (hinitial : initialMs.toNat ≤ 2 ^ 62) (hmax : maxMs.toNat ≤ 2 ^ 62) (rng : Xorshift)
    (attempts : List (BindAttempt τ)) :
    ∃ outcome delays reached,
      bindWithBackoff (.seeded initialMs maxMs rng) attempts = .ok (outcome, delays, reached) ∧
      ∀ k delay, delays[k]? = some delay →
        Backoff.WithinFifth (min (max initialMs.toNat 1 * 2 ^ k)
          (max maxMs.toNat (max initialMs.toNat 1))) delay := by
  have hlimit : max maxMs.toNat (max initialMs.toNat 1) ≤ 2 ^ 62 :=
    max_le hmax (max_le hinitial (by decide))
  obtain ⟨outcome, delays, reached, hloop, hbands⟩ :=
    (Backoff.onCurve_seeded initialMs maxMs rng).bindWithBackoff (le_max_right _ _)
      (le_max_right _ _) hlimit attempts
  refine ⟨outcome, delays, reached, hloop, fun k delay hdelay => ?_⟩
  have hband := hbands k delay hdelay
  rwa [Nat.zero_add] at hband

end MavlinkRouter
