import MavlinkRouter.Library.Window
import MavlinkRouter.Router.Basic

/-!
# The dedup window over a sequence of frames

The ring and the hash set stay in step, and the ring is the window of the last
`capacity` inserted hashes that have not expired. A frame is therefore a duplicate
exactly when a frame with its hash was let through less than `ttl` ago and fewer than
`capacity` frames were let through in between.
-/

namespace MavlinkRouter

open Library

namespace DedupWindow

/-- The ring and the set hold the same hashes, each once, in the order they expire. -/
structure Consistent (window : DedupWindow) : Prop where
  set_eq : window.set = (window.ring.map DedupEntry.hash).toFinset
  nodup : (window.ring.map DedupEntry.hash).Nodup
  sorted : window.ring.Pairwise (DedupEntry.deadline · ≤ DedupEntry.deadline ·)
  length_le : window.ring.length ≤ window.capacity

private theorem consistent_new (ttl : Duration) (capacity : ℕ) : (new ttl capacity).Consistent where
  set_eq := rfl
  nodup := List.nodup_nil
  sorted := List.Pairwise.nil
  length_le := Nat.zero_le _

/-- Erasing the hash of the front entry leaves the hashes of the other entries. -/
theorem erase_front {front : DedupEntry} {ring : List DedupEntry}
    (hnodup : ((front :: ring).map DedupEntry.hash).Nodup) :
    ((front :: ring).map DedupEntry.hash).toFinset.erase front.hash =
      (ring.map DedupEntry.hash).toFinset := by
  rw [List.map_cons, List.nodup_cons] at hnodup
  rw [List.map_cons, List.toFinset_cons, Finset.erase_insert (by simpa using hnodup.1)]

@[simp] private theorem expireRing_fst (now : Instant) (ring : List DedupEntry)
    (set : Finset UInt64) :
    (expireRing now ring set).1 = ring.dropWhile (DedupEntry.deadline · ≤ now) := by
  fun_induction expireRing now ring set with
  | case1 set => rfl
  | case2 set front ring hlive => rw [List.dropWhile_cons_of_neg (by simpa using hlive)]
  | case3 set front ring hlive ih =>
    rw [List.dropWhile_cons_of_pos (by simpa using hlive), ih]

private theorem expireRing_snd {now : Instant} {ring : List DedupEntry} {set : Finset UInt64}
    (hset : set = (ring.map DedupEntry.hash).toFinset)
    (hnodup : (ring.map DedupEntry.hash).Nodup) :
    (expireRing now ring set).2 =
      ((expireRing now ring set).1.map DedupEntry.hash).toFinset := by
  fun_induction expireRing now ring set with
  | case1 set => exact hset
  | case2 set front ring hlive => exact hset
  | case3 set front ring hlive ih =>
    refine ih ?_ (List.nodup_cons.mp hnodup).2
    rw [hset, erase_front hnodup]

private theorem expireStale_ring (window : DedupWindow) (now : Instant) :
    (window.expireStale now).ring = window.ring.dropWhile (DedupEntry.deadline · ≤ now) :=
  expireRing_fst now window.ring window.set

@[simp] private theorem expireStale_capacity (window : DedupWindow) (now : Instant) :
    (window.expireStale now).capacity = window.capacity := rfl

@[simp] private theorem expireStale_ttl (window : DedupWindow) (now : Instant) :
    (window.expireStale now).ttl = window.ttl := rfl

private theorem expireStale_sublist (window : DedupWindow) (now : Instant) :
    (window.expireStale now).ring.Sublist window.ring := by
  rw [expireStale_ring]
  exact List.dropWhile_sublist _

private theorem evictOldest_ring (window : DedupWindow) :
    window.evictOldest.ring = window.ring.tail := by
  unfold evictOldest
  split
  next hring => rw [hring, List.tail_nil]
  next victim ring hring => rw [hring, List.tail_cons]

namespace Consistent

variable {window : DedupWindow}

private theorem expireStale (h : window.Consistent) (now : Instant) :
    (window.expireStale now).Consistent where
  set_eq := expireRing_snd h.set_eq h.nodup
  nodup := h.nodup.sublist ((expireStale_sublist window now).map _)
  sorted := h.sorted.sublist (expireStale_sublist window now)
  length_le := (expireStale_sublist window now).length_le.trans h.length_le

/-- Eviction keeps the ring and the set in step and frees a place in a ring that had one. -/
theorem evictOldest (h : window.Consistent) : window.evictOldest.Consistent := by
  cases hring : window.ring with
  | nil =>
    have heq : window.evictOldest = window := by rw [DedupWindow.evictOldest, hring]
    rw [heq]
    exact h
  | cons victim ring =>
    have heq : window.evictOldest =
        { window with ring := ring, set := window.set.erase victim.hash } := by
      rw [DedupWindow.evictOldest, hring]
    have hset := h.set_eq
    have hnodup := h.nodup
    have hsorted := h.sorted
    have hlength := h.length_le
    rw [hring] at hset hnodup hsorted hlength
    rw [heq]
    constructor
    · change window.set.erase victim.hash = _
      rw [hset, erase_front hnodup]
    · exact (List.nodup_cons.mp hnodup).2
    · exact (List.pairwise_cons.mp hsorted).2
    · exact (Nat.le_succ _).trans hlength

/-- A fresh hash with the latest deadline enters a ring that has room. -/
theorem pushBack (h : window.Consistent) (entry : DedupEntry) (hfresh : entry.hash ∉ window.set)
    (hlatest : ∀ earlier ∈ window.ring, earlier.deadline ≤ entry.deadline)
    (hroom : window.ring.length < window.capacity) :
    Consistent { window with
      ring := window.ring ++ [entry]
      set := insert entry.hash window.set } := by
  have hnotMem : entry.hash ∉ window.ring.map DedupEntry.hash := by
    rwa [h.set_eq, List.mem_toFinset] at hfresh
  constructor
  · rw [h.set_eq, List.map_append, List.toFinset_append, List.map_singleton,
      List.toFinset_cons, List.toFinset_nil, Finset.union_insert, Finset.union_empty]
  · rw [List.map_append, List.map_singleton]
    exact h.nodup.append (List.nodup_singleton _) (by simpa using hnotMem)
  · rw [List.pairwise_append]
    refine ⟨h.sorted, List.pairwise_singleton _ _, ?_⟩
    intro earlier hearlier latest hlast
    rw [List.mem_singleton] at hlast
    rw [hlast]
    exact hlatest earlier hearlier
  · rw [List.length_append, List.length_singleton]
    exact hroom

end Consistent

/-- The window after room is made for one more entry. -/
def roomFor (window : DedupWindow) : DedupWindow :=
  if window.capacity ≤ window.ring.length then window.evictOldest else window

private theorem roomFor_ring (window : DedupWindow) :
    window.roomFor.ring =
      if window.capacity ≤ window.ring.length then window.ring.tail else window.ring := by
  unfold roomFor
  split
  · rw [evictOldest_ring]
  · rfl

/-- The window after a hash that it does not hold has been let through. -/
def record (window : DedupWindow) (hash : UInt64) (now : Instant) : DedupWindow :=
  { window.roomFor with
    ring := window.roomFor.ring ++ [⟨hash, now + window.roomFor.ttl⟩]
    set := insert hash window.roomFor.set }

/-- An enabled window first expires; then it holds the hash or records it. -/
theorem checkAndInsert_cases (oneshot : List UInt8 → UInt64) {window : DedupWindow}
    (henabled : 0 < window.ttl) (frame : Bytes) (now : Instant) :
    (oneshot frame.data ∈ (window.expireStale now).set ∧
      window.checkAndInsert oneshot frame now = (true, window.expireStale now)) ∨
    (oneshot frame.data ∉ (window.expireStale now).set ∧
      window.checkAndInsert oneshot frame now =
        (false, (window.expireStale now).record (oneshot frame.data) now)) := by
  have hon : window.isEnabled = true := by simpa [isEnabled] using henabled.ne'
  by_cases hmem : oneshot frame.data ∈ (window.expireStale now).set
  · left
    exact ⟨hmem, by simp only [checkAndInsert, hon, hmem, if_true]⟩
  · right
    refine ⟨hmem, ?_⟩
    simp only [checkAndInsert, hon, hmem, if_true, if_false]
    rfl

private theorem roomFor_capacity (window : DedupWindow) :
    window.roomFor.capacity = window.capacity := by
  unfold roomFor evictOldest
  split
  · cases window.ring <;> rfl
  · rfl

private theorem roomFor_ttl (window : DedupWindow) : window.roomFor.ttl = window.ttl := by
  unfold roomFor evictOldest
  split
  · cases window.ring <;> rfl
  · rfl

private theorem Consistent.roomFor {window : DedupWindow} (h : window.Consistent) :
    window.roomFor.Consistent := by
  unfold DedupWindow.roomFor
  split
  · exact h.evictOldest
  · exact h

private theorem roomFor_set_subset {window : DedupWindow} : window.roomFor.set ⊆ window.set := by
  unfold roomFor evictOldest
  split
  · cases window.ring with
    | nil => exact Finset.Subset.refl _
    | cons victim ring => exact Finset.erase_subset _ _
  · exact Finset.Subset.refl _

/-- The ring after a hash has been recorded. -/
theorem record_ring (window : DedupWindow) (hash : UInt64) (now : Instant) :
    (window.record hash now).ring =
      (if window.capacity ≤ window.ring.length then window.ring.tail else window.ring) ++
        [⟨hash, now + window.ttl⟩] := by
  rw [← roomFor_ring, ← roomFor_ttl]
  rfl

/-- Recording a fresh hash with the latest deadline keeps the window consistent. -/
theorem Consistent.record {window : DedupWindow} {hash : UInt64} {now : Instant}
    (h : window.Consistent) (hcapacity : 0 < window.capacity) (hfresh : hash ∉ window.set)
    (hlatest : ∀ earlier ∈ window.ring, earlier.deadline ≤ now + window.ttl) :
    (window.record hash now).Consistent := by
  have hring := window.roomFor_ring
  have hsublist : window.roomFor.ring.Sublist window.ring := by
    rw [hring]
    split
    · exact List.tail_sublist _
    · exact List.Sublist.refl _
  refine h.roomFor.pushBack ⟨hash, now + window.roomFor.ttl⟩
    (fun hmem => hfresh (roomFor_set_subset hmem)) ?_ ?_
  · intro earlier hearlier
    rw [roomFor_ttl]
    exact hlatest earlier (hsublist.subset hearlier)
  · rw [hring, roomFor_capacity]
    split
    · have hlength := h.length_le
      rw [List.length_tail]
      omega
    · omega

end DedupWindow

/-- One call of `check_and_insert`: its arguments and its answer. -/
structure Checked where
  frame : Bytes
  now : Instant
  duplicate : Bool

namespace Checked

/-- The entry that a call adds to the window when it lets its frame through. -/
def entry (oneshot : List UInt8 → UInt64) (ttl : Duration) (call : Checked) : DedupEntry :=
  ⟨oneshot call.frame.data, call.now + ttl⟩

end Checked

/-- A window and the calls made on it so far. -/
structure DedupRun where
  window : DedupWindow
  calls : List Checked

namespace DedupRun

/-- One more call. -/
def check (oneshot : List UInt8 → UInt64) (run : DedupRun) (call : Bytes × Instant) :
    DedupRun where
  window := (run.window.checkAndInsert oneshot call.1 call.2).2
  calls := run.calls ++
    [⟨call.1, call.2, (run.window.checkAndInsert oneshot call.1 call.2).1⟩]

/-- A new window after a sequence of calls. -/
def checkAll (oneshot : List UInt8 → UInt64) (ttl : Duration) (capacity : ℕ)
    (calls : List (Bytes × Instant)) : DedupRun :=
  calls.foldl (check oneshot) ⟨DedupWindow.new ttl capacity, []⟩

variable {oneshot : List UInt8 → UInt64} {ttl : Duration} {capacity : ℕ}

/-- The window after one more call. -/
@[simp] theorem checkAll_snoc (calls : List (Bytes × Instant)) (call : Bytes × Instant) :
    checkAll oneshot ttl capacity (calls ++ [call]) =
      (checkAll oneshot ttl capacity calls).check oneshot call := by
  rw [checkAll, List.foldl_append]
  rfl

/-- The entries of the calls that let their frame through, the oldest first. -/
def recorded (oneshot : List UInt8 → UInt64) (ttl : Duration) (calls : List Checked) :
    List DedupEntry :=
  (calls.filter (!·.duplicate)).map (Checked.entry oneshot ttl)

private theorem recorded_snoc (calls : List Checked) (call : Checked) :
    recorded oneshot ttl (calls ++ [call]) =
      recorded oneshot ttl calls ++
        if call.duplicate then [] else [call.entry oneshot ttl] := by
  rw [recorded, List.filter_append, List.map_append]
  cases hduplicate : call.duplicate <;> simp [recorded, hduplicate]

/-- What holds between a window, with the calls made on it, at a time none of them is after. -/
structure Tracks (oneshot : List UInt8 → UInt64) (ttl : Duration) (capacity : ℕ)
    (now : Instant) (run : DedupRun) : Prop where
  ttl_eq : run.window.ttl = ttl
  capacity_eq : run.window.capacity = max capacity 1
  consistent : run.window.Consistent
  sorted : (recorded oneshot ttl run.calls).Pairwise (DedupEntry.deadline · ≤ DedupEntry.deadline ·)
  latest : ∀ entry ∈ recorded oneshot ttl run.calls, entry.deadline ≤ now + ttl
  live : (run.window.expireStale now).ring =
    liveWindow DedupEntry.deadline (max capacity 1) now (recorded oneshot ttl run.calls)

private theorem tracks_start (now : Instant) :
    Tracks oneshot ttl capacity now ⟨DedupWindow.new ttl capacity, []⟩ where
  ttl_eq := rfl
  capacity_eq := rfl
  consistent := DedupWindow.consistent_new ttl capacity
  sorted := List.Pairwise.nil
  latest := by simp [recorded]
  live := by simp [DedupWindow.expireStale_ring, DedupWindow.new, liveWindow, recorded]

/-- What makes a call after the given ones find a duplicate: a frame with its hash was
let through, has not expired, and fewer than `capacity` frames were let through since. -/
def HeldBy (oneshot : List UInt8 → UInt64) (ttl : Duration) (capacity : ℕ)
    (before : List Checked) (hash : UInt64) (now : Instant) : Prop :=
  ∃ older earlier between, before = older ++ earlier :: between ∧
    earlier.duplicate = false ∧ oneshot earlier.frame.data = hash ∧
    now < earlier.now + ttl ∧ between.countP (!·.duplicate) < capacity

/-- What the window holds, in terms of the calls so far. -/
theorem Tracks.mem_expireStale_iff {run : DedupRun} {now : Instant} {hash : UInt64}
    (h : Tracks oneshot ttl capacity now run) :
    hash ∈ (run.window.expireStale now).set ↔
      HeldBy oneshot ttl (max capacity 1) run.calls hash now := by
  rw [HeldBy, (h.consistent.expireStale now).set_eq, List.mem_toFinset, h.live, List.mem_map]
  constructor
  · rintro ⟨entry, hentry, rfl⟩
    obtain ⟨before, after, hsplit, hafter, hlive⟩ := mem_liveWindow.mp hentry
    obtain ⟨front, back, hfilter, -, hback⟩ := List.map_eq_append_iff.mp hsplit
    obtain ⟨earlier, rest, rfl, rfl, hrest⟩ := List.map_eq_cons_iff.mp hback
    obtain ⟨older, tail, hcalls, -, htail⟩ := List.filter_eq_append_iff.mp hfilter
    obtain ⟨skipped, between, rfl, hskipped, hearlier, hbetween⟩ :=
      List.filter_eq_cons_iff.mp htail
    refine ⟨older ++ skipped, earlier, between, ?_, by simpa using hearlier, rfl, hlive, ?_⟩
    · rw [hcalls, List.append_assoc]
    · rw [← hrest, List.length_map] at hafter
      rw [List.countP_eq_length_filter, hbetween]
      exact hafter
  · rintro ⟨older, earlier, between, hcalls, hmiss, rfl, hlive, hcount⟩
    refine ⟨earlier.entry oneshot ttl, mem_liveWindow.mpr ?_, rfl⟩
    refine ⟨recorded oneshot ttl older, recorded oneshot ttl between, ?_, ?_, hlive⟩
    · rw [recorded, hcalls, List.filter_append, List.filter_cons_of_pos (by simpa using hmiss),
        List.map_append, List.map_cons]
      rfl
    · rw [recorded, List.length_map, ← List.countP_eq_length_filter]
      exact hcount

/-- Later, the window differs only by what has expired. -/
theorem live_of_liveWindow {window : DedupWindow} {n : ℕ} {last now : Instant}
    {entries : List DedupEntry}
    (hsorted : entries.Pairwise (DedupEntry.deadline · ≤ DedupEntry.deadline ·))
    (hring : window.ring = liveWindow DedupEntry.deadline n last entries) (hlast : last ≤ now) :
    (window.expireStale now).ring = liveWindow DedupEntry.deadline n now entries := by
  rw [DedupWindow.expireStale_ring, hring,
    dropWhile_eq_filter_live (hsorted.sublist (liveWindow_sublist _ _ _ _)),
    filter_liveWindow _ hlast]

private theorem Tracks.latest_later {run : DedupRun} {last now : Instant}
    (h : Tracks oneshot ttl capacity last run) (hnow : last ≤ now) :
    ∀ entry ∈ recorded oneshot ttl run.calls, entry.deadline ≤ now + ttl := fun entry hentry =>
  (h.latest entry hentry).trans (Nat.add_le_add_right hnow ttl)

/-- A duplicate changes the window only by what has expired. -/
theorem Tracks.suppress {run after : DedupRun} {last now : Instant}
    (h : Tracks oneshot ttl capacity last run) (hnow : last ≤ now)
    (hcalls : recorded oneshot ttl after.calls = recorded oneshot ttl run.calls)
    (hwindow : after.window = run.window.expireStale last) :
    Tracks oneshot ttl capacity now after := by
  constructor
  · rw [hwindow, DedupWindow.expireStale_ttl, h.ttl_eq]
  · rw [hwindow, DedupWindow.expireStale_capacity, h.capacity_eq]
  · rw [hwindow]
    exact h.consistent.expireStale last
  · rw [hcalls]
    exact h.sorted
  · rw [hcalls]
    exact h.latest_later hnow
  · rw [hcalls, hwindow]
    exact live_of_liveWindow h.sorted h.live hnow

/-- A frame that is let through becomes the last one in the window. -/
theorem Tracks.record {run after : DedupRun} {last now : Instant} {hash : UInt64}
    (h : Tracks oneshot ttl capacity last run) (httl : 0 < ttl) (hnow : last ≤ now)
    (hfresh : hash ∉ (run.window.expireStale last).set)
    (hcalls : recorded oneshot ttl after.calls =
      recorded oneshot ttl run.calls ++ [⟨hash, last + ttl⟩])
    (hwindow : after.window = (run.window.expireStale last).record hash last) :
    Tracks oneshot ttl capacity now after := by
  have hsorted : (recorded oneshot ttl run.calls ++ [DedupEntry.mk hash (last + ttl)]).Pairwise
      (DedupEntry.deadline · ≤ DedupEntry.deadline ·) := by
    rw [List.pairwise_append]
    refine ⟨h.sorted, List.pairwise_singleton _ _, ?_⟩
    intro earlier hearlier latest hlatest
    rw [List.mem_singleton] at hlatest
    rw [hlatest]
    exact h.latest earlier hearlier
  have hroom : max capacity 1 = max capacity 1 - 1 + 1 := by omega
  constructor
  · rw [hwindow, DedupWindow.record, DedupWindow.roomFor_ttl, DedupWindow.expireStale_ttl,
      h.ttl_eq]
  · rw [hwindow, DedupWindow.record, DedupWindow.roomFor_capacity,
      DedupWindow.expireStale_capacity, h.capacity_eq]
  · rw [hwindow]
    refine (h.consistent.expireStale last).record ?_ hfresh ?_
    · rw [DedupWindow.expireStale_capacity, h.capacity_eq]
      omega
    · intro earlier hearlier
      rw [h.live] at hearlier
      rw [DedupWindow.expireStale_ttl, h.ttl_eq]
      exact h.latest earlier ((liveWindow_sublist _ _ _ _).subset hearlier)
  · rw [hcalls]
    exact hsorted
  · rw [hcalls]
    intro entry hentry
    rcases List.mem_append.mp hentry with hentry | hentry
    · exact h.latest_later hnow entry hentry
    · rw [List.mem_singleton] at hentry
      rw [hentry]
      exact Nat.add_le_add_right hnow ttl
  · rw [hcalls, hwindow]
    refine live_of_liveWindow hsorted ?_ hnow
    rw [DedupWindow.record_ring, DedupWindow.expireStale_capacity, DedupWindow.expireStale_ttl,
      h.ttl_eq, h.capacity_eq, h.live, hroom,
      liveWindow_snoc h.sorted (Nat.lt_add_of_pos_right httl)]

/-- A call keeps the correspondence, at its own time and at every later one. -/
theorem Tracks.check {run : DedupRun} {call : Bytes × Instant} {now : Instant}
    (h : Tracks oneshot ttl capacity call.2 run) (httl : 0 < ttl) (hnow : call.2 ≤ now) :
    Tracks oneshot ttl capacity now (run.check oneshot call) := by
  rcases DedupWindow.checkAndInsert_cases oneshot (h.ttl_eq.symm ▸ httl) call.1 call.2 with
    ⟨-, hcheck⟩ | ⟨hfresh, hcheck⟩
  · refine h.suppress hnow ?_ ?_
    · rw [DedupRun.check, hcheck, recorded_snoc, if_pos rfl, List.append_nil]
    · rw [DedupRun.check, hcheck]
  · refine h.record httl hnow hfresh ?_ ?_
    · rw [DedupRun.check, hcheck, recorded_snoc, if_neg (by simp)]
      rfl
    · rw [DedupRun.check, hcheck]

/-- The calls of a run are the ones it was given. -/
theorem calls_checkAll (calls : List (Bytes × Instant)) :
    (checkAll oneshot ttl capacity calls).calls.map (fun call => (call.frame, call.now)) =
      calls := by
  induction calls using List.reverseRecOn with
  | nil => rfl
  | append_singleton calls call ih =>
    rw [checkAll_snoc, DedupRun.check, List.map_append, ih]
    rfl

/-- A run at non-decreasing times is tracked, at every time not before its calls. -/
theorem tracks_checkAll (oneshot : List UInt8 → UInt64) (httl : 0 < ttl) (capacity : ℕ)
    {calls : List (Bytes × Instant)} (htimes : calls.Pairwise (·.2 ≤ ·.2)) {now : Instant}
    (hnow : ∀ call ∈ calls, call.2 ≤ now) :
    Tracks oneshot ttl capacity now (checkAll oneshot ttl capacity calls) := by
  induction calls using List.reverseRecOn generalizing now with
  | nil => exact tracks_start now
  | append_singleton calls call ih =>
    rw [List.pairwise_append] at htimes
    have hearlier : ∀ earlier ∈ calls, earlier.2 ≤ call.2 := fun earlier hmem =>
      htimes.2.2 earlier hmem call (List.mem_singleton_self call)
    rw [checkAll_snoc]
    exact (ih htimes.1 hearlier).check httl (hnow call (by simp))

/-- A call of a run was made on the window that the calls before it lead to. -/
theorem split_checkAll {calls : List (Bytes × Instant)} {before after : List Checked}
    {call : Checked}
    (hsplit : (checkAll oneshot ttl capacity calls).calls = before ++ call :: after) :
    ∃ done rest, calls = done ++ (call.frame, call.now) :: rest ∧
      (checkAll oneshot ttl capacity done).calls = before ∧
      call.duplicate = ((checkAll oneshot ttl capacity done).window.checkAndInsert oneshot
        call.frame call.now).1 := by
  induction calls using List.reverseRecOn generalizing after with
  | nil => simp [checkAll] at hsplit
  | append_singleton calls last ih =>
    rw [checkAll_snoc, DedupRun.check] at hsplit
    rcases List.eq_nil_or_concat after with rfl | ⟨newer, newest, rfl⟩
    · obtain ⟨hbefore, hcall⟩ := List.append_inj' hsplit rfl
      rw [List.singleton_inj] at hcall
      refine ⟨calls, [], ?_, hbefore, ?_⟩
      · rw [← hcall]
      · rw [← hcall]
    · rw [List.concat_eq_append, ← List.cons_append, ← List.append_assoc] at hsplit
      obtain ⟨hcalls, -⟩ := List.append_inj' hsplit rfl
      obtain ⟨done, rest, rfl, hdone, hduplicate⟩ := ih hcalls
      exact ⟨done, rest ++ [last], by simp, hdone, hduplicate⟩

/-- Whether a call finds its frame a duplicate, in terms of the calls before it. -/
theorem Tracks.duplicate_iff {run : DedupRun} {now : Instant}
    (h : Tracks oneshot ttl capacity now run) (httl : 0 < ttl) (frame : Bytes) :
    (run.window.checkAndInsert oneshot frame now).1 = true ↔
      HeldBy oneshot ttl (max capacity 1) run.calls (oneshot frame.data) now := by
  rw [← h.mem_expireStale_iff]
  rcases DedupWindow.checkAndInsert_cases oneshot (h.ttl_eq.symm ▸ httl) frame now with
    ⟨hmem, hcheck⟩ | ⟨hmem, hcheck⟩
  · simp only [hcheck, hmem]
  · simp only [hcheck, hmem, Bool.false_eq_true]

/-- At non-decreasing times, a call answers `true` exactly when its hash is held by the
calls before it, and after every call the ring and the set are consistent. -/
theorem checkAll_semantics (oneshot : List UInt8 → UInt64) (ttl : Duration) (httl : 0 < ttl)
    (capacity : ℕ) (calls : List (Bytes × Instant)) (htimes : calls.Pairwise (·.2 ≤ ·.2)) :
    (checkAll oneshot ttl capacity calls).calls.map (fun call => (call.frame, call.now)) = calls ∧
    (∀ before call after,
      (checkAll oneshot ttl capacity calls).calls = before ++ call :: after →
        (call.duplicate = true ↔
          HeldBy oneshot ttl (max capacity 1) before (oneshot call.frame.data) call.now)) ∧
    ∀ done rest, calls = done ++ rest →
      (checkAll oneshot ttl capacity done).window.capacity = max capacity 1 ∧
      (checkAll oneshot ttl capacity done).window.Consistent := by
  refine ⟨calls_checkAll calls, ?_, ?_⟩
  · intro before call after hsplit
    obtain ⟨done, rest, rfl, rfl, hduplicate⟩ := split_checkAll hsplit
    rw [List.pairwise_append, List.pairwise_cons] at htimes
    have hnow : ∀ earlier ∈ done, earlier.2 ≤ call.now := fun earlier hmem =>
      htimes.2.2 earlier hmem _ List.mem_cons_self
    rw [hduplicate]
    exact (tracks_checkAll oneshot httl capacity htimes.1 hnow).duplicate_iff httl call.frame
  · rintro done rest rfl
    rw [List.pairwise_append] at htimes
    -- Any time after the calls will do, since consistency does not depend on it.
    have hnow : ∀ call ∈ done, call.2 ≤ (done.map Prod.snd).sum := fun call hmem =>
      List.le_sum_of_mem (List.mem_map_of_mem hmem)
    have htracks := tracks_checkAll oneshot httl capacity htimes.1 hnow
    exact ⟨htracks.capacity_eq, htracks.consistent⟩

/-- A frame, its repeat, another frame and the first one again, a nanosecond apart. -/
def repeatedFrames : List (Bytes × Instant) :=
  [(⟨[1], ⟨0⟩, 0⟩, 0), (⟨[1], ⟨0⟩, 1⟩, 1), (⟨[2], ⟨0⟩, 2⟩, 2), (⟨[1], ⟨0⟩, 3⟩, 3)]

/-- A window of one entry holds the first repeat; the other frame evicts the entry. -/
theorem checkAll_semantics_repeatedFrames :
    (checkAll (fun data => data.sum.toUInt64) 10 1 repeatedFrames).calls.map Checked.duplicate =
      [false, true, false, false] ∧
    (checkAll (fun data => data.sum.toUInt64) 10 1 repeatedFrames).window.Consistent := by
  have hsemantics := checkAll_semantics (fun data => data.sum.toUInt64) 10 (by decide) 1
    repeatedFrames (by decide)
  exact ⟨by decide, (hsemantics.2.2 repeatedFrames [] (List.append_nil _).symm).2⟩

end DedupRun

end MavlinkRouter
