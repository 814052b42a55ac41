import MavlinkRouter.Library.Search

/-!
# The include walk

A dialect includes other dialects, and the build loads each file that it comes to this way once.
The walk is a depth-first search: a file that is still being loaded when it is included again
lies on a cycle of includes, while a file that has been loaded to the end is passed over. What a
finished file includes is finished, so a walk that ends well has come to every file and met no
cycle, and as every step down loads a file that was not loaded before, it ends if only finitely
many files can be reached.
-/

namespace MavlinkRouter.Build

open Library (Search)
open Relation (ReflTransGen TransGen)

/-- Why the walk gives up. -/
inductive WalkError (K : Type*) where
  | cycle (key : K)
  | loadFailed (key : K) (reason : String)
  deriving DecidableEq

/-- The files that a file includes, or why it could not be loaded. The loader may keep a state
between its calls. -/
abbrev Loader (K σ : Type*) := K → σ → Except String (List K) × σ

/-- The two sets of the walk, and the state of the loader. -/
structure Walk (K σ : Type*) extends Search K where
  loader : σ

section Code

variable {K σ : Type*}

/-- The files of a list are walked one after the other, up to the first error. -/
def walkEach (visit : K → Walk K σ → Option (Except (WalkError K) Unit × Walk K σ)) :
    List K → Walk K σ → Option (Except (WalkError K) Unit × Walk K σ)
  | [], walk => some (.ok (), walk)
  | inc :: includes, walk =>
    match visit inc walk with
    | some (.ok (), after) => walkEach visit includes after
    | stopped => stopped

variable [DecidableEq K]

/-- The walk below one file. It goes no deeper than the fuel allows, and there is no result if it
would. -/
def walkInner (load : Loader K σ) : ℕ → K → Walk K σ →
    Option (Except (WalkError K) Unit × Walk K σ)
  | 0, _, _ => none
  | fuel + 1, key, walk =>
    -- A file on the way down has been visited as well, so this is asked first.
    if key ∈ walk.inProgress then some (.error (.cycle key), walk)
    else if key ∈ walk.visited then some (.ok (), walk)
    else
      let loaded := load key walk.loader
      let entered := ⟨walk.enter key, loaded.2⟩
      match loaded.1 with
      | .error reason => some (.error (.loadFailed key reason), entered)
      | .ok includes =>
        match walkEach (walkInner load fuel) includes entered with
        | some (.ok (), after) => some (.ok (), ⟨after.leave key, after.loader⟩)
        | stopped => stopped

/-- The walk from a dialect, which leaves the loader in some state. -/
def walkIncludes (load : Loader K σ) (fuel : ℕ) (root : K) (loader : σ) :
    Option (Except (WalkError K) Unit × σ) :=
  (walkInner load fuel root ⟨Search.start, loader⟩).map (Prod.map id Walk.loader)

end Code

section Fuel

variable {K σ : Type*}

private theorem walkEach_mono
    {visit visit' : K → Walk K σ → Option (Except (WalkError K) Unit × Walk K σ)}
    (hvisit : ∀ {key walk outcome}, visit key walk = some outcome →
      visit' key walk = some outcome)
    {includes : List K} {walk : Walk K σ} {outcome : Except (WalkError K) Unit × Walk K σ}
    (h : walkEach visit includes walk = some outcome) :
    walkEach visit' includes walk = some outcome := by
  induction includes generalizing walk with
  | nil => exact h
  | cons inc includes ih =>
    rw [walkEach] at h ⊢
    rcases hinc : visit inc walk with _ | ⟨error | _, after⟩ <;> rw [hinc] at h
    · cases h
    · rw [hvisit hinc]
      exact h
    · rw [hvisit hinc]
      exact ih h

variable [DecidableEq K]

/-- A walk that has come to an end is not changed by more fuel. -/
theorem walkInner_succ {load : Loader K σ} {fuel : ℕ} {key : K} {walk : Walk K σ}
    {outcome : Except (WalkError K) Unit × Walk K σ}
    (h : walkInner load fuel key walk = some outcome) :
    walkInner load (fuel + 1) key walk = some outcome := by
  induction fuel generalizing key walk outcome with
  | zero => cases h
  | succ fuel ih =>
    rw [walkInner] at h ⊢
    split_ifs at h ⊢ with hprogress hvisited
    · exact h
    · exact h
    · dsimp only at h ⊢
      cases hload : (load key walk.loader).1 with
      | error reason =>
        rw [hload] at h
        exact h
      | ok includes =>
        rw [hload] at h
        dsimp only at h ⊢
        rcases heach : walkEach (walkInner load fuel) includes
            ⟨walk.enter key, (load key walk.loader).2⟩ with _ | inner
        · rw [heach] at h
          cases h
        · rw [heach] at h
          rw [walkEach_mono ih heach]
          exact h

private theorem walkInner_mono {load : Loader K σ} {fuel more : ℕ} (hle : fuel ≤ more) {key : K}
    {walk : Walk K σ} {outcome : Except (WalkError K) Unit × Walk K σ}
    (h : walkInner load fuel key walk = some outcome) :
    walkInner load more key walk = some outcome := by
  induction more, hle using Nat.le_induction with
  | base => exact h
  | succ more _ ih => exact walkInner_succ ih

end Fuel

section Calls

variable {K : Type*}

/-- A loader that answers from the file alone, and notes which files it was called on. -/
def recording (load : K → Except String (List K)) : Loader K (List K) :=
  fun key calls => (load key, calls ++ [key])

/-- The file can be loaded and includes the other one. -/
def Includes (load : K → Except String (List K)) (key inc : K) : Prop :=
  ∃ includes, load key = .ok includes ∧ inc ∈ includes

/-- Every file that can be reached can be loaded, and none lies on a cycle. -/
def Clean (load : K → Except String (List K)) (root : K) : Prop :=
  ∀ key, ReflTransGen (Includes load) root key →
    (∃ includes, load key = .ok includes) ∧ ¬ TransGen (Includes load) key key

end Calls

namespace Walk

variable {K : Type*} {load : K → Except String (List K)} {root : K}

/-- No file has been loaded twice, and only files that can be reached. -/
structure LoadedOnce (load : K → Except String (List K)) (root : K) (calls : List K) : Prop where
  nodup : calls.Nodup
  reached : ∀ key ∈ calls, ReflTransGen (Includes load) root key

/-- The walk is a sound search, the loader has been called on the files it has visited, and those
that are finished could be loaded. -/
structure Sound (load : K → Except String (List K)) (root : K) (walk : Walk K (List K)) : Prop
    extends Search.Sound (Includes load) root walk.toSearch where
  nodup : walk.loader.Nodup
  loaded : ∀ key, key ∈ walk.loader ↔ key ∈ walk.visited
  answered : ∀ key ∈ walk.finished, ∃ includes, load key = .ok includes

/-- The walk may go on to the files: each can be reached, and from each file on the way down. -/
structure Ready (load : K → Except String (List K)) (root : K) (walk : Walk K (List K))
    (keys : List K) : Prop where
  sound : Sound load root walk
  reached : ∀ key ∈ keys, ReflTransGen (Includes load) root key
  below : ∀ key ∈ keys, ∀ above ∈ walk.inProgress, TransGen (Includes load) above key

/-- How the walk over some files may end. -/
inductive Outcome (load : K → Except String (List K)) (root : K) (walk : Walk K (List K))
    (keys : List K) : Except (WalkError K) Unit → Walk K (List K) → Prop
  | ok {after : Walk K (List K)} (sound : Sound load root after)
      (progress : after.inProgress = walk.inProgress) (visited : walk.visited ⊆ after.visited)
      (finished : ∀ key ∈ keys, key ∈ after.finished) : Outcome load root walk keys (.ok ()) after
  | cycle {key : K} {after : Walk K (List K)} (once : LoadedOnce load root after.loader)
      (reached : ReflTransGen (Includes load) root key)
      (around : TransGen (Includes load) key key) :
      Outcome load root walk keys (.error (.cycle key)) after
  | loadFailed {key : K} {reason : String} {after : Walk K (List K)}
      (once : LoadedOnce load root after.loader) (called : key ∈ after.loader)
      (failed : load key = .error reason) :
      Outcome load root walk keys (.error (.loadFailed key reason)) after

variable {walk after : Walk K (List K)} {key : K} {keys : List K}
  {result : Except (WalkError K) Unit}

private theorem Sound.loadedOnce (h : Sound load root walk) :
    LoadedOnce load root walk.loader where
  nodup := h.nodup
  reached := fun key hkey => h.reached key ((h.loaded key).mp hkey)

private theorem sound_start : Sound load root ⟨Search.start, []⟩ where
  toSound := Search.sound_start
  nodup := List.nodup_nil
  loaded := fun _ => iff_of_false List.not_mem_nil (Finset.notMem_empty _)
  answered := fun _ h => absurd h.1 (Finset.notMem_empty _)

private theorem ready_start : Ready load root ⟨Search.start, []⟩ [root] where
  sound := sound_start
  reached := List.forall_mem_singleton.mpr .refl
  below := fun _ _ _ h => absurd h (Finset.notMem_empty _)

/-- However the walk ends, no file has been loaded twice. -/
theorem Outcome.loadedOnce (h : Outcome load root walk keys result after) :
    LoadedOnce load root after.loader := by
  cases h with
  | ok sound progress visited finished => exact sound.loadedOnce
  | cycle once reached around => exact once
  | loadFailed once called failed => exact once

/-- A walk from the root that ends well has loaded everything, and everything is clean. -/
theorem Outcome.complete (h : Outcome load root ⟨Search.start, []⟩ [root] (.ok ()) after) :
    (∀ key, key ∈ after.loader ↔ ReflTransGen (Includes load) root key) ∧ Clean load root := by
  cases h with
  | ok sound progress visited finished =>
    have hroot := finished root (List.mem_singleton_self root)
    obtain ⟨hvisited, hacyclic⟩ := sound.complete progress hroot.1
    constructor
    · intro key
      rw [sound.loaded, hvisited]
    · intro key hkey
      have hfinished := sound.closed.mem_of_reflTransGen hroot hkey
      exact ⟨sound.answered key hfinished, hacyclic key hkey⟩

private theorem Outcome.not_clean {error : WalkError K}
    (h : Outcome load root walk keys (.error error) after) : ¬ Clean load root := by
  intro hclean
  cases h with
  | cycle once reached around => exact (hclean _ reached).2 around
  | loadFailed once called failed =>
    obtain ⟨includes, hload⟩ := (hclean _ (once.reached _ called)).1
    rw [failed] at hload
    cases hload

/-- An error ends the walks above as well. -/
theorem Outcome.error {before : Walk K (List K)} {includes : List K} {error : WalkError K}
    (h : Outcome load root walk keys (.error error) after) :
    Outcome load root before includes (.error error) after := by
  cases h with
  | cycle once reached around => exact .cycle once reached around
  | loadFailed once called failed => exact .loadFailed once called failed

private theorem Outcome.visited_subset (h : Outcome load root walk keys (.ok ()) after) :
    walk.visited ⊆ after.visited := by
  cases h with
  | ok sound progress visited finished => exact visited

/-- What is finished stays so while the other files are walked. -/
theorem Outcome.cons {last : Walk K (List K)}
    (hhead : Outcome load root walk [key] (.ok ()) after)
    (htail : Outcome load root after keys result last) :
    Outcome load root walk (key :: keys) result last := by
  cases result with
  | error error => exact htail.error
  | ok =>
    cases hhead with
    | ok _ progress visited finished =>
      cases htail with
      | ok sound progress' visited' finished' =>
        refine .ok sound (progress'.trans progress) (visited.trans visited') ?_
        have hkey := finished key (List.mem_singleton_self key)
        refine List.forall_mem_cons.mpr ⟨⟨visited' hkey.1, ?_⟩, finished'⟩
        rw [progress']
        exact hkey.2

private theorem Ready.head (h : Ready load root walk (key :: keys)) :
    Ready load root walk [key] where
  sound := h.sound
  reached := List.forall_mem_singleton.mpr (h.reached key List.mem_cons_self)
  below := List.forall_mem_singleton.mpr (h.below key List.mem_cons_self)

private theorem Ready.tail (h : Ready load root walk (key :: keys))
    (hhead : Outcome load root walk [key] (.ok ()) after) : Ready load root after keys := by
  cases hhead with
  | ok sound progress visited finished =>
    refine ⟨sound, (List.forall_mem_cons.mp h.reached).2, ?_⟩
    rw [progress]
    exact (List.forall_mem_cons.mp h.below).2

variable [DecidableEq K]

private theorem Sound.enter (h : Sound load root walk) (hnew : key ∉ walk.visited)
    (hreached : ReflTransGen (Includes load) root key) :
    Sound load root ⟨walk.enter key, walk.loader ++ [key]⟩ where
  toSound := h.toSound.enter hnew hreached
  nodup := by
    refine List.nodup_append'.mpr ⟨h.nodup, List.nodup_singleton key, ?_⟩
    rw [List.disjoint_singleton, h.loaded]
    exact hnew
  loaded := by
    intro other
    rw [List.mem_append, List.mem_singleton, h.loaded, or_comm]
    exact Finset.mem_insert.symm
  answered := by
    rw [Search.finished_enter hnew]
    exact h.answered

private theorem Sound.leave (h : Sound load root walk) {includes : List K}
    (hkey : key ∈ walk.inProgress) (hload : load key = .ok includes)
    (hfinished : ∀ inc ∈ includes, inc ∈ walk.finished) :
    Sound load root ⟨walk.leave key, walk.loader⟩ where
  toSound := by
    refine h.toSound.leave hkey ?_
    rintro inc ⟨others, hothers, hinc⟩
    obtain rfl : includes = others := Except.ok.inj (hload.symm.trans hothers)
    exact hfinished inc hinc
  nodup := h.nodup
  loaded := h.loaded
  answered := by
    rw [Search.finished_leave (h.visited hkey)]
    rintro other (rfl | hother)
    · exact ⟨includes, hload⟩
    · exact h.answered other hother

/-- Below a new file its includes come next. -/
theorem Ready.enter {includes : List K} (h : Ready load root walk [key]) (hnew : key ∉ walk.visited)
    (hload : load key = .ok includes) :
    Ready load root ⟨walk.enter key, walk.loader ++ [key]⟩ includes := by
  have hreached := h.reached key (List.mem_singleton_self key)
  have hedge : ∀ inc ∈ includes, Includes load key inc := fun inc hinc => ⟨includes, hload, hinc⟩
  refine ⟨h.sound.enter hnew hreached, fun inc hinc => hreached.tail (hedge inc hinc), ?_⟩
  intro inc hinc above habove
  rcases Finset.mem_insert.mp habove with rfl | habove
  · exact .single (hedge inc hinc)
  · exact (h.below key (List.mem_singleton_self key) above habove).tail (hedge inc hinc)

/-- When all its includes have been walked, a file is finished. -/
theorem Outcome.leave {includes : List K} (hprogress : key ∉ walk.inProgress)
    (hload : load key = .ok includes)
    (h : Outcome load root ⟨walk.enter key, walk.loader ++ [key]⟩ includes (.ok ()) after) :
    Outcome load root walk [key] (.ok ()) ⟨after.leave key, after.loader⟩ := by
  cases h with
  | ok sound progress visited finished =>
    have hkey : key ∈ after.inProgress := by
      rw [progress]
      exact Finset.mem_insert_self key _
    refine .ok (sound.leave hkey hload finished) ?_
      ((Finset.subset_insert key _).trans visited) ?_
    · change after.inProgress.erase key = walk.inProgress
      rw [progress]
      exact Finset.erase_insert hprogress
    · rw [List.forall_mem_singleton]
      exact ⟨sound.visited hkey, Finset.notMem_erase key _⟩

end Walk

section Correct

open Walk

variable {K : Type*} [DecidableEq K] {load : K → Except String (List K)} {root : K}

/-- The walk over a list of files, if each file's walk ends. -/
private theorem walkEach_outcome {reach : Finset K} {fuel : ℕ}
    {visit : K → Walk K (List K) → Option (Except (WalkError K) Unit × Walk K (List K))}
    (hvisit : ∀ {key walk}, Ready load root walk [key] → walk.remaining reach < fuel →
      ∃ result after, visit key walk = some (result, after) ∧
        Outcome load root walk [key] result after)
    {includes : List K} {walk : Walk K (List K)} (hready : Ready load root walk includes)
    (hfuel : walk.remaining reach < fuel) :
    ∃ result after, walkEach visit includes walk = some (result, after) ∧
      Outcome load root walk includes result after := by
  induction includes generalizing walk with
  | nil =>
    exact ⟨_, walk, rfl, .ok hready.sound rfl (Finset.Subset.refl _) (List.forall_mem_nil _)⟩
  | cons inc includes ih =>
    obtain ⟨result, after, hinc, hhead⟩ := hvisit hready.head hfuel
    rw [walkEach, hinc]
    cases result with
    | error error => exact ⟨_, after, rfl, hhead.error⟩
    | ok =>
      have hless := (Search.remaining_mono reach hhead.visited_subset).trans_lt hfuel
      obtain ⟨result, last, hlast, htail⟩ := ih (hready.tail hhead) hless
      exact ⟨result, last, hlast, hhead.cons htail⟩

/-- With fuel for every file that has not been visited, the walk below a file comes to an end. -/
theorem walkInner_outcome {reach : Finset K}
    (hreach : ∀ key, ReflTransGen (Includes load) root key → key ∈ reach) {fuel : ℕ} {key : K}
    {walk : Walk K (List K)} (hready : Ready load root walk [key])
    (hfuel : walk.remaining reach < fuel) :
    ∃ result after, walkInner (recording load) fuel key walk = some (result, after) ∧
      Outcome load root walk [key] result after := by
  induction fuel generalizing key walk with
  | zero => exact absurd hfuel (Nat.not_lt_zero _)
  | succ fuel ih =>
    have hreached := hready.reached key (List.mem_singleton_self key)
    rw [walkInner]
    split_ifs with hprogress hvisited
    · -- The files on the way down lead here, and this is one of them.
      have haround := hready.below key (List.mem_singleton_self key) key hprogress
      exact ⟨_, walk, rfl, .cycle hready.sound.loadedOnce hreached haround⟩
    · refine ⟨_, walk, rfl, .ok hready.sound rfl (Finset.Subset.refl _) ?_⟩
      exact List.forall_mem_singleton.mpr ⟨hvisited, hprogress⟩
    · have hless := Search.remaining_enter (hreach key hreached) hvisited
      have hentered := hready.sound.enter hvisited hreached
      simp only [recording]
      cases hload : load key with
      | error reason =>
        refine ⟨_, _, rfl, .loadFailed hentered.loadedOnce ?_ hload⟩
        exact List.mem_append_right _ (List.mem_singleton_self key)
      | ok includes =>
        have hless := hless.trans_le (Nat.le_of_lt_succ hfuel)
        obtain ⟨result, after, heach, houtcome⟩ :=
          walkEach_outcome ih (hready.enter hvisited hload) hless
        dsimp only
        rw [heach]
        cases result with
        | error error => exact ⟨_, after, rfl, houtcome.error⟩
        | ok => exact ⟨_, _, rfl, houtcome.leave hprogress hload⟩

/-- If only finitely many files can be reached, the walk ends, whatever the fuel beyond their
number. -/
theorem exists_outcome (hfinite : {key | ReflTransGen (Includes load) root key}.Finite) :
    ∃ result after,
      (∀ fuel, hfinite.toFinset.card < fuel →
        walkIncludes (recording load) fuel root [] = some (result, after.loader)) ∧
      Outcome load root ⟨Search.start, []⟩ [root] result after := by
  have hreach : ∀ key, ReflTransGen (Includes load) root key → key ∈ hfinite.toFinset :=
    fun key hkey => hfinite.mem_toFinset.mpr hkey
  obtain ⟨result, after, hwalk, houtcome⟩ := walkInner_outcome hreach ready_start
    (Nat.lt_succ_of_le (Search.remaining_le _ Search.start))
  refine ⟨result, after, fun fuel hmore => ?_, houtcome⟩
  rw [walkIncludes, walkInner_mono hmore hwalk]
  rfl

/-- The include walk. If only finitely many files can be reached, it ends, and no file is loaded
twice. As long as the files can be loaded, it ends well if there is no cycle among those that can
be reached, and then it has loaded those and no others. A file it calls a cycle lies on one, and
a file it could not load is one that can be reached. -/
theorem walk_includes_correct (load : K → Except String (List K)) (root : K)
    (hfinite : {key | ReflTransGen (Includes load) root key}.Finite) :
    ∃ result calls,
      (∀ fuel, hfinite.toFinset.card < fuel →
        walkIncludes (recording load) fuel root [] = some (result, calls)) ∧
      ((∀ key ∈ calls, ∃ includes, load key = .ok includes) →
        (result = .ok () ↔ ∀ key, ReflTransGen (Includes load) root key →
          ¬ TransGen (Includes load) key key)) ∧
      (result = .ok () → ∀ key, key ∈ calls ↔ ReflTransGen (Includes load) root key) ∧
      (∀ key, result = .error (.cycle key) →
        ReflTransGen (Includes load) root key ∧ TransGen (Includes load) key key) ∧
      (∀ key reason, result = .error (.loadFailed key reason) →
        ReflTransGen (Includes load) root key ∧ load key = .error reason) ∧
      calls.Nodup ∧ ∀ key ∈ calls, ReflTransGen (Includes load) root key := by
  obtain ⟨result, after, hwalk, houtcome⟩ := exists_outcome hfinite
  obtain ⟨hnodup, hreached⟩ := houtcome.loadedOnce
  refine ⟨result, after.loader, hwalk, ?_⟩
  cases result with
  | ok =>
    obtain ⟨hcalls, hclean⟩ := houtcome.complete
    refine ⟨fun _ => iff_of_true rfl fun key hkey => (hclean key hkey).2, fun _ => hcalls, ?_, ?_,
      hnodup, hreached⟩
    · rintro key ⟨⟩
    · rintro key reason ⟨⟩
  | error error =>
    cases houtcome with
    | cycle once reached around =>
      refine ⟨fun _ => iff_of_false ?_ fun h => h _ reached around, ?_, ?_, ?_, hnodup, hreached⟩
      · rintro ⟨⟩
      · rintro ⟨⟩
      · rintro key ⟨⟩
        exact ⟨reached, around⟩
      · rintro key reason ⟨⟩
    | loadFailed once called failed =>
      refine ⟨fun hloads => ?_, ?_, ?_, ?_, hnodup, hreached⟩
      · obtain ⟨includes, hload⟩ := hloads _ called
        rw [failed] at hload
        cases hload
      · rintro ⟨⟩
      · rintro key ⟨⟩
      · rintro key reason ⟨⟩
        exact ⟨hreached _ called, failed⟩

/-- A file includes two others, and both include the last one. -/
def diamond : Fin 4 → Except String (List (Fin 4))
  | 0 => .ok [1, 2]
  | 1 => .ok [3]
  | 2 => .ok [3]
  | 3 => .ok []

/-- A file that two others include is loaded once. -/
theorem walk_includes_correct_diamond :
    walkIncludes (recording diamond) 5 0 [] = some (.ok (), [0, 1, 3, 2]) ∧
      ∀ key, ReflTransGen (Includes diamond) 0 key → ¬ TransGen (Includes diamond) key key := by
  have hfinite : {key | ReflTransGen (Includes diamond) 0 key}.Finite := Set.toFinite _
  have hcard : hfinite.toFinset.card < 5 := Nat.lt_succ_of_le (Finset.card_le_univ _)
  have hrun : walkIncludes (recording diamond) 5 0 [] = some (.ok (), [0, 1, 3, 2]) := by decide
  have hloads : ∀ key, ∃ includes, diamond key = .ok includes := by
    intro key
    fin_cases key <;> exact ⟨_, rfl⟩
  obtain ⟨result, calls, hwalk, hok, -⟩ := walk_includes_correct diamond 0 hfinite
  obtain ⟨rfl, rfl⟩ := Prod.mk.inj (Option.some.inj ((hwalk 5 hcard).symm.trans hrun))
  exact ⟨hrun, (hok fun key _ => hloads key).mp rfl⟩

/-- The walk ends well if and only if everything below the root is clean, with the same calls for
all fuel. -/
theorem exists_order (hfinite : {key | ReflTransGen (Includes load) root key}.Finite) :
    ∃ order : List K,
      (Clean load root → ∀ key, key ∈ order ↔ ReflTransGen (Includes load) root key) ∧
      ∀ fuel, hfinite.toFinset.card < fuel → ∀ calls,
        walkIncludes (recording load) fuel root [] = some (.ok (), calls) ↔
          Clean load root ∧ calls = order := by
  obtain ⟨result, after, hwalk, houtcome⟩ := exists_outcome hfinite
  cases result with
  | ok =>
    obtain ⟨hcalls, hclean⟩ := houtcome.complete
    refine ⟨after.loader, fun _ => hcalls, fun fuel hfuel calls => ?_⟩
    rw [hwalk fuel hfuel, Option.some.injEq, Prod.mk.injEq, and_iff_right rfl,
      and_iff_right hclean, eq_comm]
  | error error =>
    have hclean := houtcome.not_clean
    refine ⟨[], fun h => absurd h hclean, fun fuel hfuel calls => iff_of_false ?_ ?_⟩
    · rw [hwalk fuel hfuel]
      rintro ⟨⟩
    · exact fun h => hclean h.1

end Correct

section Simulation

variable {K σ τ : Type*}

private theorem walkEach_cons_eq_ok
    {visit : K → Walk K σ → Option (Except (WalkError K) Unit × Walk K σ)} {inc : K}
    {includes : List K} {walk after : Walk K σ} :
    walkEach visit (inc :: includes) walk = some (.ok (), after) ↔
      ∃ mid, visit inc walk = some (.ok (), mid) ∧
        walkEach visit includes mid = some (.ok (), after) := by
  rw [walkEach]
  rcases visit inc walk with _ | ⟨error | _, mid⟩ <;> simp

/-- One loader does what another one does, as long as that one succeeds and its state is good. -/
structure Follows (load : Loader K σ) (load' : Loader K τ) (related : σ → τ → Prop)
    (good : σ → Prop) : Prop where
  good_of_load : ∀ {key state}, good (load key state).2 → good state
  step : ∀ {key state state' includes}, related state state' → good (load key state).2 →
    (load key state).1 = .ok includes →
    (load' key state').1 = .ok includes ∧ related (load key state).2 (load' key state').2

variable {load : Loader K σ} {load' : Loader K τ} {related : σ → τ → Prop} {good : σ → Prop}

/-- What a walk that ends well says about the state before it, and about a walk with a loader that
follows. -/
def Carries (related : σ → τ → Prop) (good : σ → Prop) (walk after : Walk K σ)
    (run : Walk K τ → Option (Except (WalkError K) Unit × Walk K τ)) : Prop :=
  good after.loader → good walk.loader ∧ ∀ state, related walk.loader state →
    ∃ state', run ⟨walk.toSearch, state⟩ = some (.ok (), ⟨after.toSearch, state'⟩) ∧
      related after.loader state'

private theorem walkEach_carries
    {visit : K → Walk K σ → Option (Except (WalkError K) Unit × Walk K σ)}
    {visit' : K → Walk K τ → Option (Except (WalkError K) Unit × Walk K τ)}
    (hvisit : ∀ {key walk after}, visit key walk = some (.ok (), after) →
      Carries related good walk after (visit' key))
    {includes : List K} {walk after : Walk K σ}
    (h : walkEach visit includes walk = some (.ok (), after)) :
    Carries related good walk after (walkEach visit' includes) := by
  induction includes generalizing walk with
  | nil =>
    cases h
    exact fun hgood => ⟨hgood, fun state hrelated => ⟨state, rfl, hrelated⟩⟩
  | cons inc includes ih =>
    obtain ⟨mid, hinc, hincludes⟩ := walkEach_cons_eq_ok.mp h
    intro hgood
    obtain ⟨hmid, htail⟩ := ih hincludes hgood
    obtain ⟨hwalk, hhead⟩ := hvisit hinc hmid
    refine ⟨hwalk, fun state hrelated => ?_⟩
    obtain ⟨middle, hmiddle, hrelated⟩ := hhead state hrelated
    obtain ⟨last, hlast, hrelated⟩ := htail middle hrelated
    exact ⟨last, walkEach_cons_eq_ok.mpr ⟨_, hmiddle, hlast⟩, hrelated⟩

variable [DecidableEq K]

/-- When the walk over a file succeeds. -/
private theorem walkInner_succ_eq_ok {fuel : ℕ} {key : K} {walk after : Walk K σ} :
    walkInner load (fuel + 1) key walk = some (.ok (), after) ↔
      key ∉ walk.inProgress ∧ ((key ∈ walk.visited ∧ after = walk) ∨
        (key ∉ walk.visited ∧ ∃ includes inner, (load key walk.loader).1 = .ok includes ∧
          walkEach (walkInner load fuel) includes ⟨walk.enter key, (load key walk.loader).2⟩ =
            some (.ok (), inner) ∧ after = ⟨inner.leave key, inner.loader⟩)) := by
  rw [walkInner]
  by_cases hprogress : key ∈ walk.inProgress
  · simp [hprogress]
  · by_cases hvisited : key ∈ walk.visited
    · simp [hprogress, hvisited, eq_comm]
    · simp only [hprogress, hvisited, if_false]
      rcases (load key walk.loader).1 with reason | includes
      · simp
      · dsimp only
        rcases heach : walkEach (walkInner load fuel) includes
          ⟨walk.enter key, (load key walk.loader).2⟩ with _ | ⟨error | _, inner⟩
        · simp [heach]
        · simp [heach]
        · simp [heach, eq_comm]

private theorem Follows.walkInner (hfollows : Follows load load' related good) {fuel : ℕ} {key : K}
    {walk after : Walk K σ} (h : walkInner load fuel key walk = some (.ok (), after)) :
    Carries related good walk after (walkInner load' fuel key) := by
  induction fuel generalizing key walk after with
  | zero => cases h
  | succ fuel ih =>
    obtain ⟨hprogress, ⟨hvisited, rfl⟩ | ⟨hvisited, includes, inner, hload, heach, rfl⟩⟩ :=
      walkInner_succ_eq_ok.mp h
    · refine fun hgood => ⟨hgood, fun state hrelated => ⟨state, ?_, hrelated⟩⟩
      exact walkInner_succ_eq_ok.mpr ⟨hprogress, .inl ⟨hvisited, rfl⟩⟩
    · intro hgood
      obtain ⟨hloaded, hinner⟩ := walkEach_carries (fun hvisit => ih hvisit) heach hgood
      refine ⟨hfollows.good_of_load hloaded, fun state hrelated => ?_⟩
      obtain ⟨hload', hrelated⟩ := hfollows.step hrelated hloaded hload
      obtain ⟨last, hlast, hrelated⟩ := hinner _ hrelated
      refine ⟨last, walkInner_succ_eq_ok.mpr ⟨hprogress, .inr ⟨hvisited, ?_⟩⟩, hrelated⟩
      exact ⟨includes, _, hload', hlast, rfl⟩

/-- A walk that ends well also does so with a loader that follows. -/
theorem Follows.walkIncludes (hfollows : Follows load load' related good) {fuel : ℕ} {root : K}
    {start last : σ} {start' : τ}
    (h : walkIncludes load fuel root start = some (.ok (), last)) (hgood : good last)
    (hrelated : related start start') :
    ∃ last', walkIncludes load' fuel root start' = some (.ok (), last') ∧ related last last' := by
  obtain ⟨⟨result, after⟩, hwalk, hpair⟩ := Option.map_eq_some_iff.mp h
  obtain ⟨rfl, rfl⟩ := Prod.mk.inj hpair
  obtain ⟨-, hcarries⟩ := hfollows.walkInner hwalk hgood
  obtain ⟨last', hwalk', hrelated'⟩ := hcarries start' hrelated
  exact ⟨last', by rw [Build.walkIncludes, hwalk']; rfl, hrelated'⟩

end Simulation

end MavlinkRouter.Build
