import Mathlib

/-!
# Settings

A record is filled in by setting its fields one after the other, each of them under a key of its
own. Where every key has one field, the record reflects what was written under each key, and the
order of the settings does not matter.
-/

namespace Library

variable {ε κ υ β : Type*}

/-- Settings that are made one after the other, where `sets state key value next` is one of
them. -/
inductive SettingRun (sets : ε → κ → υ → ε → Prop) : ε → List (κ × υ) → ε → Prop
  | nil (state : ε) : SettingRun sets state [] state
  | cons {state next final : ε} {key : κ} {value : υ} {pairs : List (κ × υ)} :
      sets state key value next → SettingRun sets next pairs final →
      SettingRun sets state ((key, value) :: pairs) final

/-- Every key has a field of its own. Here `reflects state key written` tells that the field of a
key has the value that was written under the key, or its default if there is none. -/
structure OwnFields (sets : ε → κ → υ → ε → Prop) (reflects : ε → κ → Option υ → Prop) :
    Prop where
  own : ∀ {state key value next}, sets state key value next → reflects next key (some value)
  other : ∀ {state key value next other written}, sets state key value next → other ≠ key →
    reflects state other written → reflects next other written

/-- The fields do not depend on each other, and there are no further ones but a base that no
setting changes. -/
structure IndependentFields (sets : ε → κ → υ → ε → Prop) (reflects : ε → κ → Option υ → Prop)
    (base : ε → β) : Prop extends OwnFields sets reflects where
  base_eq : ∀ {state key value next}, sets state key value next → base next = base state
  accepts : ∀ {state other key value next}, base state = base other →
    sets state key value next → ∃ next', sets other key value next'
  ext : ∀ {state other}, base state = base other →
    (∀ key, ∃ written, reflects state key written ∧ reflects other key written) → state = other

variable {sets : ε → κ → υ → ε → Prop} {reflects : ε → κ → Option υ → Prop} {base : ε → β}
  {state final : ε} {pairs pairs' : List (κ × υ)}

/-- What every setting keeps is kept by all of them. -/
theorem SettingRun.invariant {motive : ε → Prop} (hrun : SettingRun sets state pairs final)
    (hsets : ∀ {state key value next}, sets state key value next → motive state → motive next)
    (hstart : motive state) : motive final := by
  induction hrun with
  | nil => exact hstart
  | cons hset _ ih => exact ih (hsets hset hstart)

/-- Finding a key among different ones. -/
theorem lookup_eq_some_iff_mem [BEq κ] [LawfulBEq κ] (hdistinct : (pairs.map Prod.fst).Nodup)
    {key : κ} {value : υ} : pairs.lookup key = some value ↔ (key, value) ∈ pairs := by
  induction pairs with
  | nil => simp
  | cons pair pairs ih =>
    obtain ⟨first, text⟩ := pair
    rw [List.map_cons, List.nodup_cons] at hdistinct
    rw [List.lookup_cons, List.mem_cons]
    by_cases hkey : key = first
    · subst hkey
      have hnot : (key, value) ∉ pairs := fun hmem =>
        hdistinct.1 (List.mem_map.mpr ⟨(key, value), hmem, rfl⟩)
      simp [hnot, eq_comm]
    · have hne : (key == first) = false := beq_false_of_ne hkey
      simpa [hkey, hne] using ih hdistinct.2

private theorem lookup_perm [BEq κ] [LawfulBEq κ] (hperm : pairs.Perm pairs')
    (hdistinct : (pairs.map Prod.fst).Nodup) (key : κ) : pairs.lookup key = pairs'.lookup key := by
  have hdistinct' : (pairs'.map Prod.fst).Nodup := (hperm.map Prod.fst).nodup_iff.mp hdistinct
  refine Option.ext fun value => ?_
  rw [lookup_eq_some_iff_mem hdistinct, lookup_eq_some_iff_mem hdistinct', hperm.mem_iff]

namespace OwnFields

/-- The fields after a run whose keys differ. -/
theorem reflects_of_run [BEq κ] [LawfulBEq κ] (h : OwnFields sets reflects)
    (hrun : SettingRun sets state pairs final) (hdistinct : (pairs.map Prod.fst).Nodup)
    {written : κ → Option υ} (hstart : ∀ key, reflects state key (written key)) (key : κ) :
    reflects final key ((pairs.lookup key).or (written key)) := by
  induction hrun generalizing written with
  | nil => exact hstart key
  | @cons state next final new value pairs hset _ ih =>
    rw [List.map_cons, List.nodup_cons] at hdistinct
    obtain ⟨hnew, hdistinct⟩ := hdistinct
    have hnext : ∀ key, reflects next key (if key == new then some value else written key) := by
      intro key
      split
      · rename_i hkey
        rw [eq_of_beq hkey]
        exact h.own hset
      · rename_i hkey
        exact h.other hset (fun hsame => hkey (beq_iff_eq.mpr hsame)) (hstart key)
    have hfinal := ih hdistinct hnext
    rw [List.lookup_cons]
    by_cases hkey : key = new
    · subst hkey
      have hnone : pairs.lookup key = none := by
        rw [List.lookup_eq_none_iff]
        intro pair hpair
        exact bne_iff_ne.mpr fun hsame => hnew (List.mem_map.mpr ⟨pair, hpair, hsame.symm⟩)
      simpa [hnone] using hfinal
    · have hne : (key == new) = false := beq_false_of_ne hkey
      simpa [hne] using hfinal

end OwnFields

namespace IndependentFields

/-- A run keeps the base. -/
theorem base_eq_of_run (h : IndependentFields sets reflects base)
    (hrun : SettingRun sets state pairs final) : base final = base state := by
  induction hrun with
  | nil => rfl
  | cons hset _ ih => exact ih.trans (h.base_eq hset)

/-- A run succeeds if every one of its settings is accepted. -/
theorem exists_run_iff (h : IndependentFields sets reflects base) :
    (∃ final, SettingRun sets state pairs final) ↔
      ∀ pair ∈ pairs, ∃ next, sets state pair.1 pair.2 next := by
  constructor
  · rintro ⟨final, hrun⟩
    induction hrun with
    | nil => exact List.forall_mem_nil _
    | cons hset _ ih =>
      refine List.forall_mem_cons.mpr ⟨⟨_, hset⟩, fun pair hpair => ?_⟩
      obtain ⟨next', hnext'⟩ := ih pair hpair
      exact h.accepts (h.base_eq hset) hnext'
  · intro hpairs
    induction pairs generalizing state with
    | nil => exact ⟨state, .nil state⟩
    | cons pair pairs ih =>
      obtain ⟨⟨next, hset⟩, hpairs⟩ := List.forall_mem_cons.mp hpairs
      have hrest : ∀ pair ∈ pairs, ∃ next', sets next pair.1 pair.2 next' := by
        intro pair hpair
        obtain ⟨next', hnext'⟩ := hpairs pair hpair
        exact h.accepts (h.base_eq hset).symm hnext'
      obtain ⟨final, hrun⟩ := ih hrest
      exact ⟨final, .cons hset hrun⟩

/-- A record is what the settings that it reflects lead to. -/
theorem run_of_reflects [BEq κ] [LawfulBEq κ] (h : IndependentFields sets reflects base)
    (hdistinct : (pairs.map Prod.fst).Nodup) {written : κ → Option υ}
    (hstart : ∀ key, reflects state key (written key)) (hbase : base final = base state)
    (haccepted : ∀ pair ∈ pairs, ∃ next, sets state pair.1 pair.2 next)
    (hfinal : ∀ key, reflects final key ((pairs.lookup key).or (written key))) :
    SettingRun sets state pairs final := by
  obtain ⟨final', hrun⟩ := h.exists_run_iff.mpr haccepted
  have hsame : final' = final :=
    h.ext ((h.base_eq_of_run hrun).trans hbase.symm) fun key =>
      ⟨_, h.reflects_of_run hrun hdistinct hstart key, hfinal key⟩
  rwa [← hsame]

/-- The order of settings under different keys does not matter. -/
theorem run_perm [BEq κ] [LawfulBEq κ] (h : IndependentFields sets reflects base)
    (hperm : pairs.Perm pairs') (hdistinct : (pairs.map Prod.fst).Nodup)
    {written : κ → Option υ} (hstart : ∀ key, reflects state key (written key))
    (hrun : SettingRun sets state pairs final) : SettingRun sets state pairs' final := by
  have hdistinct' : (pairs'.map Prod.fst).Nodup := (hperm.map Prod.fst).nodup_iff.mp hdistinct
  have haccepted : ∀ pair ∈ pairs', ∃ next, sets state pair.1 pair.2 next :=
    fun pair hpair => h.exists_run_iff.mp ⟨final, hrun⟩ pair (hperm.mem_iff.mpr hpair)
  obtain ⟨final', hrun'⟩ := h.exists_run_iff.mpr haccepted
  have hbase : base final' = base final :=
    (h.base_eq_of_run hrun').trans (h.base_eq_of_run hrun).symm
  have hsame : final' = final := by
    refine h.ext hbase fun key => ⟨(pairs.lookup key).or (written key), ?_, ?_⟩
    · rw [lookup_perm hperm hdistinct key]
      exact h.reflects_of_run hrun' hdistinct' hstart key
    · exact h.reflects_of_run hrun hdistinct hstart key
  rwa [← hsame]

end IndependentFields

end Library
