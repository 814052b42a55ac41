import Mathlib

/-!
# Entries of a keyed map

Facts about finite maps with unique keys that are independent of the order of their
entries: how many entries have a property, and what a traversal yields for one key.
-/

namespace Library

variable {κ ν β : Type*} [DecidableEq κ] {map : AList fun _ : κ => ν} {key : κ} {value : ν}

/-- The number of entries whose value has the property. -/
def countValues (p : ν → Bool) (map : AList fun _ : κ => ν) : ℕ :=
  map.entries.countP fun entry => p entry.2

/-- A present key is no absent one. -/
theorem ne_of_lookup {absent : κ} (h : map.lookup key = some value)
    (habsent : map.lookup absent = none) : key ≠ absent := by
  rintro rfl
  exact absurd (h.symm.trans habsent) (Option.some_ne_none value)

/-- A stored entry can be moved to the front. -/
theorem entries_perm_of_lookup (h : map.lookup key = some value) :
    map.entries.Perm (⟨key, value⟩ :: (map.erase key).entries) := by
  have hmem : ⟨key, value⟩ ∈ map.entries := AList.mem_lookup_iff.mp h
  obtain ⟨stored, before, after, -, hsplit, herase⟩ :=
    List.exists_of_kerase (List.mem_keys_of_mem hmem)
  have hstored : map.lookup key = some stored :=
    AList.mem_lookup_iff.mpr (by simp [hsplit])
  obtain rfl : stored = value := Option.some.inj (hstored.symm.trans h)
  have hentries : (map.erase key).entries = before ++ after := herase
  rw [hentries, hsplit]
  exact List.perm_middle

/-- A stored entry counts once on top of the others. -/
theorem countValues_of_lookup (p : ν → Bool) (h : map.lookup key = some value) :
    countValues p map = countValues p (map.erase key) + if p value then 1 else 0 := by
  unfold countValues
  rw [(entries_perm_of_lookup h).countP_eq, List.countP_cons]

/-- An inserted entry counts once on top of the entries under other keys. -/
theorem countValues_insert (p : ν → Bool) (map : AList fun _ : κ => ν) (key : κ) (value : ν) :
    countValues p (map.insert key value) =
      countValues p (map.erase key) + if p value then 1 else 0 := by
  unfold countValues
  rw [AList.entries_insert, List.countP_cons]
  rfl

/-- Removing an absent key removes nothing. -/
theorem countValues_erase_of_lookup_none (p : ν → Bool) (h : map.lookup key = none) :
    countValues p (map.erase key) = countValues p map := by
  have habsent : key ∉ map.entries.keys := AList.lookup_eq_none.mp h
  have hentries : (map.erase key).entries = map.entries := List.kerase_of_notMem_keys habsent
  unfold countValues
  rw [hentries]

/-- The count is positive exactly if some entry has the property. -/
theorem countValues_pos_iff {p : ν → Bool} :
    0 < countValues p map ↔ ∃ key value, map.lookup key = some value ∧ p value = true := by
  unfold countValues
  rw [List.countP_pos_iff]
  constructor
  · rintro ⟨⟨key, value⟩, hmem, hp⟩
    exact ⟨key, value, AList.mem_lookup_iff.mpr hmem, hp⟩
  · rintro ⟨key, value, hlookup, hp⟩
    exact ⟨⟨key, value⟩, AList.mem_lookup_iff.mp hlookup, hp⟩

/-- An order in which the entries of a hash map may be visited. -/
structure Traversal (α : Type*) where
  order : List α → List α
  perm : ∀ entries, (order entries).Perm entries

/-- The order in which the entries are listed. -/
def Traversal.inOrder {α : Type*} : Traversal α := ⟨id, fun _ => .refl _⟩

/-- A traversal visits exactly the stored entries. -/
theorem Traversal.mem_order (visit : Traversal (Σ _ : κ, ν)) {entry : Σ _ : κ, ν} :
    entry ∈ visit.order map.entries ↔ map.lookup entry.1 = some entry.2 := by
  rw [(visit.perm map.entries).mem_iff]
  exact AList.mem_lookup_iff.symm

omit [DecidableEq κ] in
/-- A traversal visits no key twice. -/
theorem Traversal.nodup_keys (visit : Traversal (Σ _ : κ, ν)) (map : AList fun _ : κ => ν) :
    ((visit.order map.entries).map Sigma.fst).Nodup :=
  ((visit.perm map.entries).map Sigma.fst).nodup_iff.mpr map.nodupKeys

/-- Inserting under a free key adds one entry. -/
theorem length_insert (h : map.lookup key = none) :
    (map.insert key value).entries.length = map.entries.length + 1 := by
  have habsent : key ∉ map.entries.keys := AList.lookup_eq_none.mp h
  rw [AList.entries_insert, List.kerase_of_notMem_keys habsent, List.length_cons]

/-- Replacing a stored value keeps the number of entries. -/
theorem length_insert_of_lookup {stored : ν} (h : map.lookup key = some stored) :
    (map.insert key value).entries.length = map.entries.length := by
  rw [(entries_perm_of_lookup h).length_eq, AList.entries_insert]
  rfl

/-- Erasing a stored key removes one entry. -/
theorem length_erase_add_one (h : map.lookup key = some value) :
    (map.erase key).entries.length + 1 = map.entries.length := by
  rw [(entries_perm_of_lookup h).length_eq, List.length_cons]

private theorem filter_flatMap_entries {entries : List (Σ _ : κ, ν)} (hnodup : entries.NodupKeys)
    (f : (Σ _ : κ, ν) → List β) (target : β → κ)
    (htarget : ∀ entry, ∀ b ∈ f entry, target b = entry.1) (key : κ) :
    (entries.flatMap f).filter (fun b => target b = key) =
      (entries.dlookup key).elim [] fun value => f ⟨key, value⟩ := by
  induction entries with
  | nil => rfl
  | cons entry entries ih =>
    obtain ⟨key', value⟩ := entry
    rw [List.nodupKeys_cons] at hnodup
    rw [List.flatMap_cons, List.filter_append, ih hnodup.2]
    by_cases hkey : key' = key
    · subst hkey
      have hall : (f ⟨key', value⟩).filter (fun b => target b = key') = f ⟨key', value⟩ :=
        List.filter_eq_self.mpr fun b hb => by simpa using htarget _ b hb
      rw [hall, List.dlookup_cons_eq, List.dlookup_eq_none.mpr hnodup.1]
      simp
    · have hnone : (f ⟨key', value⟩).filter (fun b => target b = key) = [] := by
        rw [List.filter_eq_nil_iff]
        intro b hb
        rw [decide_eq_true_iff, htarget _ b hb]
        exact hkey
      rw [hnone, List.dlookup_cons_ne _ _ (Ne.symm hkey), List.nil_append]

/-- What a traversal yields for one key is determined by the value stored there. -/
theorem Traversal.filter_flatMap (visit : Traversal (Σ _ : κ, ν)) (map : AList fun _ : κ => ν)
    (f : (Σ _ : κ, ν) → List β) (target : β → κ)
    (htarget : ∀ entry, ∀ b ∈ f entry, target b = entry.1) (key : κ) :
    ((visit.order map.entries).flatMap f).filter (fun b => target b = key) =
      (map.lookup key).elim [] fun value => f ⟨key, value⟩ := by
  have hnodup := visit.nodup_keys map
  rw [filter_flatMap_entries hnodup f target htarget,
    List.perm_dlookup key hnodup (visit.perm map.entries)]
  rfl

end Library
