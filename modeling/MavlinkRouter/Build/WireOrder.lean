import MavlinkRouter.Build.Offsets

/-!
# The order of fields on the wire

The order in which a message declares fields of different sizes does not matter, and neither do
its extension fields: the `crc_extra` byte and the target offsets are computed from the base fields
in the order of the wire. The script sorts them twice, once for each of the two computations.
-/

namespace MavlinkRouter.Build

open Library (isStableSort_insertionSort)

variable {name : String} {fields fields' base base' : List ParsedField}

/-- Two lists of fields have the same order of fields of equal size. -/
def SameClasses (base base' : List ParsedField) : Prop :=
  ∀ size, (base.filter fun field => field.elementSize = size) =
    base'.filter fun field => field.elementSize = size

/-- Fields are sorted alike if those of equal size come in the same order. -/
theorem sortBySize_congr (hperm : base.Perm base') (hclasses : SameClasses base base') :
    sortBySize base = sortBySize base' := by
  have hunknown : (2 ≤ base.length ∧ ∃ field ∈ base, typeSize field.typeName = none) ↔
      2 ≤ base'.length ∧ ∃ field ∈ base', typeSize field.typeName = none := by
    simp only [hperm.length_eq, hperm.mem_iff]
  have hsorted := (isStableSort_insertionSort ParsedField.elementSize base).congr hclasses
  have hsort := hsorted.unique (isStableSort_insertionSort ParsedField.elementSize base')
  simp only [sortBySize, hunknown, hsort]

/-- The results depend on the base fields only, and not on the order of fields of different
sizes. -/
theorem results_congr (name : String) (hperm : (baseFields fields).Perm (baseFields fields'))
    (hclasses : SameClasses (baseFields fields) (baseFields fields')) :
    crcExtraForMessage name (fields.map ParsedField.toCrcExtraField) =
        crcExtraForMessage name (fields'.map ParsedField.toCrcExtraField) ∧
      computeOffsets fields = computeOffsets fields' := by
  have hsort := sortBySize_congr hperm hclasses
  constructor
  · rw [crcExtraForMessage_map, crcExtraForMessage_map, hsort]
  · rw [computeOffsets, computeOffsets, hsort]

/-- The `crc_extra` byte and the target offsets of a message, and whether the script accepts it,
do not change if its base fields are reordered such that fields of equal element size stay in
order, nor if extension fields are added, removed or reordered; and the two functions, which sort
separately, find the same order of the base fields. -/
theorem wire_order_invariance (name : String) (fields : List ParsedField) :
    (∀ fields', (baseFields fields).Perm (baseFields fields') →
      SameClasses (baseFields fields) (baseFields fields') →
      crcExtraForMessage name (fields.map ParsedField.toCrcExtraField) =
          crcExtraForMessage name (fields'.map ParsedField.toCrcExtraField) ∧
        computeOffsets fields = computeOffsets fields') ∧
    (∀ fields', baseFields fields = baseFields fields' →
      crcExtraForMessage name (fields.map ParsedField.toCrcExtraField) =
          crcExtraForMessage name (fields'.map ParsedField.toCrcExtraField) ∧
        computeOffsets fields = computeOffsets fields') ∧
    sortCrcFields ((fields.map ParsedField.toCrcExtraField).filter fun field =>
        !field.isExtension) =
      (sortBySize (baseFields fields)).map (List.map ParsedField.toCrcExtraField) := by
  refine ⟨fun fields' => results_congr name, fun fields' hbase => ?_, ?_⟩
  · exact results_congr name (hbase ▸ List.Perm.refl _) fun size => by rw [hbase]
  · rw [filter_map_toCrcExtraField, sortCrcFields_map]

/-- The fields of PING in another order, with an extension field. -/
def pingReordered : List ParsedField :=
  [⟨"target_system", "uint8_t", 0, false⟩, ⟨"seq", "uint32_t", 0, false⟩,
    ⟨"time_usec", "uint64_t", 0, false⟩, ⟨"target_component", "uint8_t", 0, false⟩,
    ⟨"hops", "uint16_t", 0, true⟩]

/-- With its fields in another order and an extension field, PING has the `crc_extra` and the
offsets of PING. -/
theorem wire_order_invariance_ping :
    crcExtraForMessage "PING" (pingReordered.map ParsedField.toCrcExtraField) = .ok 237 ∧
      computeOffsets pingReordered = .ok (some 12, some 13) := by
  have hclasses : SameClasses (baseFields ping.fields) (baseFields pingReordered) := by
    intro size
    by_cases hsize : size ∈ [1, 4, 8]
    · fin_cases hsize <;> decide +kernel
    · have hempty : ∀ base : List ParsedField, (∀ field ∈ base, field.elementSize ∈ [1, 4, 8]) →
          (base.filter fun field => field.elementSize = size) = [] := by
        intro base hbase
        rw [List.filter_eq_nil_iff]
        intro field hfield hkey
        exact hsize (of_decide_eq_true hkey ▸ hbase field hfield)
      rw [hempty _ (by decide +kernel), hempty _ (by decide +kernel)]
  have hresults := (wire_order_invariance "PING" ping.fields).1 _ (by decide +kernel) hclasses
  rw [← hresults.1, ← hresults.2]
  decide +kernel

end MavlinkRouter.Build
