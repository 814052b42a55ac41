import MavlinkRouter.Config.FilterLists
import MavlinkRouter.Library.Settings

/-!
# What filter lists mean

The filters that are made from lists under different keys let a frame through if on each axis its
value lies in the ranges that the allow list names, if there is one, and in none of those that the
block list names.
-/

namespace MavlinkRouter

open Library (splitAll trim IsNumeral IsSignedNumeral SettingRun OwnFields)

/-- The value lies in one of the ranges. -/
def InRanges (ranges : List (ℕ × ℕ)) (value : ℕ) : Prop :=
  ∃ range ∈ ranges, range.1 ≤ value ∧ value ≤ range.2

/-- An axis lets a value through. -/
def AxisPasses (allow block : List (ℕ × ℕ)) (value : ℕ) : Prop :=
  (allow = [] ∨ InRanges allow value) ∧ ¬ InRanges block value

variable {filters : Filters} {pairs : List (String × String)}

private theorem passAxis_iff_axisPasses {ρ : Type} {matchesValue : ρ → Bool} {toPair : ρ → ℕ × ℕ}
    {value : ℕ} {allow block : List ρ}
    (h : ∀ entry, matchesValue entry = true ↔
      (toPair entry).1 ≤ value ∧ value ≤ (toPair entry).2) :
    passAxis matchesValue allow block = true ↔
      AxisPasses (allow.map toPair) (block.map toPair) value := by
  have hin : ∀ entries : List ρ, InRanges (entries.map toPair) value ↔
      ∃ entry ∈ entries, matchesValue entry = true := by
    intro entries
    simp [InRanges, h]
  rw [passAxis_iff, AxisPasses, hin, hin, List.map_eq_nil_iff]
  simp only [not_exists, not_and, Bool.not_eq_true]

private theorem passMsgidAxis_iff {value : UInt32} {allow block : List MsgIdRange} :
    passMsgidAxis value allow block = true ↔
      AxisPasses (allow.map MsgIdRange.toPair) (block.map MsgIdRange.toPair) value.toNat :=
  passAxis_iff_axisPasses fun range => by
    simp [MsgIdRange.contains, MsgIdRange.toPair, UInt32.le_iff_toNat_le]

private theorem passU8Axis_iff {value : UInt8} {allow block : List U8Range} :
    passU8Axis value allow block = true ↔
      AxisPasses (allow.map U8Range.toPair) (block.map U8Range.toPair) value.toNat :=
  passAxis_iff_axisPasses fun range => by
    simp [U8Range.contains, U8Range.toPair, UInt8.le_iff_toNat_le]

/-- The axes of ranges on ingress or on egress let a frame through. -/
def RangesPass (filters : Filters) (direction : Direction) (msgid : UInt32) (src : NodeId) :
    Prop :=
  ∀ axis : RangeAxis, AxisPasses (RangeKey.get filters ⟨.allow, axis, direction⟩)
    (RangeKey.get filters ⟨.block, axis, direction⟩) (axis.value msgid src)

private theorem rangesPass_iff {direction : Direction} {msgid : UInt32} {src : NodeId} :
    RangesPass filters direction msgid src ↔
      (AxisPasses (RangeKey.get filters ⟨.allow, .msgid, direction⟩)
        (RangeKey.get filters ⟨.block, .msgid, direction⟩) msgid.toNat ∧
      AxisPasses (RangeKey.get filters ⟨.allow, .srcSys, direction⟩)
        (RangeKey.get filters ⟨.block, .srcSys, direction⟩) src.sys.toNat) ∧
      AxisPasses (RangeKey.get filters ⟨.allow, .srcComp, direction⟩)
        (RangeKey.get filters ⟨.block, .srcComp, direction⟩) src.comp.toNat := by
  constructor
  · intro h
    exact ⟨⟨h .msgid, h .srcSys⟩, h .srcComp⟩
  · rintro ⟨⟨hmsgid, hsys⟩, hcomp⟩ axis
    cases axis with
    | msgid => exact hmsgid
    | srcSys => exact hsys
    | srcComp => exact hcomp

private theorem passesInFilter_iff {msgid : UInt32} {src : NodeId} :
    filters.passesInFilter msgid src = true ↔ RangesPass filters .ingress msgid src := by
  rw [rangesPass_iff, Filters.passesInFilter, Bool.and_eq_true, Bool.and_eq_true,
    passMsgidAxis_iff, passU8Axis_iff, passU8Axis_iff]
  rfl

private theorem passesOutFilter_iff {msgid : UInt32} {src : NodeId} {name : String} :
    filters.passesOutFilter msgid src name = true ↔
      RangesPass filters .egress msgid src ∧
        ((ListKind.allow.names filters = [] ∨ name ∈ ListKind.allow.names filters) ∧
          name ∉ ListKind.block.names filters) := by
  have hnames : passSrcEndpointAxis name filters.allowSrcEndpointOut
      filters.blockSrcEndpointOut = true ↔
      (ListKind.allow.names filters = [] ∨ name ∈ ListKind.allow.names filters) ∧
        name ∉ ListKind.block.names filters := by
    simp [passSrcEndpointAxis, passAxis_iff, ListKind.names]
    grind
  rw [rangesPass_iff, Filters.passesOutFilter, Bool.and_eq_true, Bool.and_eq_true,
    Bool.and_eq_true, passMsgidAxis_iff, passU8Axis_iff, passU8Axis_iff, hnames]
  rfl

/-- An apply that does not set a list leaves the filters as they are. -/
theorem applyMut_cases (filters : Filters) (key value : String) :
    (filters.applyMut key value).2 = filters ∨ (filters.applyMut key value).1 = .ok true := by
  have hassign : ∀ {ρ : Type} (parsed : Except SpecError ρ) (set : ρ → Filters),
      (filters.assign parsed set).2 = filters ∨ (filters.assign parsed set).1 = .ok true := by
    intro ρ parsed set
    cases parsed with
    | error error => exact .inl rfl
    | ok list => exact .inr rfl
  unfold Filters.applyMut
  split
  case h_15 => exact .inl rfl
  all_goals exact hassign _ _

/-- An apply that succeeds, whether or not the key is that of a filter list. -/
def Filters.Applies (filters : Filters) (key value : String) (next : Filters) : Prop :=
  ∃ ours, filters.applyMut key value = (.ok ours, next)

/-- The filters that a sequence of successful applies makes. -/
def Built (pairs : List (String × String)) (filters : Filters) : Prop :=
  SettingRun Filters.Applies {} pairs filters

private theorem applies_cases {key value : String} {next : Filters}
    (h : filters.Applies key value next) :
    filters.apply key value = .ok (some next) ∨
      filters.apply key value = .ok none ∧ next = filters := by
  obtain ⟨ours, happly⟩ := h
  rw [Filters.apply, happly]
  cases ours with
  | true => exact .inl rfl
  | false =>
    rcases applyMut_cases filters key value with hsame | htrue
    · rw [happly] at hsame
      exact .inr ⟨rfl, hsame⟩
    · rw [happly] at htrue
      cases htrue

/-- Every key has a list of its own. -/
theorem ownFields_applies : OwnFields Filters.Applies Filters.Reflects where
  own := by
    rintro filters key value next happly accepted rfl
    rcases applies_cases happly with happly | ⟨hnone, -⟩
    · exact (reflects_of_apply happly).1
    · exact absurd hnone (apply_name_ne_none accepted)
  other := by
    rintro filters key value next other written happly hother hreflects accepted rfl
    rcases applies_cases happly with happly | ⟨-, rfl⟩
    · obtain ⟨set, rfl⟩ := exists_key_of_apply happly
      refine (reflects_of_apply happly).2 accepted ?_ written (hreflects accepted rfl)
      exact fun hsame => hother (congrArg FilterKey.name hsame)
    · exact hreflects accepted rfl

/-- The lists of the filters are those that were written. -/
theorem Built.reflects (h : Built pairs filters) (hdistinct : (pairs.map Prod.fst).Nodup)
    (key : FilterKey) : key.Reflects filters (pairs.lookup key.name) := by
  have hfinal := ownFields_applies.reflects_of_run h hdistinct
    (fun name => Filters.reflects_default name) key.name key rfl
  rwa [Option.or_none] at hfinal

/-- The ranges that a text says contain the value. -/
def Mentions (key : RangeKey) (text : String) (value : ℕ) : Prop :=
  ∃ ranges, IsRangeList IsSignedNumeral key.bound text.toList ranges ∧ InRanges ranges value

/-- The lists that were written let a frame through, on ingress or on egress. -/
def RangesAdmit (pairs : List (String × String)) (direction : Direction) (msgid : UInt32)
    (src : NodeId) : Prop :=
  ∀ axis : RangeAxis,
    (∀ text ∈ pairs.lookup (RangeKey.name ⟨.allow, axis, direction⟩),
      Mentions ⟨.allow, axis, direction⟩ text (axis.value msgid src)) ∧
    ∀ text ∈ pairs.lookup (RangeKey.name ⟨.block, axis, direction⟩),
      ¬ Mentions ⟨.block, axis, direction⟩ text (axis.value msgid src)

/-- The lists of names that were written let a source endpoint through. -/
def NamesAdmit (pairs : List (String × String)) (name : String) : Prop :=
  (∀ text ∈ pairs.lookup ListKind.allow.nameKey, name ∈ (splitAll ',' text).map trim) ∧
    ∀ text ∈ pairs.lookup ListKind.block.nameKey, name ∉ (splitAll ',' text).map trim

private theorem mentions_iff {key : RangeKey} {text : String} {value : ℕ}
    (h : IsRangeList IsSignedNumeral key.bound text.toList (key.get filters)) :
    Mentions key text value ↔ InRanges (key.get filters) value := by
  constructor
  · rintro ⟨ranges, hranges, hvalue⟩
    rwa [h.unique key.bound_le hranges]
  · intro hvalue
    exact ⟨_, h, hvalue⟩

/-- An allow list that was not written imposes no restriction. -/
theorem allow_iff_of_reflects {key : RangeKey} {written : Option String} {value : ℕ}
    (h : (FilterKey.range key).Reflects filters written) :
    (key.get filters = [] ∨ InRanges (key.get filters) value) ↔
      ∀ text ∈ written, Mentions key text value := by
  cases written with
  | none =>
    have hempty : key.get filters = [] := h
    simp [hempty]
  | some text =>
    have hlist : IsRangeList IsSignedNumeral key.bound text.toList (key.get filters) := h
    simp [mentions_iff hlist, hlist.ne_nil]

private theorem block_iff_of_reflects {key : RangeKey} {written : Option String} {value : ℕ}
    (h : (FilterKey.range key).Reflects filters written) :
    ¬ InRanges (key.get filters) value ↔ ∀ text ∈ written, ¬ Mentions key text value := by
  cases written with
  | none =>
    have hempty : key.get filters = [] := h
    simp [hempty, InRanges]
  | some text =>
    have hlist : IsRangeList IsSignedNumeral key.bound text.toList (key.get filters) := h
    simp [mentions_iff hlist]

private theorem names_iff_of_reflects {kind : ListKind} {written : Option String} {name : String}
    (h : (FilterKey.names kind).Reflects filters written) :
    ((kind.names filters = [] ∨ name ∈ kind.names filters) ↔
        ∀ text ∈ written, name ∈ (splitAll ',' text).map trim) ∧
      (name ∉ kind.names filters ↔ ∀ text ∈ written, name ∉ (splitAll ',' text).map trim) := by
  cases written with
  | none =>
    have hempty : kind.names filters = [] := h
    simp [hempty]
  | some text =>
    have hlist : kind.names filters = (splitAll ',' text).map trim := h
    have hne : (splitAll ',' text).map trim ≠ [] := by
      simpa using Library.splitAll_ne_nil ',' text
    rw [hlist]
    simp [hne]

private theorem Built.rangesPass_iff (h : Built pairs filters)
    (hdistinct : (pairs.map Prod.fst).Nodup)
    {direction : Direction} {msgid : UInt32} {src : NodeId} :
    RangesPass filters direction msgid src ↔ RangesAdmit pairs direction msgid src := by
  refine forall_congr' fun axis => and_congr ?_ ?_
  · exact allow_iff_of_reflects (h.reflects hdistinct (.range ⟨.allow, axis, direction⟩))
  · exact block_iff_of_reflects (h.reflects hdistinct (.range ⟨.block, axis, direction⟩))

/-- A list of ranges as the documentation writes it is accepted. -/
theorem applyMut_of_isRangeList {key : RangeKey} {text : String} {ranges : List (ℕ × ℕ)}
    (h : IsRangeList IsNumeral key.bound text.toList ranges) :
    filters.applyMut key.name text = (.ok true, key.set filters ranges) := by
  have happly : filters.apply key.name text = .ok (some (key.set filters ranges)) :=
    apply_rangeKey_eq_ok_iff.mpr ⟨ranges, h.mono fun _ _ => .of_isNumeral, rfl⟩
  obtain ⟨ours, hours, hset⟩ := Library.map_eq_ok.mp happly
  cases ours with
  | true => exact Prod.ext hours (Option.some.inj hset)
  | false => cases hset

/-- Filter lists mean what they say. A list of ranges is accepted by each of the twelve keys and
becomes the list of that key, every other list staying as it is; the filters that were made from
lists under distinct keys let a frame through if on each axis its value lies in the allow list
that was written, if any, and not in the block list; and a failing apply changes nothing. -/
theorem filter_lists_mean_what_they_say :
    (∀ (key : RangeKey) (filters : Filters) (text : String) (ranges : List (ℕ × ℕ)),
      IsRangeList IsNumeral key.bound text.toList ranges →
        filters.applyMut key.name text = (.ok true, key.set filters ranges) ∧
        key.get (key.set filters ranges) = ranges ∧
        (∀ other ≠ key, other.get (key.set filters ranges) = other.get filters) ∧
        ∀ kind : ListKind, kind.names (key.set filters ranges) = kind.names filters) ∧
    (∀ (pairs : List (String × String)) (filters : Filters), Built pairs filters →
      (pairs.map Prod.fst).Nodup → ∀ (msgid : UInt32) (src : NodeId),
        (filters.passesInFilter msgid src = true ↔ RangesAdmit pairs .ingress msgid src) ∧
        ∀ name : String, filters.passesOutFilter msgid src name = true ↔
          RangesAdmit pairs .egress msgid src ∧ NamesAdmit pairs name) ∧
    ∀ (filters : Filters) (key value : String) (error : SpecError),
      (filters.applyMut key value).1 = .error error → (filters.applyMut key value).2 = filters := by
  refine ⟨?_, ?_, ?_⟩
  · intro key filters text ranges htext
    exact ⟨applyMut_of_isRangeList htext, key.get_set_self htext.lt,
      fun other hother => RangeKey.get_set_of_ne hother, key.names_set⟩
  · intro pairs filters hbuilt hdistinct msgid src
    constructor
    · rw [passesInFilter_iff]
      exact hbuilt.rangesPass_iff hdistinct
    · intro name
      rw [passesOutFilter_iff, hbuilt.rangesPass_iff hdistinct]
      exact and_congr_right fun _ => and_congr
        (names_iff_of_reflects (hbuilt.reflects hdistinct (.names .allow))).1
        (names_iff_of_reflects (hbuilt.reflects hdistinct (.names .block))).2
  · intro filters key value error herror
    rcases applyMut_cases filters key value with hsame | htrue
    · exact hsame
    · cases herror.symm.trans htrue

/-- The lists `allow_msgid_in=0, 30 - 33` and `block_msgid_in=31` let msgid 30 through and keep
msgid 31 out. -/
theorem filter_lists_mean_what_they_say_msgid :
    RangesAdmit [("allow_msgid_in", "0, 30 - 33"), ("block_msgid_in", "31")] .ingress 30 ⟨1, 1⟩ ∧
      ¬ RangesAdmit [("allow_msgid_in", "0, 30 - 33"), ("block_msgid_in", "31")] .ingress 31
        ⟨1, 1⟩ := by
  have hallow : (({} : Filters).applyMut "allow_msgid_in" "0, 30 - 33").1 = .ok true := by
    decide +kernel
  have hblock : ((({} : Filters).applyMut "allow_msgid_in" "0, 30 - 33").2.applyMut
      "block_msgid_in" "31").1 = .ok true := by
    decide +kernel
  have hbuilt : Built [("allow_msgid_in", "0, 30 - 33"), ("block_msgid_in", "31")] _ :=
    .cons ⟨true, Prod.ext hallow rfl⟩ (.cons ⟨true, Prod.ext hblock rfl⟩ (.nil _))
  have hpass := filter_lists_mean_what_they_say.2.1 _ _ hbuilt (by decide +kernel)
  refine ⟨(hpass 30 ⟨1, 1⟩).1.mp (by decide +kernel), fun hadmit => ?_⟩
  have hpassed := (hpass 31 ⟨1, 1⟩).1.mpr hadmit
  revert hpassed
  decide +kernel

end MavlinkRouter
