import MavlinkRouter.Config.Options
import MavlinkRouter.Library.Fallible

/-!
# Filter lists

The texts that the keys of the filter lists accept, and the lists that they become: a key of
ranges takes a comma-separated list of numbers and ranges, and sets its own list and no other one.
-/

namespace MavlinkRouter

open Library (splitOnce splitAll trim parseUnsigned Blank Trimmed IsNumeral IsSignedNumeral
  bind_eq_ok mapM_eq_ok)

/-- An item of a list of ranges: a number or two numbers joined by a hyphen, each of them with
white space around it. -/
inductive IsItem (numeral : List Char → ℕ → Prop) : List Char → ℕ × ℕ → Prop where
  | single {before digits after : List Char} {value : ℕ} (hbefore : Blank before)
      (hafter : Blank after) (hdigits : numeral digits value) :
      IsItem numeral (before ++ digits ++ after) (value, value)
  | range {before lo behind ahead hi after : List Char} {loValue hiValue : ℕ}
      (hbefore : Blank before) (hbehind : Blank behind) (hahead : Blank ahead)
      (hafter : Blank after) (hlo : numeral lo loValue) (hhi : numeral hi hiValue)
      (hle : loValue ≤ hiValue) :
      IsItem numeral (before ++ lo ++ behind ++ '-' :: (ahead ++ hi ++ after)) (loValue, hiValue)

/-- A list of ranges of numbers below a bound: one item or several joined by commas. -/
def IsRangeList (numeral : List Char → ℕ → Prop) (bound : ℕ) (text : List Char)
    (ranges : List (ℕ × ℕ)) : Prop :=
  ∃ items, items ≠ [] ∧ text = [','].intercalate items ∧
    List.Forall₂ (fun item range => IsItem numeral item range ∧ range.2 < bound) items ranges

private theorem IsItem.mono {numeral numeral' : List Char → ℕ → Prop} {item : List Char}
    {range : ℕ × ℕ} (hnumeral : ∀ chars value, numeral chars value → numeral' chars value)
    (h : IsItem numeral item range) : IsItem numeral' item range := by
  cases h with
  | single hbefore hafter hdigits => exact .single hbefore hafter (hnumeral _ _ hdigits)
  | range hbefore hbehind hahead hafter hlo hhi hle =>
    exact .range hbefore hbehind hahead hafter (hnumeral _ _ hlo) (hnumeral _ _ hhi) hle

/-- A range list stays one when more texts are numerals. -/
theorem IsRangeList.mono {numeral numeral' : List Char → ℕ → Prop} {bound : ℕ} {text : List Char}
    {ranges : List (ℕ × ℕ)} (hnumeral : ∀ chars value, numeral chars value → numeral' chars value)
    (h : IsRangeList numeral bound text ranges) : IsRangeList numeral' bound text ranges := by
  obtain ⟨items, hne, htext, hitems⟩ := h
  exact ⟨items, hne, htext, hitems.imp fun item range h => ⟨h.1.mono hnumeral, h.2⟩⟩

section Items

variable {item key : String} {range : ℕ × ℕ}

/-- A number that stands alone. -/
theorem parseRangePairU32_single {digits : List Char} {value : ℕ}
    (hdigits : IsSignedNumeral digits value) (hvalue : value < 2 ^ 32) :
    parseRangePairU32 (.ofList digits) key = .ok (value, value) := by
  have hhyphen : '-' ∉ (String.ofList digits).toList := by
    rw [String.toList_ofList]
    exact hdigits.not_mem (by decide) (by decide)
  have hparse : parseUnsigned (2 ^ 32) (.ofList digits) = some value := by
    rw [Library.parseUnsigned_eq_some_iff, String.toList_ofList]
    exact ⟨hdigits, hvalue⟩
  rw [parseRangePairU32, Library.splitOnce_eq_none hhyphen]
  dsimp only
  rw [hparse]
  change (if value > value then _ else _) = _
  rw [if_neg (Nat.lt_irrefl value)]
  rfl

/-- Two numbers joined by a hyphen. -/
theorem parseRangePairU32_range {lo behind ahead hi : List Char} {loValue hiValue : ℕ}
    (hbehind : Blank behind) (hahead : Blank ahead) (hlo : IsSignedNumeral lo loValue)
    (hhi : IsSignedNumeral hi hiValue) (hle : loValue ≤ hiValue) (hvalue : hiValue < 2 ^ 32) :
    parseRangePairU32 (.ofList (lo ++ behind ++ '-' :: (ahead ++ hi))) key =
      .ok (loValue, hiValue) := by
  have hsplit : splitOnce '-' (.ofList (lo ++ behind ++ '-' :: (ahead ++ hi))) =
      some (.ofList (lo ++ behind), .ofList (ahead ++ hi)) := by
    refine Library.splitOnce_eq_some (by simp only [String.toList_ofList]) ?_
    rw [String.toList_ofList, List.mem_append, not_or]
    exact ⟨hlo.not_mem (by decide) (by decide), hbehind.not_mem (by decide)⟩
  have htrimLo : trim (.ofList (lo ++ behind)) = .ofList lo :=
    Library.trim_eq (show _ = [] ++ lo ++ behind by rw [String.toList_ofList]; rfl)
      Library.blank_nil hbehind hlo.trimmed
  have htrimHi : trim (.ofList (ahead ++ hi)) = .ofList hi :=
    Library.trim_eq (by rw [String.toList_ofList, List.append_nil]) hahead Library.blank_nil
      hhi.trimmed
  have hparse : ∀ {chars value}, IsSignedNumeral chars value → value < 2 ^ 32 →
      parseUnsigned (2 ^ 32) (.ofList chars) = some value := by
    intro chars value hchars hbound
    rw [Library.parseUnsigned_eq_some_iff, String.toList_ofList]
    exact ⟨hchars, hbound⟩
  rw [parseRangePairU32, hsplit]
  dsimp only
  rw [htrimLo, htrimHi, hparse hlo (by omega), hparse hhi hvalue]
  change (if loValue > hiValue then _ else _) = _
  rw [if_neg (by omega)]
  rfl

private theorem le_of_checked {error : SpecError} {pair : ℕ × ℕ}
    (h : (if pair.1 > pair.2 then .error error else .ok pair : Except SpecError (ℕ × ℕ)) =
      .ok range) : pair.1 ≤ pair.2 ∧ pair = range := by
  split at h
  · cases h
  · rename_i hle
    cases h
    exact ⟨Nat.not_lt.mp hle, rfl⟩

/-- What is accepted is an item. -/
theorem isItem_of_parseRangePairU32 (h : parseRangePairU32 (trim item) key = .ok range) :
    IsItem IsSignedNumeral item.toList range ∧ range.2 < 2 ^ 32 := by
  obtain ⟨before, after, hitem, hbefore, hafter⟩ := Library.exists_trim item
  unfold parseRangePairU32 at h
  dsimp only at h
  split at h
  · rename_i loText hiText hsplit
    split at h
    · cases h
    · rename_i lo hlo
      split at h
      · cases h
      · rename_i hi hhi
        obtain ⟨hle, rfl⟩ := le_of_checked h
        obtain ⟨hlo, -⟩ := Library.parseUnsigned_eq_some_iff.mp hlo
        obtain ⟨hhi, hbound⟩ := Library.parseUnsigned_eq_some_iff.mp hhi
        obtain ⟨front, behind, hloText, hfront, hbehind⟩ := Library.exists_trim loText
        obtain ⟨ahead, back, hhiText, hahead, hback⟩ := Library.exists_trim hiText
        have hchars : item.toList = (before ++ front) ++ (trim loText).toList ++ behind ++
            '-' :: (ahead ++ (trim hiText).toList ++ (back ++ after)) := by
          rw [hitem, Library.splitOnce_spec hsplit, hloText, hhiText]
          simp only [List.append_assoc, List.cons_append]
        rw [hchars]
        exact ⟨.range (hbefore.append hfront) hbehind hahead (hback.append hafter) hlo hhi hle,
          hbound⟩
  · split at h
    · cases h
    · rename_i value hvalue
      obtain ⟨-, rfl⟩ := le_of_checked h
      obtain ⟨hdigits, hbound⟩ := Library.parseUnsigned_eq_some_iff.mp hvalue
      rw [hitem]
      exact ⟨.single hbefore hafter hdigits, hbound⟩

/-- An item is accepted. -/
theorem parseRangePairU32_of_isItem {chars : List Char}
    (h : IsItem IsSignedNumeral chars range) (hchars : item.toList = chars)
    (hbound : range.2 < 2 ^ 32) :
    (trim item).isEmpty = false ∧ parseRangePairU32 (trim item) key = .ok range := by
  have hnonempty : ∀ {core : List Char}, core ≠ [] → (String.ofList core).isEmpty = false := by
    intro core hne
    rw [String.isEmpty_eq_false_iff]
    intro hempty
    exact hne (by rw [← String.toList_ofList (l := core), hempty]; rfl)
  cases h with
  | single hbefore hafter hdigits =>
    rw [Library.trim_eq hchars hbefore hafter hdigits.trimmed]
    exact ⟨hnonempty hdigits.mem.1, parseRangePairU32_single hdigits hbound⟩
  | @range before lo behind ahead hi after loValue hiValue hbefore hbehind hahead hafter hlo hhi
      hle =>
    have hcore : Trimmed (lo ++ behind ++ '-' :: (ahead ++ hi)) := by
      constructor
      · rw [List.append_assoc, List.head?_append_of_ne_nil _ hlo.mem.1]
        exact hlo.trimmed.1
      · rw [List.getLast?_append_of_ne_nil _ (List.cons_ne_nil _ _), ← List.cons_append,
          List.getLast?_append_of_ne_nil _ hhi.mem.1]
        exact hhi.trimmed.2
    have hitem : item.toList = before ++ (lo ++ behind ++ '-' :: (ahead ++ hi)) ++ after := by
      rw [hchars]
      simp only [List.append_assoc, List.cons_append]
    rw [Library.trim_eq hitem hbefore hafter hcore]
    refine ⟨hnonempty ?_, parseRangePairU32_range hbehind hahead hlo hhi hle hbound⟩
    exact List.append_ne_nil_of_right_ne_nil _ (List.cons_ne_nil _ _)

end Items

section Lists

variable {text key : String} {ranges : List (ℕ × ℕ)}

/-- A list is accepted if all its items are. -/
theorem parseList_eq_ok_iff {ρ : Type} {parseItem : String → Except SpecError ρ}
    {entries : List ρ} :
    parseList parseItem text key = .ok entries ↔
      List.Forall₂ (fun item entry => (trim item).isEmpty = false ∧
        parseItem (trim item) = .ok entry) (splitAll ',' text) entries := by
  have hitem : ∀ item entry,
      (if (trim item).isEmpty then
          .error (.invalidQueryValue key ("empty entry in '" ++ text ++ "'"))
        else parseItem (trim item)) = .ok entry ↔
      (trim item).isEmpty = false ∧ parseItem (trim item) = .ok entry := by
    intro item entry
    cases (trim item).isEmpty <;> simp
  simp only [parseList, mapM_eq_ok, hitem]

/-- The characters that are no part of an item. -/
theorem IsItem.not_mem {numeral : List Char → ℕ → Prop} {chars : List Char} {range : ℕ × ℕ}
    {char : Char} (h : IsItem numeral chars range)
    (hnumeral : ∀ digits value, numeral digits value → char ∉ digits)
    (hspace : Library.isWhitespace char = false) (hhyphen : char ≠ '-') : char ∉ chars := by
  have hblank : ∀ {blank : List Char}, Blank blank → char ∉ blank := fun h => h.not_mem hspace
  cases h with
  | single hbefore hafter hdigits =>
    simp [hblank hbefore, hnumeral _ _ hdigits, hblank hafter]
  | range hbefore hbehind hahead hafter hlo hhi hle =>
    simp [hblank hbefore, hblank hbehind, hblank hahead, hblank hafter, hnumeral _ _ hlo,
      hnumeral _ _ hhi, hhyphen]

private theorem IsItem.not_mem_comma {chars : List Char} {range : ℕ × ℕ}
    (h : IsItem IsSignedNumeral chars range) : ',' ∉ chars :=
  h.not_mem (fun _ _ hnumeral => hnumeral.not_mem (by decide) (by decide)) (by decide) (by decide)

/-- A text is a list of ranges if the parts between its commas are items. -/
theorem isRangeList_iff {bound : ℕ} :
    IsRangeList IsSignedNumeral bound text.toList ranges ↔
      List.Forall₂ (fun item range => IsItem IsSignedNumeral item.toList range ∧
        range.2 < bound) (splitAll ',' text) ranges := by
  constructor
  · rintro ⟨items, hne, htext, hitems⟩
    have hparts : splitAll ',' text = items.map String.ofList := by
      refine Library.splitAll_eq ?_ (by simpa using hne) ?_
      · rw [htext, List.map_map]
        exact congrArg _ (List.map_id'' (fun part => String.toList_ofList) _).symm
      · intro part hpart
        obtain ⟨item, hitem, rfl⟩ := List.mem_map.mp hpart
        have hcommas := hitems.imp fun item range h => And.intro h.1.not_mem_comma h
        rw [String.toList_ofList]
        exact ((List.forall₂_and_left _ _).mp hcommas).1 item hitem
    rw [hparts, List.forall₂_map_left_iff]
    simpa only [String.toList_ofList] using hitems
  · intro hitems
    refine ⟨(splitAll ',' text).map String.toList, ?_, ?_, ?_⟩
    · simpa using Library.splitAll_ne_nil ',' text
    · exact (Library.intercalate_splitAll ',' text).symm
    · rwa [List.forall₂_map_left_iff]

/-- Entries that are made from ranges, one by one. -/
theorem forall₂_map_iff {ρ σ τ : Type} {related : ρ → σ → Prop} {make : σ → τ} {left : List ρ}
    {right : List τ} :
    List.Forall₂ (fun a c => ∃ b, related a b ∧ c = make b) left right ↔
      ∃ middle, List.Forall₂ related left middle ∧ right = middle.map make := by
  constructor
  · intro h
    induction h with
    | nil => exact ⟨[], .nil, rfl⟩
    | cons hfirst _ ih =>
      obtain ⟨b, hb, rfl⟩ := hfirst
      obtain ⟨middle, hmiddle, rfl⟩ := ih
      exact ⟨b :: middle, .cons hb hmiddle, rfl⟩
  · rintro ⟨middle, hmiddle, rfl⟩
    rw [List.forall₂_map_right_iff]
    exact hmiddle.imp fun a b hab => ⟨b, hab, rfl⟩

/-- The lists of msgid ranges that are accepted. -/
theorem parseMsgidRanges_eq_ok_iff {entries : List MsgIdRange} :
    parseMsgidRanges text key = .ok entries ↔
      ∃ ranges, IsRangeList IsSignedNumeral (2 ^ 32) text.toList ranges ∧
        entries = ranges.map toMsgIdRange := by
  have hitem : ∀ item entry, ((trim item).isEmpty = false ∧
      (parseRangePairU32 (trim item) key).map toMsgIdRange = .ok entry) ↔
      ∃ range, (IsItem IsSignedNumeral item.toList range ∧ range.2 < 2 ^ 32) ∧
        entry = toMsgIdRange range := by
    intro item entry
    rw [Library.map_eq_ok]
    constructor
    · rintro ⟨-, range, hrange, rfl⟩
      exact ⟨range, isItem_of_parseRangePairU32 hrange, rfl⟩
    · rintro ⟨range, ⟨hrange, hbound⟩, rfl⟩
      obtain ⟨hne, hparse⟩ := parseRangePairU32_of_isItem hrange rfl hbound
      exact ⟨hne, range, hparse, rfl⟩
  simp only [isRangeList_iff, ← forall₂_map_iff, parseMsgidRanges, parseList_eq_ok_iff, hitem]

private theorem parseU8Range_eq_ok_iff {item : String} {entry : U8Range} :
    parseU8Range key item = .ok entry ↔
      ∃ range, parseRangePairU32 item key = .ok range ∧ range.1 ≤ 255 ∧ range.2 ≤ 255 ∧
        entry = toU8Range range := by
  constructor
  · intro h
    obtain ⟨range, hrange, h⟩ := bind_eq_ok.mp h
    refine ⟨range, hrange, ?_⟩
    split at h
    · cases h
    · rename_i hsmall
      cases h
      exact ⟨by omega, by omega, rfl⟩
  · rintro ⟨range, hrange, hlo, hhi, rfl⟩
    refine bind_eq_ok.mpr ⟨range, hrange, ?_⟩
    rw [if_neg (by omega)]
    rfl

/-- An item is no empty range. -/
theorem IsItem.le {numeral : List Char → ℕ → Prop} {chars : List Char} {range : ℕ × ℕ}
    (h : IsItem numeral chars range) : range.1 ≤ range.2 := by
  cases h with
  | single => exact le_rfl
  | range _ _ _ _ _ _ hle => exact hle

/-- The lists of id ranges that are accepted. -/
theorem parseU8Ranges_eq_ok_iff {entries : List U8Range} :
    parseU8Ranges text key = .ok entries ↔
      ∃ ranges, IsRangeList IsSignedNumeral (2 ^ 8) text.toList ranges ∧
        entries = ranges.map toU8Range := by
  have hitem : ∀ item entry, ((trim item).isEmpty = false ∧
      parseU8Range key (trim item) = .ok entry) ↔
      ∃ range, (IsItem IsSignedNumeral item.toList range ∧ range.2 < 2 ^ 8) ∧
        entry = toU8Range range := by
    intro item entry
    rw [parseU8Range_eq_ok_iff]
    constructor
    · rintro ⟨-, range, hrange, -, hhi, rfl⟩
      exact ⟨range, ⟨(isItem_of_parseRangePairU32 hrange).1, by omega⟩, rfl⟩
    · rintro ⟨range, ⟨hrange, hbound⟩, rfl⟩
      have hle := hrange.le
      obtain ⟨hne, hparse⟩ := parseRangePairU32_of_isItem hrange rfl (by omega)
      exact ⟨hne, range, hparse, by omega, by omega, rfl⟩
  simp only [isRangeList_iff, ← forall₂_map_iff, parseU8Ranges, parseList_eq_ok_iff, hitem]

end Lists

section Keys

/-- Whether the values of a list are let through or kept out. -/
inductive ListKind where
  | allow
  | block
  deriving DecidableEq, Repr

/-- What a list of ranges is about. -/
inductive RangeAxis where
  | msgid
  | srcSys
  | srcComp
  deriving DecidableEq, Repr

/-- Whether a list is consulted on ingress or on egress. -/
inductive Direction where
  | ingress
  | egress
  deriving DecidableEq, Repr

/-- The keys of the lists of ranges. -/
structure RangeKey where
  kind : ListKind
  axis : RangeAxis
  direction : Direction
  deriving DecidableEq, Repr

/-- The value of a frame on an axis. -/
def RangeAxis.value (msgid : UInt32) (src : NodeId) : RangeAxis → ℕ
  | .msgid => msgid.toNat
  | .srcSys => src.sys.toNat
  | .srcComp => src.comp.toNat

def MsgIdRange.toPair (range : MsgIdRange) : ℕ × ℕ :=
  (range.lo.toNat, range.hi.toNat)

def U8Range.toPair (range : U8Range) : ℕ × ℕ :=
  (range.lo.toNat, range.hi.toNat)

namespace RangeKey

def name : RangeKey → String
  | ⟨.allow, .msgid, .ingress⟩ => "allow_msgid_in"
  | ⟨.block, .msgid, .ingress⟩ => "block_msgid_in"
  | ⟨.allow, .msgid, .egress⟩ => "allow_msgid_out"
  | ⟨.block, .msgid, .egress⟩ => "block_msgid_out"
  | ⟨.allow, .srcSys, .ingress⟩ => "allow_src_sys_in"
  | ⟨.block, .srcSys, .ingress⟩ => "block_src_sys_in"
  | ⟨.allow, .srcSys, .egress⟩ => "allow_src_sys_out"
  | ⟨.block, .srcSys, .egress⟩ => "block_src_sys_out"
  | ⟨.allow, .srcComp, .ingress⟩ => "allow_src_comp_in"
  | ⟨.block, .srcComp, .ingress⟩ => "block_src_comp_in"
  | ⟨.allow, .srcComp, .egress⟩ => "allow_src_comp_out"
  | ⟨.block, .srcComp, .egress⟩ => "block_src_comp_out"

/-- The values of the axis are below this bound. -/
def bound (key : RangeKey) : ℕ :=
  match key.axis with
  | .msgid => 2 ^ 32
  | .srcSys => 2 ^ 8
  | .srcComp => 2 ^ 8

/-- The ranges of the key's list. -/
def get (filters : Filters) : RangeKey → List (ℕ × ℕ)
  | ⟨.allow, .msgid, .ingress⟩ => filters.allowMsgidIn.map MsgIdRange.toPair
  | ⟨.block, .msgid, .ingress⟩ => filters.blockMsgidIn.map MsgIdRange.toPair
  | ⟨.allow, .msgid, .egress⟩ => filters.allowMsgidOut.map MsgIdRange.toPair
  | ⟨.block, .msgid, .egress⟩ => filters.blockMsgidOut.map MsgIdRange.toPair
  | ⟨.allow, .srcSys, .ingress⟩ => filters.allowSrcSysIn.map U8Range.toPair
  | ⟨.block, .srcSys, .ingress⟩ => filters.blockSrcSysIn.map U8Range.toPair
  | ⟨.allow, .srcSys, .egress⟩ => filters.allowSrcSysOut.map U8Range.toPair
  | ⟨.block, .srcSys, .egress⟩ => filters.blockSrcSysOut.map U8Range.toPair
  | ⟨.allow, .srcComp, .ingress⟩ => filters.allowSrcCompIn.map U8Range.toPair
  | ⟨.block, .srcComp, .ingress⟩ => filters.blockSrcCompIn.map U8Range.toPair
  | ⟨.allow, .srcComp, .egress⟩ => filters.allowSrcCompOut.map U8Range.toPair
  | ⟨.block, .srcComp, .egress⟩ => filters.blockSrcCompOut.map U8Range.toPair

/-- The filters with another list of ranges for the key. -/
def set (filters : Filters) (ranges : List (ℕ × ℕ)) : RangeKey → Filters
  | ⟨.allow, .msgid, .ingress⟩ => { filters with allowMsgidIn := ranges.map toMsgIdRange }
  | ⟨.block, .msgid, .ingress⟩ => { filters with blockMsgidIn := ranges.map toMsgIdRange }
  | ⟨.allow, .msgid, .egress⟩ => { filters with allowMsgidOut := ranges.map toMsgIdRange }
  | ⟨.block, .msgid, .egress⟩ => { filters with blockMsgidOut := ranges.map toMsgIdRange }
  | ⟨.allow, .srcSys, .ingress⟩ => { filters with allowSrcSysIn := ranges.map toU8Range }
  | ⟨.block, .srcSys, .ingress⟩ => { filters with blockSrcSysIn := ranges.map toU8Range }
  | ⟨.allow, .srcSys, .egress⟩ => { filters with allowSrcSysOut := ranges.map toU8Range }
  | ⟨.block, .srcSys, .egress⟩ => { filters with blockSrcSysOut := ranges.map toU8Range }
  | ⟨.allow, .srcComp, .ingress⟩ => { filters with allowSrcCompIn := ranges.map toU8Range }
  | ⟨.block, .srcComp, .ingress⟩ => { filters with blockSrcCompIn := ranges.map toU8Range }
  | ⟨.allow, .srcComp, .egress⟩ => { filters with allowSrcCompOut := ranges.map toU8Range }
  | ⟨.block, .srcComp, .egress⟩ => { filters with blockSrcCompOut := ranges.map toU8Range }

/-- No two range keys share a name. -/
theorem name_injective : Function.Injective name := by
  rintro ⟨kind, axis, direction⟩ ⟨kind', axis', direction'⟩ h
  revert h
  cases kind <;> cases axis <;> cases direction <;> cases kind' <;> cases axis' <;>
    cases direction' <;> decide

end RangeKey

/-- The keys of the lists of endpoint names. -/
def ListKind.nameKey : ListKind → String
  | .allow => "allow_src_endpoint_out"
  | .block => "block_src_endpoint_out"

/-- The names of the key's list. -/
def ListKind.names (filters : Filters) : ListKind → List String
  | .allow => filters.allowSrcEndpointOut
  | .block => filters.blockSrcEndpointOut

/-- The filters with another list of names for the key. -/
def ListKind.setNames (filters : Filters) (names : List String) : ListKind → Filters
  | .allow => { filters with allowSrcEndpointOut := names }
  | .block => { filters with blockSrcEndpointOut := names }

variable {filters filters' : Filters} {text key : String} {ranges : List (ℕ × ℕ)}

/-- What is left of a list that is parsed and then set. -/
theorem outcome_assign {ρ : Type} (filters : Filters) (parsed : Except SpecError ρ)
    (set : ρ → Filters) :
    Filters.outcome (filters.assign parsed set) = parsed.map fun list => some (set list) := by
  cases parsed <;> rfl

/-- A list that is parsed and then set. -/
theorem outcome_assign_eq_ok_iff {ρ : Type} {parsed : Except SpecError (List ρ)} {make : ℕ × ℕ → ρ}
    {bound : ℕ} {set : List ρ → Filters}
    (hparsed : ∀ entries, parsed = .ok entries ↔
      ∃ ranges, IsRangeList IsSignedNumeral bound text.toList ranges ∧
        entries = ranges.map make) :
    Filters.outcome (filters.assign parsed set) = .ok (some filters') ↔
      ∃ ranges, IsRangeList IsSignedNumeral bound text.toList ranges ∧
        filters' = set (ranges.map make) := by
  rw [outcome_assign, Library.map_eq_ok]
  constructor
  · rintro ⟨list, hlist, hset⟩
    obtain ⟨ranges, hranges, rfl⟩ := (hparsed list).mp hlist
    exact ⟨ranges, hranges, (Option.some.inj hset).symm⟩
  · rintro ⟨ranges, hranges, rfl⟩
    exact ⟨_, (hparsed _).mpr ⟨ranges, hranges, rfl⟩, rfl⟩

/-- What a key of a list of ranges accepts, and what it sets. -/
theorem apply_rangeKey_eq_ok_iff {key : RangeKey} :
    filters.apply key.name text = .ok (some filters') ↔
      ∃ ranges, IsRangeList IsSignedNumeral key.bound text.toList ranges ∧
        filters' = key.set filters ranges := by
  obtain ⟨kind, axis, direction⟩ := key
  cases axis with
  | msgid =>
    cases kind <;> cases direction <;>
      exact outcome_assign_eq_ok_iff fun _ => parseMsgidRanges_eq_ok_iff
  | srcSys =>
    cases kind <;> cases direction <;>
      exact outcome_assign_eq_ok_iff fun _ => parseU8Ranges_eq_ok_iff
  | srcComp =>
    cases kind <;> cases direction <;>
      exact outcome_assign_eq_ok_iff fun _ => parseU8Ranges_eq_ok_iff

/-- The texts that the keys of ranges accept: comma-separated numbers and ranges, where a number
is a string of decimal digits, after a plus sign or not. -/
theorem filter_grammar_exact (filters : Filters) (key : RangeKey) (text : String) :
    (∃ filters', filters.apply key.name text = .ok (some filters')) ↔
      ∃ ranges, IsRangeList IsSignedNumeral key.bound text.toList ranges := by
  constructor
  · rintro ⟨filters', h⟩
    obtain ⟨ranges, hranges, -⟩ := apply_rangeKey_eq_ok_iff.mp h
    exact ⟨ranges, hranges⟩
  · rintro ⟨ranges, hranges⟩
    exact ⟨_, apply_rangeKey_eq_ok_iff.mpr ⟨ranges, hranges, rfl⟩⟩

/-- A number with a plus sign is accepted, but it is no string of digits. -/
theorem plus_sign_accepted :
    (∃ filters', ({} : Filters).apply (RangeKey.name ⟨.block, .msgid, .ingress⟩) "+5" =
      .ok (some filters')) ∧
    ¬ ∃ ranges, IsRangeList IsNumeral (RangeKey.bound ⟨.block, .msgid, .ingress⟩) "+5".toList
      ranges := by
  constructor
  · exact ⟨RangeKey.set {} [(5, 5)] ⟨.block, .msgid, .ingress⟩, by decide +kernel⟩
  · rintro ⟨ranges, items, -, htext, hitems⟩
    have hplus : ∀ item ∈ items, '+' ∉ item := by
      refine ((List.forall₂_and_left _ _).mp (hitems.imp fun item range h => ⟨?_, h⟩)).1
      refine h.1.not_mem (fun digits value hdigits hmem => ?_) (by decide) (by decide)
      exact absurd (hdigits.2.1 '+' hmem) (by decide)
    have hmem : '+' ∈ [','].intercalate items := htext ▸ (by decide)
    obtain ⟨item, hitem, hmem⟩ := (Library.mem_intercalate_iff (by decide)).mp hmem
    exact hplus item hitem hmem

/-- The ranges of a list of numbers below a bound. -/
theorem IsRangeList.lt {numeral : List Char → ℕ → Prop} {bound : ℕ} {chars : List Char}
    (h : IsRangeList numeral bound chars ranges) :
    ∀ range ∈ ranges, range.1 < bound ∧ range.2 < bound := by
  obtain ⟨items, -, -, hitems⟩ := h
  intro range hrange
  have hbounds := hitems.flip.imp fun range item h =>
    And.intro (show range.1 < bound ∧ range.2 < bound from ⟨h.1.le.trans_lt h.2, h.2⟩) h
  exact ((List.forall₂_and_left _ _).mp hbounds).1 range hrange

/-- A range list is not empty. -/
theorem IsRangeList.ne_nil {numeral : List Char → ℕ → Prop} {bound : ℕ} {chars : List Char}
    (h : IsRangeList numeral bound chars ranges) : ranges ≠ [] := by
  obtain ⟨items, hne, -, hitems⟩ := h
  rintro rfl
  exact hne (List.forall₂_nil_right_iff.mp hitems)

/-- A text says one list of ranges. -/
theorem IsRangeList.unique {bound : ℕ} {ranges' : List (ℕ × ℕ)} (hbound : bound ≤ 2 ^ 32)
    (h : IsRangeList IsSignedNumeral bound text.toList ranges)
    (h' : IsRangeList IsSignedNumeral bound text.toList ranges') : ranges = ranges' := by
  have hparse : ∀ {ranges}, IsRangeList IsSignedNumeral bound text.toList ranges →
      List.Forall₂ (fun item range => parseRangePairU32 (trim item) "" = .ok range)
        (splitAll ',' text) ranges :=
    fun h => (isRangeList_iff.mp h).imp fun item range hitem =>
      (parseRangePairU32_of_isItem hitem.1 rfl (hitem.2.trans_le hbound)).2
  refine List.right_unique_forall₂' ?_ (hparse h) (hparse h')
  intro item range range' hrange hrange'
  exact Except.ok.inj (hrange.symm.trans hrange')

/-- All bounds fit into a message id. -/
theorem RangeKey.bound_le (key : RangeKey) : key.bound ≤ 2 ^ 32 := by
  unfold bound
  cases key.axis <;> decide

/-- Ranges that are stored in another form and read back. -/
theorem map_map_of_leftInverse {ρ : Type} {store : ℕ × ℕ → ρ} {read : ρ → ℕ × ℕ}
    (h : ∀ range ∈ ranges, read (store range) = range) :
    (ranges.map store).map read = ranges := by
  rw [List.map_map]
  exact (List.map_congr_left h).trans (List.map_id ranges)

private theorem map_toPair_toMsgIdRange
    (h : ∀ range ∈ ranges, range.1 < 2 ^ 32 ∧ range.2 < 2 ^ 32) :
    (ranges.map toMsgIdRange).map MsgIdRange.toPair = ranges := by
  refine map_map_of_leftInverse fun range hrange => Prod.ext ?_ ?_
  · exact UInt32.toNat_ofNat_of_lt' (h range hrange).1
  · exact UInt32.toNat_ofNat_of_lt' (h range hrange).2

private theorem map_toPair_toU8Range (h : ∀ range ∈ ranges, range.1 < 2 ^ 8 ∧ range.2 < 2 ^ 8) :
    (ranges.map toU8Range).map U8Range.toPair = ranges := by
  refine map_map_of_leftInverse fun range hrange => Prod.ext ?_ ?_
  · exact UInt8.toNat_ofNat_of_lt' (h range hrange).1
  · exact UInt8.toNat_ofNat_of_lt' (h range hrange).2

namespace RangeKey

/-- The list of a key after it has been set. -/
theorem get_set_self (key : RangeKey)
    (h : ∀ range ∈ ranges, range.1 < key.bound ∧ range.2 < key.bound) :
    key.get (key.set filters ranges) = ranges := by
  obtain ⟨kind, axis, direction⟩ := key
  cases axis with
  | msgid => cases kind <;> cases direction <;> exact map_toPair_toMsgIdRange h
  | srcSys => cases kind <;> cases direction <;> exact map_toPair_toU8Range h
  | srcComp => cases kind <;> cases direction <;> exact map_toPair_toU8Range h

/-- The list of another key. -/
theorem get_set_of_ne {key other : RangeKey} (h : other ≠ key) :
    other.get (key.set filters ranges) = other.get filters := by
  obtain ⟨kind, axis, direction⟩ := key
  obtain ⟨kind', axis', direction'⟩ := other
  cases kind <;> cases axis <;> cases direction <;> cases kind' <;> cases axis' <;>
    cases direction' <;> first | rfl | exact absurd rfl h

/-- Setting ranges keeps the names. -/
theorem names_set (key : RangeKey) (kind : ListKind) :
    kind.names (key.set filters ranges) = kind.names filters := by
  obtain ⟨kind', axis, direction⟩ := key
  cases kind' <;> cases axis <;> cases direction <;> cases kind <;> rfl

/-- Setting names keeps the ranges. -/
theorem get_setNames (key : RangeKey) (kind : ListKind) (names : List String) :
    key.get (kind.setNames filters names) = key.get filters := by
  obtain ⟨kind', axis, direction⟩ := key
  cases kind' <;> cases axis <;> cases direction <;> cases kind <;> rfl

end RangeKey

/-- What a key of a list of names sets. -/
theorem apply_nameKey_eq_ok_iff {kind : ListKind} :
    filters.apply kind.nameKey text = .ok (some filters') ↔
      ∃ names, parseEndpointNameList text kind.nameKey = .ok names ∧
        filters' = kind.setNames filters names := by
  have happly : filters.apply kind.nameKey text =
      (parseEndpointNameList text kind.nameKey).map fun names =>
        some (kind.setNames filters names) := by
    cases kind <;> exact outcome_assign _ _ _
  rw [happly, Library.map_eq_ok]
  refine exists_congr fun names => and_congr_right fun _ => ?_
  rw [Option.some.injEq, eq_comm]

/-- The keys of all the filter lists. -/
inductive FilterKey where
  | range (key : RangeKey)
  | names (kind : ListKind)
  deriving DecidableEq, Repr

def FilterKey.name : FilterKey → String
  | .range key => key.name
  | .names kind => kind.nameKey

/-- No two filter keys share a name. -/
theorem FilterKey.name_injective : Function.Injective name := by
  rintro (⟨kind, axis, direction⟩ | kind) (⟨kind', axis', direction'⟩ | kind') h <;> revert h
  · intro h
    exact congrArg FilterKey.range (RangeKey.name_injective h)
  · cases kind <;> cases axis <;> cases direction <;> cases kind' <;> decide
  · cases kind <;> cases kind' <;> cases axis' <;> cases direction' <;> decide
  · cases kind <;> cases kind' <;> decide

/-- The list of a key is what a text says, or empty if there is none. -/
def FilterKey.Reflects (filters : Filters) : FilterKey → Option String → Prop
  | .range key, none => key.get filters = []
  | .range key, some text => IsRangeList IsSignedNumeral key.bound text.toList (key.get filters)
  | .names kind, none => kind.names filters = []
  | .names kind, some text => kind.names filters = (splitAll ',' text).map trim

/-- What was written under a key, seen from the filters. -/
def Filters.Reflects (filters : Filters) (key : String) (written : Option String) : Prop :=
  ∀ accepted : FilterKey, accepted.name = key → accepted.Reflects filters written

/-- At first nothing has been written. -/
theorem Filters.reflects_default (key : String) : Filters.Reflects {} key none := by
  rintro (⟨kind, axis, direction⟩ | kind) -
  · cases kind <;> cases axis <;> cases direction <;> rfl
  · cases kind <;> rfl

/-- The keys that are accepted. -/
theorem exists_key_of_apply (h : filters.apply key text = .ok (some filters')) :
    ∃ accepted : FilterKey, key = accepted.name := by
  unfold Filters.apply Filters.applyMut at h
  split at h
  · exact ⟨.range ⟨.allow, .msgid, .ingress⟩, rfl⟩
  · exact ⟨.range ⟨.block, .msgid, .ingress⟩, rfl⟩
  · exact ⟨.range ⟨.allow, .msgid, .egress⟩, rfl⟩
  · exact ⟨.range ⟨.block, .msgid, .egress⟩, rfl⟩
  · exact ⟨.range ⟨.allow, .srcSys, .ingress⟩, rfl⟩
  · exact ⟨.range ⟨.block, .srcSys, .ingress⟩, rfl⟩
  · exact ⟨.range ⟨.allow, .srcSys, .egress⟩, rfl⟩
  · exact ⟨.range ⟨.block, .srcSys, .egress⟩, rfl⟩
  · exact ⟨.range ⟨.allow, .srcComp, .ingress⟩, rfl⟩
  · exact ⟨.range ⟨.block, .srcComp, .ingress⟩, rfl⟩
  · exact ⟨.range ⟨.allow, .srcComp, .egress⟩, rfl⟩
  · exact ⟨.range ⟨.block, .srcComp, .egress⟩, rfl⟩
  · exact ⟨.names .allow, rfl⟩
  · exact ⟨.names .block, rfl⟩
  · cases h

/-- A key of a filter list is never passed over. -/
theorem apply_name_ne_none (key : FilterKey) : filters.apply key.name text ≠ .ok none := by
  have hmap : ∀ {ρ : Type} (parsed : Except SpecError ρ) (set : ρ → Filters),
      Filters.outcome (filters.assign parsed set) ≠ .ok none := by
    intro ρ parsed set h
    rw [outcome_assign] at h
    obtain ⟨list, -, hlist⟩ := Library.map_eq_ok.mp h
    cases hlist
  rcases key with ⟨kind, axis, direction⟩ | kind
  · cases kind <;> cases axis <;> cases direction <;> exact hmap _ _
  · cases kind <;> exact hmap _ _

/-- The entries of a list of names. -/
theorem parseEndpointNameList_eq_ok {names : List String}
    (h : parseEndpointNameList text key = .ok names) :
    names = (splitAll ',' text).map trim := by
  rw [parseEndpointNameList, parseList_eq_ok_iff] at h
  generalize splitAll ',' text = items at h ⊢
  induction h with
  | nil => rfl
  | cons hitem _ ih =>
    obtain ⟨_, -, hentry⟩ := Library.map_eq_ok.mp hitem.2
    rw [List.map_cons, ← ih, hentry]

/-- An accepted text sets its own list and no other one. -/
theorem reflects_of_apply {key : FilterKey}
    (h : filters.apply key.name text = .ok (some filters')) :
    key.Reflects filters' (some text) ∧
      ∀ other ≠ key, ∀ said, other.Reflects filters said → other.Reflects filters' said := by
  cases key with
  | range key =>
    obtain ⟨ranges, hranges, rfl⟩ := apply_rangeKey_eq_ok_iff.mp h
    constructor
    · change IsRangeList _ _ _ (key.get (key.set filters ranges))
      rwa [key.get_set_self hranges.lt]
    · intro other hother said hsaid
      cases other with
      | range other =>
        have hne : other ≠ key := fun hsame => hother (congrArg _ hsame)
        cases said <;> simpa only [FilterKey.Reflects, RangeKey.get_set_of_ne hne] using hsaid
      | names kind => cases said <;> simpa only [FilterKey.Reflects, key.names_set] using hsaid
  | names kind =>
    obtain ⟨names, hnames, rfl⟩ := apply_nameKey_eq_ok_iff.mp h
    constructor
    · have hself : kind.names (kind.setNames filters names) = names := by cases kind <;> rfl
      exact hself.trans (parseEndpointNameList_eq_ok hnames)
    · intro other hother said hsaid
      cases other with
      | range other =>
        cases said <;> simpa only [FilterKey.Reflects, other.get_setNames] using hsaid
      | names other =>
        have hne : other ≠ kind := fun hsame => hother (congrArg _ hsame)
        have hother : other.names (kind.setNames filters names) = other.names filters := by
          cases other <;> cases kind <;> first | rfl | exact absurd rfl hne
        cases said <;> simpa only [FilterKey.Reflects, hother] using hsaid

/-- Whether a text is accepted does not depend on the lists that are there. -/
theorem apply_accepts (h : filters.apply key text = .ok (some filters')) (other : Filters) :
    ∃ other', other.apply key text = .ok (some other') := by
  obtain ⟨accepted, rfl⟩ := exists_key_of_apply h
  cases accepted with
  | range accepted =>
    obtain ⟨ranges, hranges, -⟩ := apply_rangeKey_eq_ok_iff.mp h
    exact ⟨_, apply_rangeKey_eq_ok_iff.mpr ⟨ranges, hranges, rfl⟩⟩
  | names kind =>
    obtain ⟨names, hnames, -⟩ := apply_nameKey_eq_ok_iff.mp h
    exact ⟨_, apply_nameKey_eq_ok_iff.mpr ⟨names, hnames, rfl⟩⟩

private theorem MsgIdRange.toPair_injective : Function.Injective toPair := by
  rintro ⟨lo, hi⟩ ⟨lo', hi'⟩ h
  obtain ⟨hlo, hhi⟩ := Prod.mk.inj h
  exact congrArg₂ MsgIdRange.mk (UInt32.toNat_inj.mp hlo) (UInt32.toNat_inj.mp hhi)

private theorem U8Range.toPair_injective : Function.Injective toPair := by
  rintro ⟨lo, hi⟩ ⟨lo', hi'⟩ h
  obtain ⟨hlo, hhi⟩ := Prod.mk.inj h
  exact congrArg₂ U8Range.mk (UInt8.toNat_inj.mp hlo) (UInt8.toNat_inj.mp hhi)

attribute [ext] Filters

/-- The filters are given by their lists. -/
theorem Filters.eq_of_reflects
    (h : ∀ key : FilterKey, ∃ written, key.Reflects filters written ∧
      key.Reflects filters' written) : filters = filters' := by
  have hranges : ∀ key : RangeKey, key.get filters = key.get filters' := by
    intro key
    obtain ⟨written, hfirst, hsecond⟩ := h (.range key)
    cases written with
    | none => exact Eq.trans hfirst (Eq.symm hsecond)
    | some text => exact IsRangeList.unique key.bound_le hfirst hsecond
  have hnames : ∀ kind : ListKind, kind.names filters = kind.names filters' := by
    intro kind
    obtain ⟨written, hfirst, hsecond⟩ := h (.names kind)
    cases written with
    | none => exact Eq.trans hfirst (Eq.symm hsecond)
    | some text => exact Eq.trans hfirst (Eq.symm hsecond)
  have hmsgid := List.map_injective_iff.mpr MsgIdRange.toPair_injective
  have hid := List.map_injective_iff.mpr U8Range.toPair_injective
  apply Filters.ext
  · exact hmsgid (hranges ⟨.allow, .msgid, .ingress⟩)
  · exact hmsgid (hranges ⟨.block, .msgid, .ingress⟩)
  · exact hmsgid (hranges ⟨.allow, .msgid, .egress⟩)
  · exact hmsgid (hranges ⟨.block, .msgid, .egress⟩)
  · exact hid (hranges ⟨.allow, .srcSys, .ingress⟩)
  · exact hid (hranges ⟨.block, .srcSys, .ingress⟩)
  · exact hid (hranges ⟨.allow, .srcSys, .egress⟩)
  · exact hid (hranges ⟨.block, .srcSys, .egress⟩)
  · exact hid (hranges ⟨.allow, .srcComp, .ingress⟩)
  · exact hid (hranges ⟨.block, .srcComp, .ingress⟩)
  · exact hid (hranges ⟨.allow, .srcComp, .egress⟩)
  · exact hid (hranges ⟨.block, .srcComp, .egress⟩)
  · exact hnames .allow
  · exact hnames .block

end Keys

end MavlinkRouter
