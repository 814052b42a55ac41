import MavlinkRouter.Build.Dialect
import MavlinkRouter.Library.Text

/-!
# Array types

The type of a field is a name or a name and a length in brackets. The build script looks for the
first opening bracket and for the first closing one, wherever they are, and never at what follows.
-/

namespace MavlinkRouter.Build

open Library (find slice parseUnsigned IsNumeral IsSignedNumeral)

inductive ParseArrayError where
  | malformed (typeName : String)
  | badLength (typeName : String)
  | zeroLength (typeName : String)
  deriving DecidableEq, Repr

/-- The array type of the given parts. -/
def readLength (typeName elem digits : String) : Except ParseArrayError (String × UInt8) :=
  match parseUnsigned (2 ^ 8) digits with
  | none => .error (.badLength typeName)
  | some len => if len = 0 then .error (.zeroLength typeName) else .ok (elem, .ofNat len)

/-- The element type and the array length of a type, which is 0 for scalars. A slice may panic. -/
def parseArraySuffix (typeName : String) : Option (Except ParseArrayError (String × UInt8)) :=
  match find '[' typeName with
  | none => return .ok (typeName, 0)
  | some lb =>
    match find ']' typeName with
    | none => return .error (.malformed typeName)
    | some rb => do
      let elem ← slice typeName 0 lb
      let digits ← slice typeName (lb + 1) rb
      return readLength typeName elem digits

/-- The texts that are types, given what a numeral is: no brackets, or a text without brackets and
then a numeral from 1 to 255 in brackets. -/
def IsType (numeral : List Char → ℕ → Prop) (typeName elem : String) (length : UInt8) : Prop :=
  ('[' ∉ typeName.toList ∧ ']' ∉ typeName.toList ∧ elem = typeName ∧ length = 0) ∨
    ∃ digits, typeName.toList = elem.toList ++ '[' :: (digits ++ [']']) ∧
      '[' ∉ elem.toList ∧ ']' ∉ elem.toList ∧ numeral digits length.toNat ∧ 0 < length

/-- The script does not panic on a text and accepts it if and only if it is a type. -/
def ParsesExactly (numeral : List Char → ℕ → Prop) (typeName : String) : Prop :=
  (∃ result, parseArraySuffix typeName = some result) ∧
    ∀ elem length, parseArraySuffix typeName = some (.ok (elem, length)) ↔
      IsType numeral typeName elem length

/-- A closing bracket comes before any opening one. -/
def ClosesFirst (typeName : String) : Prop :=
  ∃ before after, typeName.toList = before ++ ']' :: after ∧ '[' ∉ before

/-- A text without brackets and a length from 1 to 255 in brackets, with more text after them. -/
def HasTrailingText (typeName : String) : Prop :=
  ∃ elem digits value rest, typeName.toList = elem ++ '[' :: (digits ++ ']' :: rest) ∧
    '[' ∉ elem ∧ ']' ∉ elem ∧ IsSignedNumeral digits value ∧ 0 < value ∧ value < 2 ^ 8 ∧ rest ≠ []

/-- An array type whose length has a plus sign. -/
def HasPlusSign (typeName : String) : Prop :=
  ∃ elem digits value, typeName.toList = elem ++ '[' :: ('+' :: digits ++ [']']) ∧
    '[' ∉ elem ∧ ']' ∉ elem ∧ IsNumeral digits value ∧ 0 < value ∧ value < 2 ^ 8

section Brackets

variable {typeName elem : String} {length : UInt8}

/-- How the brackets of a text can lie. -/
theorem brackets_cases (chars : List Char) :
    '[' ∉ chars ∨ ('[' ∈ chars ∧ ']' ∉ chars) ∨
      (∃ before middle after, chars = before ++ ']' :: (middle ++ '[' :: after) ∧
        '[' ∉ before ∧ ']' ∉ before ∧ '[' ∉ middle) ∨
      ∃ elem digits rest, chars = elem ++ '[' :: (digits ++ ']' :: rest) ∧
        '[' ∉ elem ∧ ']' ∉ elem ∧ ']' ∉ digits := by
  by_cases hopen : '[' ∈ chars
  · obtain ⟨front, back, rfl, hfront⟩ := List.eq_append_cons_of_mem hopen
    by_cases hclose : ']' ∈ front
    · obtain ⟨before, middle, rfl, hbefore⟩ := List.eq_append_cons_of_mem hclose
      simp only [List.mem_append, List.mem_cons, not_or] at hfront
      refine .inr (.inr (.inl ⟨before, middle, back, ?_, hfront.1, hbefore, hfront.2.2⟩))
      simp only [List.append_assoc, List.cons_append]
    · by_cases hback : ']' ∈ back
      · obtain ⟨digits, rest, rfl, hdigits⟩ := List.eq_append_cons_of_mem hback
        exact .inr (.inr (.inr ⟨front, digits, rest, rfl, hfront, hclose, hdigits⟩))
      · refine .inr (.inl ⟨hopen, ?_⟩)
        simp [hclose, hback]
  · exact .inl hopen

/-- A type without a bracket is a scalar. -/
theorem parseArraySuffix_scalar (h : '[' ∉ typeName.toList) :
    parseArraySuffix typeName = some (.ok (typeName, 0)) := by
  rw [parseArraySuffix, Library.find_eq_none h]
  rfl

private theorem parseArraySuffix_unclosed
    (hopen : '[' ∈ typeName.toList) (hclose : ']' ∉ typeName.toList) :
    parseArraySuffix typeName = some (.error (.malformed typeName)) := by
  obtain ⟨front, back, htext, hfront⟩ := List.eq_append_cons_of_mem hopen
  rw [parseArraySuffix, Library.find_eq_some htext hfront, Library.find_eq_none hclose]
  rfl

/-- The script panics on brackets in the wrong order. -/
theorem parseArraySuffix_reversed {before middle after : List Char}
    (htext : typeName.toList = before ++ ']' :: (middle ++ '[' :: after))
    (hopen : '[' ∉ before) (hclose : ']' ∉ before) (hmiddle : '[' ∉ middle) :
    parseArraySuffix typeName = none := by
  have hfront : typeName.toList = (before ++ ']' :: middle) ++ '[' :: after := by
    rw [htext, List.append_assoc, List.cons_append]
  have hnone : '[' ∉ before ++ ']' :: middle := by
    simp [hopen, hmiddle]
  have hslice : slice typeName ((before ++ ']' :: middle).length + 1) before.length = none := by
    refine Library.slice_eq_none ?_
    rw [List.length_append]
    omega
  rw [parseArraySuffix, Library.find_eq_some hfront hnone, Library.find_eq_some htext hclose]
  dsimp only
  rw [hslice]
  cases slice typeName 0 (before ++ ']' :: middle).length <;> rfl

/-- When the text between the brackets is a length. -/
theorem readLength_eq_ok_iff {digits : String} {result : String × UInt8} :
    readLength typeName elem digits = .ok result ↔
      result.1 = elem ∧ IsSignedNumeral digits.toList result.2.toNat ∧ 0 < result.2 := by
  have hread : ∀ value, parseUnsigned (2 ^ 8) digits = some value ↔
      IsSignedNumeral digits.toList value ∧ value < 2 ^ 8 :=
    fun _ => Library.parseUnsigned_eq_some_iff
  have hsome : IsSignedNumeral digits.toList result.2.toNat →
      parseUnsigned (2 ^ 8) digits = some result.2.toNat :=
    fun hnumeral => (hread _).mpr ⟨hnumeral, result.2.toNat_lt⟩
  unfold readLength
  cases hparse : parseUnsigned (2 ^ 8) digits with
  | none =>
    refine iff_of_false (by simp) ?_
    rintro ⟨-, hnumeral, -⟩
    rw [hsome hnumeral] at hparse
    cases hparse
  | some len =>
    obtain ⟨hnumeral, hbound⟩ := (hread len).mp hparse
    have hlen : (UInt8.ofNat len).toNat = len := UInt8.toNat_ofNat_of_lt' hbound
    by_cases hzero : len = 0
    · refine iff_of_false (by simp [hzero]) ?_
      rintro ⟨-, hresult, hpos⟩
      rw [hsome hresult, hzero, Option.some.injEq] at hparse
      rw [UInt8.lt_iff_toNat_lt, hparse] at hpos
      exact Nat.lt_irrefl 0 hpos
    · dsimp only
      rw [if_neg hzero]
      constructor
      · rintro ⟨⟩
        rw [UInt8.lt_iff_toNat_lt, hlen]
        exact ⟨rfl, hnumeral, Nat.pos_of_ne_zero hzero⟩
      · rintro ⟨helem, hresult, -⟩
        rw [hsome hresult, Option.some.injEq] at hparse
        rw [← helem, ← hparse, UInt8.ofNat_toNat]

/-- The length is read between the brackets, whatever follows them. -/
theorem parseArraySuffix_array {chars digits rest : List Char}
    (htext : typeName.toList = chars ++ '[' :: (digits ++ ']' :: rest))
    (hopen : '[' ∉ chars) (hclose : ']' ∉ chars) (hdigits : ']' ∉ digits) :
    parseArraySuffix typeName = some (readLength typeName (.ofList chars) (.ofList digits)) := by
  have hclosing : typeName.toList = (chars ++ '[' :: digits) ++ ']' :: rest := by
    rw [htext, List.append_assoc, List.cons_append]
  have hbefore : ']' ∉ chars ++ '[' :: digits := by
    simp [hclose, hdigits]
  have helem : slice typeName 0 chars.length = some (.ofList chars) := by
    have hslice : slice typeName 0 (0 + chars.length) = _ :=
      Library.slice_eq_some (show typeName.toList = [] ++ chars ++ _ from htext)
    rwa [Nat.zero_add] at hslice
  have hlength : slice typeName (chars.length + 1) (chars ++ '[' :: digits).length =
      some (.ofList digits) := by
    have hparts : typeName.toList = (chars ++ ['[']) ++ digits ++ ']' :: rest := by
      rw [htext]
      simp only [List.append_assoc, List.cons_append, List.nil_append]
    have hslice := Library.slice_eq_some hparts
    rwa [← List.length_append, List.append_assoc, List.singleton_append, List.length_append,
      List.length_singleton] at hslice
  rw [parseArraySuffix, Library.find_eq_some htext hopen, Library.find_eq_some hclosing hbefore]
  dsimp only
  rw [helem, hlength]
  rfl

private theorem not_closesFirst {chars tail : List Char}
    (htext : typeName.toList = chars ++ '[' :: tail)
    (hclose : ']' ∉ chars) : ¬ ClosesFirst typeName := by
  rintro ⟨before, after, hbefore, hopen⟩
  rw [htext] at hbefore
  rcases List.append_eq_append_iff.mp hbefore with ⟨middle, rfl, hmiddle⟩ | ⟨middle, rfl, hmiddle⟩
  · cases middle with
    | nil => exact absurd (List.cons.inj hmiddle).1 (by decide)
    | cons char middle =>
      obtain ⟨rfl, -⟩ := List.cons.inj hmiddle
      exact hopen (List.mem_append_right _ List.mem_cons_self)
  · cases middle with
    | nil => exact absurd (List.cons.inj hmiddle).1 (by decide)
    | cons char middle =>
      obtain ⟨rfl, -⟩ := List.cons.inj hmiddle
      exact hclose (List.mem_append_right _ List.mem_cons_self)

end Brackets

section Exactness

variable {typeName elem : String} {length : UInt8} {numeral : List Char → ℕ → Prop}

/-- A text that is read as an array type and is none. -/
def Misread (numeral : List Char → ℕ → Prop) (typeName : String) : Prop :=
  ∃ elem digits value rest, typeName.toList = elem ++ '[' :: (digits ++ ']' :: rest) ∧
    '[' ∉ elem ∧ ']' ∉ elem ∧ IsSignedNumeral digits value ∧ 0 < value ∧ value < 2 ^ 8 ∧
    (rest ≠ [] ∨ ¬ numeral digits value)

/-- A numeral has no bracket. -/
theorem not_mem_of_isSignedNumeral {digits : List Char} {value : ℕ}
    (h : IsSignedNumeral digits value) : ']' ∉ digits :=
  h.not_mem (by decide) (by decide)

private theorem mem_brackets {chars digits rest : List Char}
    (htext : typeName.toList = chars ++ '[' :: (digits ++ ']' :: rest)) :
    '[' ∈ typeName.toList ∧ ']' ∈ typeName.toList := by
  rw [htext]
  simp

/-- Array types among the texts with brackets in the right order. -/
theorem isType_array_iff (hnumeral : ∀ digits value, numeral digits value →
      IsSignedNumeral digits value) {chars digits rest : List Char}
    (htext : typeName.toList = chars ++ '[' :: (digits ++ ']' :: rest))
    (hopen : '[' ∉ chars) (hclose : ']' ∉ chars) (hdigits : ']' ∉ digits) :
    IsType numeral typeName elem length ↔
      rest = [] ∧ elem.toList = chars ∧ numeral digits length.toNat ∧ 0 < length := by
  constructor
  · rintro (⟨hscalar, -⟩ | ⟨digits', htext', hopen', -, hlength, hpos⟩)
    · exact absurd (mem_brackets htext).1 hscalar
    · rw [htext] at htext'
      obtain ⟨rfl, hrest⟩ := Library.append_cons_inj_left hopen hopen' htext'
      obtain ⟨rfl, rfl⟩ := Library.append_cons_inj_left hdigits
        (not_mem_of_isSignedNumeral (hnumeral _ _ hlength)) hrest
      exact ⟨rfl, rfl, hlength, hpos⟩
  · rintro ⟨rfl, rfl, hlength, hpos⟩
    exact .inr ⟨digits, htext, hopen, hclose, hlength, hpos⟩

/-- A text without an opening bracket is accepted as it is, even with a closing one. -/
theorem parsesExactly_scalar_iff (hscalar : '[' ∉ typeName.toList) :
    ParsesExactly numeral typeName ↔ ¬ ClosesFirst typeName := by
  have hparse := parseArraySuffix_scalar hscalar
  have hcloses : ClosesFirst typeName ↔ ']' ∈ typeName.toList := by
    constructor
    · rintro ⟨before, after, htext, -⟩
      simp [htext]
    · intro hmem
      obtain ⟨before, after, htext⟩ := List.append_of_mem hmem
      refine ⟨before, after, htext, fun hopen => hscalar ?_⟩
      rw [htext]
      exact List.mem_append_left _ hopen
  have htype : ∀ elem length, IsType numeral typeName elem length ↔
      ']' ∉ typeName.toList ∧ elem = typeName ∧ length = 0 := by
    intro elem length
    constructor
    · rintro (⟨-, hclose, hboth⟩ | ⟨digits, htext, -⟩)
      · exact ⟨hclose, hboth⟩
      · exact absurd (mem_brackets htext).1 hscalar
    · exact fun h => .inl ⟨hscalar, h⟩
  rw [hcloses]
  constructor
  · intro h
    exact ((htype _ _).mp ((h.2 typeName 0).mp hparse)).1
  · intro hclose
    refine ⟨⟨_, hparse⟩, fun elem length => ?_⟩
    rw [htype, hparse, and_iff_right hclose]
    simp [eq_comm]

/-- A text without a closing bracket is refused. -/
theorem parsesExactly_unclosed (hopen : '[' ∈ typeName.toList) (hclose : ']' ∉ typeName.toList) :
    ParsesExactly numeral typeName := by
  have hparse := parseArraySuffix_unclosed hopen hclose
  refine ⟨⟨_, hparse⟩, fun elem length => iff_of_false ?_ ?_⟩
  · simp [hparse]
  · rintro (⟨hscalar, -⟩ | ⟨digits, htext, -⟩)
    · exact hscalar hopen
    · exact hclose (mem_brackets htext).2

/-- With the brackets in the right order, everything depends on what is between and after them. -/
theorem parsesExactly_array_iff (hnumeral : ∀ digits value, numeral digits value →
      IsSignedNumeral digits value) {chars digits rest : List Char}
    (htext : typeName.toList = chars ++ '[' :: (digits ++ ']' :: rest))
    (hopen : '[' ∉ chars) (hclose : ']' ∉ chars) (hdigits : ']' ∉ digits) :
    ParsesExactly numeral typeName ↔ ¬ Misread numeral typeName := by
  have hparse := parseArraySuffix_array htext hopen hclose hdigits
  have haccepts : ∀ elem length, parseArraySuffix typeName = some (.ok (elem, length)) ↔
      elem.toList = chars ∧ IsSignedNumeral digits length.toNat ∧ 0 < length := by
    intro elem length
    rw [hparse, Option.some.injEq, readLength_eq_ok_iff, String.toList_ofList,
      ← String.toList_inj, String.toList_ofList]
  have htype : ∀ elem length, IsType numeral typeName elem length ↔
      rest = [] ∧ elem.toList = chars ∧ numeral digits length.toNat ∧ 0 < length :=
    fun _ _ => isType_array_iff hnumeral htext hopen hclose hdigits
  constructor
  · rintro ⟨-, hexact⟩ ⟨chars', digits', value, rest', htext', hopen', -, hsigned, hpos, hbound,
      hwrong⟩
    rw [htext] at htext'
    obtain ⟨rfl, hrest⟩ := Library.append_cons_inj_left hopen hopen' htext'
    obtain ⟨rfl, rfl⟩ := Library.append_cons_inj_left hdigits
      (not_mem_of_isSignedNumeral hsigned) hrest
    have hvalue : (UInt8.ofNat value).toNat = value := UInt8.toNat_ofNat_of_lt' hbound
    have hok : IsType numeral typeName (.ofList chars) (.ofNat value) := by
      rw [← hexact, haccepts, String.toList_ofList, UInt8.lt_iff_toNat_lt, hvalue]
      exact ⟨rfl, hsigned, hpos⟩
    rw [htype, hvalue] at hok
    rcases hwrong with htrailing | hnot
    · exact htrailing hok.1
    · exact hnot hok.2.2.1
  · intro hread
    refine ⟨⟨_, hparse⟩, fun elem length => ?_⟩
    rw [haccepts, htype]
    constructor
    · rintro ⟨helem, hsigned, hpos⟩
      have hright : rest = [] ∧ numeral digits length.toNat := by
        by_contra hwrong
        refine hread ⟨chars, digits, length.toNat, rest, htext, hopen, hclose, hsigned,
          UInt8.lt_iff_toNat_lt.mp hpos, length.toNat_lt, ?_⟩
        exact not_and_or.mp hwrong
      exact ⟨hright.1, helem, hright.2, hpos⟩
    · rintro ⟨-, helem, hlength, hpos⟩
      exact ⟨helem, hnumeral _ _ hlength, hpos⟩

/-- The script meets its purpose on a text unless a closing bracket comes first or what it reads is
not an array type. -/
theorem parsesExactly_iff (hnumeral : ∀ digits value, numeral digits value →
      IsSignedNumeral digits value) :
    ParsesExactly numeral typeName ↔ ¬ ClosesFirst typeName ∧ ¬ Misread numeral typeName := by
  rcases brackets_cases typeName.toList with hscalar | ⟨hopen, hclose⟩ |
    ⟨before, middle, after, htext, hopen, hclose, hmiddle⟩ |
    ⟨chars, digits, rest, htext, hopen, hclose, hdigits⟩
  · have hread : ¬ Misread numeral typeName := by
      rintro ⟨elem, digits, value, rest, htext, -⟩
      exact hscalar (mem_brackets htext).1
    rw [parsesExactly_scalar_iff hscalar, and_iff_left hread]
  · refine iff_of_true (parsesExactly_unclosed hopen hclose) ⟨?_, ?_⟩
    · rintro ⟨before, after, htext, -⟩
      exact hclose (by simp [htext])
    · rintro ⟨elem, digits, value, rest, htext, -⟩
      exact hclose (mem_brackets htext).2
  · have hparse := parseArraySuffix_reversed htext hopen hclose hmiddle
    refine iff_of_false ?_ fun h => h.1 ⟨before, _, htext, hopen⟩
    rintro ⟨⟨result, hresult⟩, -⟩
    rw [hparse] at hresult
    cases hresult
  · rw [parsesExactly_array_iff hnumeral htext hopen hclose hdigits,
      and_iff_right (not_closesFirst htext hclose)]

private theorem misread_isSignedNumeral_iff :
    Misread IsSignedNumeral typeName ↔ HasTrailingText typeName := by
  constructor
  · rintro ⟨elem, digits, value, rest, htext, hopen, hclose, hsigned, hpos, hbound, hwrong⟩
    exact ⟨elem, digits, value, rest, htext, hopen, hclose, hsigned, hpos, hbound,
      hwrong.resolve_right fun hnot => hnot hsigned⟩
  · rintro ⟨elem, digits, value, rest, htext, hopen, hclose, hsigned, hpos, hbound, htrailing⟩
    exact ⟨elem, digits, value, rest, htext, hopen, hclose, hsigned, hpos, hbound, .inl htrailing⟩

private theorem misread_isNumeral_iff :
    Misread IsNumeral typeName ↔ HasTrailingText typeName ∨ HasPlusSign typeName := by
  constructor
  · rintro ⟨elem, digits, value, rest, htext, hopen, hclose, hsigned, hpos, hbound, hwrong⟩
    by_cases hrest : rest = []
    · rw [hrest] at htext hwrong
      have hnot : ¬ IsNumeral digits value := hwrong.resolve_left fun hne => hne rfl
      obtain ⟨plain, rfl, hplain⟩ := hsigned.resolve_left hnot
      exact .inr ⟨elem, plain, value, htext, hopen, hclose, hplain, hpos, hbound⟩
    · exact .inl ⟨elem, digits, value, rest, htext, hopen, hclose, hsigned, hpos, hbound, hrest⟩
  · rintro (⟨elem, digits, value, rest, htext, hopen, hclose, hsigned, hpos, hbound, htrailing⟩ |
      ⟨elem, digits, value, htext, hopen, hclose, hplain, hpos, hbound⟩)
    · exact ⟨elem, digits, value, rest, htext, hopen, hclose, hsigned, hpos, hbound,
        .inl htrailing⟩
    · refine ⟨elem, '+' :: digits, value, [], htext, hopen, hclose, .inr ⟨digits, rfl, hplain⟩,
        hpos, hbound, .inr fun hnumeral => ?_⟩
      exact absurd (hnumeral.2.1 '+' List.mem_cons_self) (by decide)

end Exactness

/-- With numerals that may have a plus sign, the types are parsed exactly on the texts in which no
closing bracket comes first and no text follows an array type. With numerals that have digits only,
a length with a plus sign is one more exception. -/
theorem array_suffix_exact_iff (typeName : String) :
    (ParsesExactly IsSignedNumeral typeName ↔
      ¬ ClosesFirst typeName ∧ ¬ HasTrailingText typeName) ∧
    (ParsesExactly IsNumeral typeName ↔
      ¬ ClosesFirst typeName ∧ ¬ HasTrailingText typeName ∧ ¬ HasPlusSign typeName) := by
  constructor
  · rw [parsesExactly_iff fun _ _ h => h, misread_isSignedNumeral_iff]
  · rw [parsesExactly_iff fun _ _ h => .inl h, misread_isNumeral_iff, not_or]

/-- The text after an array type is dropped, and the script panics on brackets in the wrong
order. -/
theorem trailing_text_accepted :
    parseArraySuffix "uint8_t[3]x" = some (.ok ("uint8_t", 3)) ∧
      ¬ ParsesExactly IsSignedNumeral "uint8_t[3]x" ∧
      ¬ ParsesExactly IsNumeral "uint8_t[3]x" ∧
      parseArraySuffix "uint8_t[3][4]" = some (.ok ("uint8_t", 3)) ∧
      parseArraySuffix "uint8_t]3[" = none := by
  have hparse : parseArraySuffix "uint8_t[3]x" = some (.ok ("uint8_t", 3)) := by decide +kernel
  have hnotType : ∀ numeral, ¬ IsType numeral "uint8_t[3]x" "uint8_t" 3 := by
    rintro numeral (⟨-, -, hname, -⟩ | ⟨digits, htext, -⟩)
    · exact absurd hname (by decide)
    · have hlast := congrArg List.getLast? htext
      rw [← List.cons_append, ← List.append_assoc, List.getLast?_concat] at hlast
      exact absurd hlast (by decide)
  refine ⟨hparse, fun h => hnotType _ ((h.2 _ _).mp hparse),
    fun h => hnotType _ ((h.2 _ _).mp hparse), by decide +kernel, by decide +kernel⟩

end MavlinkRouter.Build
