import Mathlib

/-!
# Texts

Splitting texts at separators, trimming them and reading numerals, as the string functions of the
standard library do it. Splitting undoes joining as long as the parts do not contain the
separator, and reading undoes printing.
-/

namespace Library

/-- Split at the first occurrence of a character. -/
def splitOnce (sep : Char) (text : String) : Option (String × String) :=
  match text.toList.dropWhile (· != sep) with
  | [] => none
  | _ :: after => some (.ofList (text.toList.takeWhile (· != sep)), .ofList after)

/-- Split at the last occurrence of one of some characters. -/
def rsplitOnce (isSep : Char → Bool) (text : String) : Option (String × String) :=
  match text.toList.reverse.dropWhile (!isSep ·) with
  | [] => none
  | _ :: before =>
    some (.ofList before.reverse,
      .ofList (text.toList.reverse.takeWhile (!isSep ·)).reverse)

/-- Split at every occurrence of a character. -/
def splitAll (sep : Char) (text : String) : List String :=
  (text.toList.splitOn sep).map .ofList

/-- The rest of a text that starts with a character. -/
def stripFirst (first : Char) (text : String) : Option String :=
  match text.toList with
  | [] => none
  | char :: rest => if char = first then some (.ofList rest) else none

/-- The position of the first occurrence of a character. Positions count characters. -/
def find (char : Char) (text : String) : Option ℕ :=
  if char ∈ text.toList then some (text.toList.idxOf char) else none

/-- The text between two positions. It panics if they are not in order or beyond the end. -/
def slice (text : String) (start stop : ℕ) : Option String :=
  if start ≤ stop ∧ stop ≤ text.toList.length then
    some (.ofList ((text.toList.take stop).drop start))
  else none

/-- The characters with the Unicode property `White_Space`. -/
def isWhitespace (char : Char) : Bool :=
  let code := char.toNat
  (9 ≤ code && code ≤ 13) || code = 0x20 || code = 0x85 || code = 0xA0 || code = 0x1680 ||
    (0x2000 ≤ code && code ≤ 0x200A) || code = 0x2028 || code = 0x2029 || code = 0x202F ||
    code = 0x205F || code = 0x3000

/-- Take white space off both ends. -/
def trim (text : String) : String :=
  .ofList ((text.toList.dropWhile isWhitespace).reverse.dropWhile isWhitespace).reverse

/-- Upper-case ASCII letters become lower-case, other characters stay. -/
def toAsciiLowercase (text : String) : String :=
  .ofList (text.toList.map Char.toLower)

/-- The value of a list of digits. -/
def digitsValue (digits : List Char) : ℕ :=
  digits.foldl (fun value digit => 10 * value + (digit.toNat - '0'.toNat)) 0

/-- Read an unsigned number below a bound. One plus sign may precede the digits. -/
def parseUnsigned (bound : ℕ) (text : String) : Option ℕ :=
  let digits := (stripFirst '+' text).getD text
  if digits.isEmpty || !digits.toList.all Char.isDigit then none
  else if digitsValue digits.toList < bound then some (digitsValue digits.toList) else none

variable {sep : Char} {text before after : String}

private theorem bne_of_not_mem {chars : List Char} (h : sep ∉ chars) :
    ∀ char ∈ chars, (char != sep) = true :=
  fun _ hchar => bne_iff_ne.mpr (ne_of_mem_of_not_mem hchar h)

/-- No separator, no split. -/
theorem splitOnce_eq_none (h : sep ∉ text.toList) : splitOnce sep text = none := by
  rw [splitOnce, List.dropWhile_eq_nil_iff.mpr (bne_of_not_mem h)]

/-- The first part of a text that has been put together with a separator it does not contain. -/
theorem splitOnce_eq_some (htext : text.toList = before.toList ++ sep :: after.toList)
    (h : sep ∉ before.toList) : splitOnce sep text = some (before, after) := by
  have hbefore := bne_of_not_mem h
  have hdrop : text.toList.dropWhile (· != sep) = sep :: after.toList := by
    rw [htext, List.dropWhile_append_of_pos hbefore, List.dropWhile_cons_of_neg (by simp)]
  have htake : text.toList.takeWhile (· != sep) = before.toList := by
    rw [htext, List.takeWhile_append_of_pos hbefore, List.takeWhile_cons_of_neg (by simp),
      List.append_nil]
  rw [splitOnce, hdrop, htake]
  simp only [String.ofList_toList]

/-- The parts of a text that has been joined with a separator they do not contain. -/
theorem splitAll_eq {parts : List String}
    (htext : text.toList = [sep].intercalate (parts.map String.toList)) (hne : parts ≠ [])
    (h : ∀ part ∈ parts, sep ∉ part.toList) : splitAll sep text = parts := by
  have hparts : ∀ part ∈ parts.map String.toList, sep ∉ part := by
    simpa using h
  have hsplit : text.toList.splitOn sep = parts.map String.toList := by
    rw [htext]
    exact List.splitOn_intercalate sep hparts (by simpa using hne)
  rw [splitAll, hsplit, List.map_map]
  exact List.map_id'' (fun part => String.ofList_toList) parts

/-- The parts of a text at the last of its separators. -/
theorem rsplitOnce_eq_some {isSep : Char → Bool}
    (htext : text.toList = before.toList ++ sep :: after.toList)
    (hsep : isSep sep = true) (hafter : ∀ char ∈ after.toList, isSep char = false) :
    rsplitOnce isSep text = some (before, after) := by
  have hreverse : text.toList.reverse = after.toList.reverse ++ sep :: before.toList.reverse := by
    rw [htext]
    simp
  have hclear : ∀ char ∈ after.toList.reverse, (!isSep char) = true := by
    intro char hchar
    rw [hafter char (List.mem_reverse.mp hchar), Bool.not_false]
  have hdrop : text.toList.reverse.dropWhile (!isSep ·) = sep :: before.toList.reverse := by
    rw [hreverse, List.dropWhile_append_of_pos hclear, List.dropWhile_cons_of_neg (by simp [hsep])]
  have htake : text.toList.reverse.takeWhile (!isSep ·) = after.toList.reverse := by
    rw [hreverse, List.takeWhile_append_of_pos hclear, List.takeWhile_cons_of_neg (by simp [hsep]),
      List.append_nil]
  rw [rsplitOnce, hdrop, htake]
  simp only [List.reverse_reverse, String.ofList_toList]

/-- The two parts, put together again. -/
theorem splitOnce_spec (h : splitOnce sep text = some (before, after)) :
    text.toList = before.toList ++ sep :: after.toList := by
  unfold splitOnce at h
  split at h
  · cases h
  · rename_i found rest hdrop
    cases h
    have hfound : found = sep := by
      have hhead := List.head?_dropWhile_not (· != sep) text.toList
      rw [hdrop] at hhead
      simpa using hhead
    have hjoin : text.toList.takeWhile (· != sep) ++ text.toList.dropWhile (· != sep) =
        text.toList := List.takeWhile_append_dropWhile
    rw [hdrop, hfound] at hjoin
    rw [String.toList_ofList, String.toList_ofList]
    exact hjoin.symm

/-- The first part ends at the first separator. -/
theorem takeWhile_of_splitOnce (h : splitOnce sep text = some (before, after)) :
    before.toList = text.toList.takeWhile (· != sep) := by
  unfold splitOnce at h
  split at h
  · cases h
  · cases h
    rw [String.toList_ofList]

private theorem not_mem_takeWhile {chars : List Char} :
    sep ∉ chars.takeWhile (· != sep) := fun hmem => by
  simpa using List.mem_takeWhile_imp hmem

/-- The first part has no separator. -/
theorem not_mem_of_splitOnce (h : splitOnce sep text = some (before, after)) :
    sep ∉ before.toList := by
  rw [takeWhile_of_splitOnce h]
  exact not_mem_takeWhile

/-- When there is nothing to split. -/
theorem splitOnce_eq_none_iff : splitOnce sep text = none ↔ sep ∉ text.toList := by
  refine ⟨fun h hmem => ?_, splitOnce_eq_none⟩
  unfold splitOnce at h
  split at h
  · rename_i hdrop
    rw [List.dropWhile_eq_nil_iff] at hdrop
    simpa using hdrop sep hmem
  · cases h

/-- Text behind the separator is a part of what follows it. -/
theorem splitOnce_append (h : splitOnce sep text = some (before, after)) (more : String) :
    splitOnce sep (text ++ more) = some (before, after ++ more) := by
  refine splitOnce_eq_some ?_ (not_mem_of_splitOnce h)
  rw [String.toList_append, splitOnce_spec h, String.toList_append, List.append_assoc,
    List.cons_append]

/-- The two parts, put together again. -/
theorem rsplitOnce_spec {isSep : Char → Bool} (h : rsplitOnce isSep text = some (before, after)) :
    ∃ sep, isSep sep = true ∧ text.toList = before.toList ++ sep :: after.toList := by
  unfold rsplitOnce at h
  split at h
  · cases h
  · rename_i found rest hdrop
    cases h
    have hfound : isSep found = true := by
      have hhead := List.head?_dropWhile_not (!isSep ·) text.toList.reverse
      rw [hdrop] at hhead
      simpa using hhead
    have hjoin : text.toList.reverse.takeWhile (!isSep ·) ++
        text.toList.reverse.dropWhile (!isSep ·) = text.toList.reverse :=
      List.takeWhile_append_dropWhile
    have htext := congrArg List.reverse hjoin
    rw [hdrop, List.reverse_reverse] at htext
    refine ⟨found, hfound, htext.symm.trans ?_⟩
    simp

/-- When the first character is stripped. -/
theorem stripFirst_eq_some {first : Char} {rest : String} :
    stripFirst first text = some rest ↔ text.toList = first :: rest.toList := by
  unfold stripFirst
  split
  · rename_i hnil
    simp [hnil]
  · rename_i char chars hcons
    rw [hcons, Option.ite_none_right_eq_some, Option.some.injEq, List.cons.injEq,
      ← String.toList_inj, String.toList_ofList]

/-- A text is split in one way only at a separator that the second part does not contain. -/
theorem append_cons_inj {left left' right right' : List Char} (hright : sep ∉ right)
    (hright' : sep ∉ right') (h : left ++ sep :: right = left' ++ sep :: right') :
    left = left' ∧ right = right' := by
  rcases List.append_eq_append_iff.mp h with ⟨middle, hleft, hmiddle⟩ | ⟨middle, hleft, hmiddle⟩
  · cases middle with
    | nil => exact ⟨by simpa using hleft.symm, by simpa using hmiddle⟩
    | cons char middle =>
      obtain ⟨-, rfl⟩ := List.cons.inj hmiddle
      exact absurd (List.mem_append_right middle List.mem_cons_self) hright
  · cases middle with
    | nil => exact ⟨by simpa using hleft, by simpa using hmiddle.symm⟩
    | cons char middle =>
      obtain ⟨-, rfl⟩ := List.cons.inj hmiddle
      exact absurd (List.mem_append_right middle List.mem_cons_self) hright'

/-- A text is split in one way only at a separator that the first part does not contain. -/
theorem append_cons_inj_left {left left' right right' : List Char} (hleft : sep ∉ left)
    (hleft' : sep ∉ left') (h : left ++ sep :: right = left' ++ sep :: right') :
    left = left' ∧ right = right' := by
  have hreverse := congrArg List.reverse h
  simp only [List.reverse_append, List.reverse_cons, List.append_assoc, List.singleton_append]
    at hreverse
  obtain ⟨hright, hleft⟩ := append_cons_inj (by simpa using hleft) (by simpa using hleft') hreverse
  exact ⟨List.reverse_injective hleft, List.reverse_injective hright⟩

/-- The parts, put together again. -/
theorem intercalate_splitAll (sep : Char) (text : String) :
    [sep].intercalate ((splitAll sep text).map String.toList) = text.toList := by
  have hparts : (splitAll sep text).map String.toList = text.toList.splitOn sep := by
    rw [splitAll, List.map_map]
    exact List.map_id'' (fun part => String.toList_ofList) _
  rw [hparts, List.intercalate_splitOn]

/-- The parts of two texts that have been joined with the separator. -/
theorem splitAll_append (htext : text.toList = before.toList ++ sep :: after.toList) :
    splitAll sep text = splitAll sep before ++ splitAll sep after := by
  rw [splitAll, htext, List.splitOn_append_cons_self, List.map_append]
  rfl

/-- There is always a part. -/
theorem splitAll_ne_nil (sep : Char) (text : String) : splitAll sep text ≠ [] := by
  rw [splitAll, ne_eq, List.map_eq_nil_iff]
  exact List.splitOn_ne_nil sep text.toList

/-- The characters of parts that have been joined with a separator. -/
theorem mem_intercalate_iff {parts : List (List Char)} {char : Char} (hchar : char ≠ sep) :
    char ∈ [sep].intercalate parts ↔ ∃ part ∈ parts, char ∈ part := by
  induction parts with
  | nil => simp [List.intercalate]
  | cons part parts ih =>
    cases parts with
    | nil => simp [List.intercalate]
    | cons next parts =>
      rw [List.intercalate_cons_cons, List.mem_append, List.mem_append, ih, List.mem_singleton]
      simp [hchar]

/-- The parts have all other characters. -/
theorem mem_splitAll_iff {char : Char} (hchar : char ≠ sep) :
    char ∈ text.toList ↔ ∃ part ∈ splitAll sep text, char ∈ part.toList := by
  rw [← intercalate_splitAll sep text, mem_intercalate_iff hchar]
  simp

section Positions

variable {char : Char} {before middle after : List Char}

/-- An absent character is not found. -/
theorem find_eq_none (h : char ∉ text.toList) : find char text = none :=
  if_neg h

/-- The first occurrence is found. -/
theorem find_eq_some (htext : text.toList = before ++ char :: after) (h : char ∉ before) :
    find char text = some before.length := by
  have hmem : char ∈ text.toList := by
    rw [htext]
    exact List.mem_append_right _ List.mem_cons_self
  rw [find, if_pos hmem, htext, List.idxOf_append_of_notMem h, List.idxOf_cons_self, Nat.add_zero]

/-- The middle of a text. -/
theorem slice_eq_some (htext : text.toList = before ++ middle ++ after) :
    slice text before.length (before.length + middle.length) = some (.ofList middle) := by
  have hbounds : before.length ≤ before.length + middle.length ∧
      before.length + middle.length ≤ text.toList.length := by
    rw [htext, List.length_append, List.length_append]
    omega
  rw [slice, if_pos hbounds, htext, ← List.length_append, List.take_left, List.drop_left]

/-- No slice ends before it starts. -/
theorem slice_eq_none {start stop : ℕ} (h : stop < start) : slice text start stop = none :=
  if_neg fun hbounds => Nat.not_lt.mpr hbounds.1 h

end Positions

section Parts

variable {chars before middle after : List Char}

/-- What follows a separator does not matter. -/
theorem takeWhile_append_cons :
    (chars ++ sep :: after).takeWhile (· != sep) = chars.takeWhile (· != sep) := by
  induction chars with
  | nil => simp
  | cons char chars ih => by_cases hchar : char = sep <;> simp [hchar, ih]

private theorem takeWhile_cases (sep : Char) (chars : List Char) :
    chars = chars.takeWhile (· != sep) ∨
      ∃ back, chars = chars.takeWhile (· != sep) ++ sep :: back := by
  have hjoin : chars = chars.takeWhile (· != sep) ++ chars.dropWhile (· != sep) :=
    List.takeWhile_append_dropWhile.symm
  cases hdrop : chars.dropWhile (· != sep) with
  | nil =>
    rw [hdrop, List.append_nil] at hjoin
    exact .inl hjoin
  | cons found back =>
    have hfound : found = sep := by
      have hhead := List.head?_dropWhile_not (· != sep) chars
      rw [hdrop] at hhead
      simpa using hhead
    rw [hdrop, hfound] at hjoin
    exact .inr ⟨back, hjoin⟩

/-- What follows the last separator. -/
def lastPart (sep : Char) (chars : List Char) : List Char :=
  (chars.reverse.takeWhile (· != sep)).reverse

private theorem not_mem_lastPart : sep ∉ lastPart sep chars := fun hmem =>
  not_mem_takeWhile (List.mem_reverse.mp hmem)

private theorem lastPart_cases (sep : Char) (chars : List Char) :
    chars = lastPart sep chars ∨ ∃ front, chars = front ++ sep :: lastPart sep chars := by
  rcases takeWhile_cases sep chars.reverse with hall | ⟨back, hback⟩
  · exact .inl (List.reverse_eq_iff.mp hall)
  · refine .inr ⟨back.reverse, ?_⟩
    conv_lhs => rw [List.reverse_eq_iff.mp hback]
    simp [lastPart]

/-- A part of a text reaches from one separator to the next. -/
theorem mem_splitAll (htext : text.toList = before ++ middle ++ after) (h : sep ∉ middle) :
    .ofList (lastPart sep before ++ middle ++ after.takeWhile (· != sep)) ∈ splitAll sep text := by
  have hpiece : sep ∉ lastPart sep before ++ middle ++ after.takeWhile (· != sep) := by
    simp only [List.mem_append, not_or]
    exact ⟨⟨not_mem_lastPart, h⟩, not_mem_takeWhile⟩
  have hback : lastPart sep before ++ middle ++ after.takeWhile (· != sep) ∈
      (lastPart sep before ++ middle ++ after).splitOn sep := by
    rcases takeWhile_cases sep after with hafter | ⟨back, hafter⟩
    · rw [← hafter] at hpiece ⊢
      rw [List.splitOn_eq_singleton hpiece]
      exact List.mem_singleton_self _
    · have hsplit : lastPart sep before ++ middle ++ after =
          (lastPart sep before ++ middle ++ after.takeWhile (· != sep)) ++ sep :: back := by
        conv_lhs => rw [hafter]
        simp only [List.append_assoc]
      rw [hsplit, List.splitOn_append_cons_self_of_not_mem hpiece]
      exact List.mem_cons_self
  rw [splitAll, htext]
  refine List.mem_map_of_mem ?_
  rcases lastPart_cases sep before with hbefore | ⟨front, hbefore⟩
  · rwa [← hbefore] at hback ⊢
  · have hsplit : before ++ middle ++ after =
        front ++ sep :: (lastPart sep before ++ middle ++ after) := by
      conv_lhs => rw [hbefore]
      simp only [List.append_assoc, List.cons_append]
    rw [hsplit, List.splitOn_append_cons_self]
    exact List.mem_append_right _ hback

end Parts

section Case

variable {char : Char} {chars : List Char}

/-- Changing the case of letters affects no other characters. -/
theorem toLower_eq_iff (hsep : sep.isAlpha = false) : char.toLower = sep ↔ char = sep := by
  obtain ⟨hupper, hlower⟩ := Bool.or_eq_false_iff.mp hsep
  constructor
  · intro h
    have halpha : char.isAlpha = false := by
      rw [← Char.isLower_toLower_eq_isAlpha, h, hlower]
    have hchar : ¬ char.isUpper = true := by
      simp [(Bool.or_eq_false_iff.mp halpha).1]
    rwa [Char.toLower_eq_of_not_isUpper hchar] at h
  · rintro rfl
    exact Char.toLower_eq_of_not_isUpper (by simp [hupper])

/-- Lowercasing keeps what is no letter. -/
theorem mem_toAsciiLowercase_iff (hsep : sep.isAlpha = false) :
    sep ∈ (toAsciiLowercase text).toList ↔ sep ∈ text.toList := by
  rw [toAsciiLowercase, String.toList_ofList, List.mem_map]
  simp only [toLower_eq_iff hsep, exists_eq_right]

/-- Lowercasing keeps the first part. -/
theorem takeWhile_map_toLower (hsep : sep.isAlpha = false) :
    (chars.map Char.toLower).takeWhile (· != sep) =
      (chars.takeWhile (· != sep)).map Char.toLower := by
  have hcase : (fun char : Char => char.toLower != sep) = (· != sep) := by
    funext char
    rw [Bool.eq_iff_iff, bne_iff_ne, bne_iff_ne, ne_eq, ne_eq, toLower_eq_iff hsep]
  rw [List.takeWhile_map]
  exact congrArg (fun keep => (chars.takeWhile keep).map Char.toLower) hcase

/-- Lowercasing keeps the last part. -/
theorem lastPart_map_toLower (hsep : sep.isAlpha = false) :
    lastPart sep (chars.map Char.toLower) = (lastPart sep chars).map Char.toLower := by
  rw [lastPart, ← List.map_reverse, takeWhile_map_toLower hsep, ← List.map_reverse]
  rfl

end Case

section Blanks

/-- White space only. -/
def Blank (chars : List Char) : Prop :=
  ∀ char ∈ chars, isWhitespace char = true

/-- No white space at either end. -/
def Trimmed (chars : List Char) : Prop :=
  (∀ char ∈ chars.head?, isWhitespace char = false) ∧
    ∀ char ∈ chars.getLast?, isWhitespace char = false

/-- The empty text is blank. -/
theorem blank_nil : Blank [] := List.forall_mem_nil _

/-- Blank texts make up a blank text. -/
theorem Blank.append {chars chars' : List Char} (h : Blank chars) (h' : Blank chars') :
    Blank (chars ++ chars') := by
  intro char hchar
  rcases List.mem_append.mp hchar with hchar | hchar
  · exact h char hchar
  · exact h' char hchar

/-- Blanks have no other character. -/
theorem Blank.not_mem {chars : List Char} {char : Char} (h : Blank chars)
    (hchar : isWhitespace char = false) : char ∉ chars :=
  fun hmem => Bool.false_ne_true (hchar.symm.trans (h char hmem))

private theorem dropWhile_trimmed_append {core : List Char} (hne : core ≠ [])
    (hhead : ∀ char ∈ core.head?, isWhitespace char = false) (after : List Char) :
    (core ++ after).dropWhile isWhitespace = core ++ after := by
  cases core with
  | nil => exact absurd rfl hne
  | cons char core =>
    have hchar : isWhitespace char = false := hhead char rfl
    rw [List.cons_append, List.dropWhile_cons_of_neg (by simp [hchar])]

/-- Trimming takes off the white space around a text. -/
theorem trim_eq {before core after : List Char} (htext : text.toList = before ++ core ++ after)
    (hbefore : Blank before) (hafter : Blank after) (hcore : Trimmed core) :
    trim text = .ofList core := by
  rw [trim, htext, List.append_assoc, List.dropWhile_append_of_pos hbefore]
  refine congrArg String.ofList ?_
  by_cases hne : core = []
  · rw [hne, List.nil_append, List.dropWhile_eq_nil_iff.mpr hafter]
    rfl
  · have hreverse : ∀ char ∈ core.reverse.head?, isWhitespace char = false := by
      rw [List.head?_reverse]
      exact hcore.2
    have hblank : ∀ char ∈ after.reverse, isWhitespace char = true :=
      fun char hchar => hafter char (List.mem_reverse.mp hchar)
    have hback := dropWhile_trimmed_append (List.reverse_ne_nil_iff.mpr hne) hreverse []
    rw [List.append_nil] at hback
    rw [dropWhile_trimmed_append hne hcore.1, List.reverse_append,
      List.dropWhile_append_of_pos hblank, hback, List.reverse_reverse]

/-- A text is its trimmed self with white space around it. -/
theorem exists_trim (text : String) :
    ∃ before after, text.toList = before ++ (trim text).toList ++ after ∧ Blank before ∧
      Blank after := by
  let rest := text.toList.dropWhile isWhitespace
  refine ⟨text.toList.takeWhile isWhitespace, (rest.reverse.takeWhile isWhitespace).reverse,
    ?_, fun char hchar => List.mem_takeWhile_imp hchar, ?_⟩
  · have hback : (rest.reverse.dropWhile isWhitespace).reverse ++
        (rest.reverse.takeWhile isWhitespace).reverse = rest := by
      rw [← List.reverse_append, List.takeWhile_append_dropWhile, List.reverse_reverse]
    rw [trim, String.toList_ofList, List.append_assoc, hback, List.takeWhile_append_dropWhile]
  · intro char hchar
    exact List.mem_takeWhile_imp (List.mem_reverse.mp hchar)

end Blanks

section Numerals

variable {bound value : ℕ}

/-- A numeral: some digits and their value. -/
def IsNumeral (chars : List Char) (value : ℕ) : Prop :=
  chars ≠ [] ∧ (∀ char ∈ chars, char.isDigit = true) ∧ digitsValue chars = value

/-- A numeral that may have a plus sign. -/
def IsSignedNumeral (chars : List Char) (value : ℕ) : Prop :=
  IsNumeral chars value ∨ ∃ digits, chars = '+' :: digits ∧ IsNumeral digits value

/-- The sign is optional. -/
theorem IsSignedNumeral.of_isNumeral {chars : List Char} (h : IsNumeral chars value) :
    IsSignedNumeral chars value := .inl h

/-- A numeral begins with a digit or a sign, and all its characters are digits or signs. -/
theorem IsSignedNumeral.mem {chars : List Char} (h : IsSignedNumeral chars value) :
    chars ≠ [] ∧ ∀ char ∈ chars, char.isDigit = true ∨ char = '+' := by
  rcases h with ⟨hne, hdigits, -⟩ | ⟨digits, rfl, -, hdigits, -⟩
  · exact ⟨hne, fun char hchar => .inl (hdigits char hchar)⟩
  · refine ⟨List.cons_ne_nil _ _, fun char hchar => ?_⟩
    rcases List.mem_cons.mp hchar with rfl | hchar
    · exact .inr rfl
    · exact .inl (hdigits char hchar)

/-- Digits and a sign at most. -/
theorem IsSignedNumeral.not_mem {chars : List Char} {char : Char}
    (h : IsSignedNumeral chars value) (hdigit : char.isDigit = false) (hsign : char ≠ '+') :
    char ∉ chars := by
  intro hchar
  rcases h.mem.2 char hchar with hdigit' | hsign'
  · exact Bool.false_ne_true (hdigit.symm.trans hdigit')
  · exact hsign hsign'

private theorem isWhitespace_eq_false_of_isDigit {char : Char} (h : char.isDigit = true) :
    isWhitespace char = false := by
  have hrange : 48 ≤ char.toNat ∧ char.toNat ≤ 57 := by
    simpa [Char.isDigit, UInt32.le_iff_toNat_le] using h
  have hcode : ∀ code : ℕ, 48 ≤ code → code ≤ 57 → isWhitespace (Char.ofNat code) = false := by
    intro code hlo hhi
    interval_cases code <;> decide
  have hchar := hcode char.toNat hrange.1 hrange.2
  rwa [Char.ofNat_toNat] at hchar

/-- Letters and digits are not blank. -/
theorem isWhitespace_eq_false_of_isAlphanum {char : Char} (h : char.isAlphanum = true) :
    isWhitespace char = false := by
  have hrange : ((65 ≤ char.toNat ∧ char.toNat ≤ 90) ∨ 97 ≤ char.toNat ∧ char.toNat ≤ 122) ∨
      48 ≤ char.toNat ∧ char.toNat ≤ 57 := by
    simpa [Char.isAlphanum, Char.isAlpha, Char.isUpper, Char.isLower, Char.isDigit,
      UInt32.le_iff_toNat_le] using h
  unfold isWhitespace
  simp only [Bool.or_eq_false_iff, Bool.and_eq_false_iff, decide_eq_false_iff_not]
  omega

/-- A word without white space is trimmed. -/
theorem trim_eq_self {word : String} (h : ∀ char ∈ word.toList, isWhitespace char = false) :
    trim word = word := by
  have htext : word.toList = [] ++ word.toList ++ [] := by simp
  rw [trim_eq htext blank_nil blank_nil
    ⟨fun char hchar => h char (List.mem_of_mem_head? hchar),
      fun char hchar => h char (List.mem_of_mem_getLast? hchar)⟩, String.ofList_toList]

/-- No character of a numeral is white space. -/
theorem IsSignedNumeral.trimmed {chars : List Char} (h : IsSignedNumeral chars value) :
    Trimmed chars := by
  have hall : ∀ char ∈ chars, isWhitespace char = false := by
    intro char hchar
    rcases h.mem.2 char hchar with hdigit | rfl
    · exact isWhitespace_eq_false_of_isDigit hdigit
    · decide
  exact ⟨fun char hchar => hall char (List.mem_of_mem_head? hchar),
    fun char hchar => hall char (List.mem_of_mem_getLast? hchar)⟩

/-- What is read as a number. -/
theorem parseUnsigned_eq_some_iff :
    parseUnsigned bound text = some value ↔ IsSignedNumeral text.toList value ∧ value < bound := by
  have hread : ∀ digits : String,
      (if digits.isEmpty || !digits.toList.all Char.isDigit then none
        else if digitsValue digits.toList < bound then some (digitsValue digits.toList)
        else none) = some value ↔ IsNumeral digits.toList value ∧ value < bound := by
    intro digits
    have hempty : digits.isEmpty = true ↔ digits.toList = [] := by
      rw [String.isEmpty_iff, ← String.toList_eq_nil_iff]
    by_cases hvalid : digits.toList ≠ [] ∧ ∀ char ∈ digits.toList, char.isDigit = true
    · have hcond : (digits.isEmpty || !digits.toList.all Char.isDigit) = false := by
        have hall : digits.toList.all Char.isDigit = true := List.all_eq_true.mpr hvalid.2
        simp [hall, ← Bool.not_eq_true, hempty, hvalid.1]
      rw [hcond, if_neg Bool.false_ne_true, Option.ite_none_right_eq_some, Option.some.injEq]
      constructor
      · rintro ⟨hlt, rfl⟩
        exact ⟨⟨hvalid.1, hvalid.2, rfl⟩, hlt⟩
      · rintro ⟨⟨-, -, rfl⟩, hlt⟩
        exact ⟨hlt, rfl⟩
    · have hcond : (digits.isEmpty || !digits.toList.all Char.isDigit) = true := by
        by_contra hneg
        rw [Bool.not_eq_true, Bool.or_eq_false_iff, Bool.not_eq_false', List.all_eq_true] at hneg
        refine hvalid ⟨fun hnil => ?_, hneg.2⟩
        exact Bool.false_ne_true (hneg.1.symm.trans (hempty.mpr hnil))
      rw [hcond, if_pos rfl]
      refine iff_of_false (fun h => nomatch h) ?_
      rintro ⟨⟨hne, hdigits, -⟩, -⟩
      exact hvalid ⟨hne, hdigits⟩
  rw [parseUnsigned]
  cases hstrip : stripFirst '+' text with
  | some rest =>
    have htext := stripFirst_eq_some.mp hstrip
    rw [Option.getD_some, hread, htext]
    refine and_congr_left fun _ => ⟨fun h => .inr ⟨_, rfl, h⟩, ?_⟩
    rintro (⟨-, hdigits, -⟩ | ⟨digits, hdigits, h⟩)
    · exact absurd (hdigits '+' List.mem_cons_self) (by decide)
    · rwa [(List.cons.inj hdigits).2]
  | none =>
    rw [Option.getD_none, hread]
    refine and_congr_left fun _ => ⟨.inl, ?_⟩
    rintro (h | ⟨digits, hdigits, -⟩)
    · exact h
    · have hsome : stripFirst '+' text = some (.ofList digits) := by
        rw [stripFirst_eq_some, String.toList_ofList, hdigits]
      rw [hstrip] at hsome
      cases hsome

/-- A number is printed in digits. -/
theorem isDigit_of_mem_toString {char : Char} (h : char ∈ (toString value).toList) :
    char.isDigit = true := by
  rw [Nat.toString_eq_ofList_toDigits, String.toList_ofList] at h
  exact Nat.isDigit_of_mem_toDigits (by omega) (by omega) h

/-- A printed number has no other character. -/
theorem not_mem_toString {char : Char} (hchar : char.isDigit = false) :
    char ∉ (toString value).toList :=
  fun hmem => Bool.false_ne_true (hchar.symm.trans (isDigit_of_mem_toString hmem))

private theorem isEmpty_toString : (toString value).isEmpty = false := by
  have hne : (toString value).toList ≠ [] := by
    rw [Nat.toString_eq_ofList_toDigits, String.toList_ofList]
    exact Nat.toDigits_ne_nil
  rw [String.isEmpty_eq_false_iff]
  exact fun hempty => hne (by rw [hempty]; rfl)

private theorem digitsValue_toString : digitsValue (toString value).toList = value := by
  rw [Nat.toString_eq_ofList_toDigits, String.toList_ofList]
  exact Nat.ofDigitChars_ten_toDigits

/-- A printed number reads as itself. -/
theorem isNumeral_toString (value : ℕ) : IsNumeral (toString value).toList value := by
  refine ⟨fun hnil => ?_, fun _ => isDigit_of_mem_toString, digitsValue_toString⟩
  have hempty : (toString value).isEmpty = true := by
    rw [String.isEmpty_iff, ← String.toList_eq_nil_iff]
    exact hnil
  exact Bool.false_ne_true (isEmpty_toString.symm.trans hempty)

/-- A number is read back from its numeral. -/
theorem parseUnsigned_toString (h : value < bound) :
    parseUnsigned bound (toString value) = some value :=
  parseUnsigned_eq_some_iff.mpr ⟨.of_isNumeral (isNumeral_toString value), h⟩

/-- What is read as a number has only digits after its sign. -/
theorem not_mem_of_parseUnsigned {char : Char} (hplus : char ≠ '+')
    (hchar : char.isDigit = false) (h : parseUnsigned bound text = some value) :
    char ∉ text.toList :=
  (parseUnsigned_eq_some_iff.mp h).1.not_mem hchar hplus

end Numerals

end Library
