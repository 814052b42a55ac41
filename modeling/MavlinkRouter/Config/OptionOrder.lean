import MavlinkRouter.Config.OptionFields

/-!
# The order of the options

The pairs of a query may be given in any order: permuting them permutes the pieces between the
ampersands, and as every key has a field of its own, the same specification results or none at
all. Nothing is assumed about the texts of the parts, which may contain separators themselves.
-/

namespace MavlinkRouter

open Library (splitOnce splitAll toAsciiLowercase SettingRun bind_eq_ok)

section Tokens

variable {out pairs pairs' tokens : List (String × String)} {piece query : String}

/-- The pair that a piece of a query is read as. -/
def tokenPair (piece : String) : Option (String × String) :=
  (splitOnce '=' piece).bind fun pair =>
    if pair.1.isEmpty then none else some (toAsciiLowercase pair.1, pair.2)

/-- The pairs that the pieces of a query are read as. -/
def queryTokens (query : String) : List (String × String) :=
  (splitAll '&' query).filterMap tokenPair

/-- A piece is empty, or a pair. -/
def IsQueryPiece (piece : String) : Prop :=
  piece = "" ∨ (tokenPair piece).isSome = true

private theorem tokenPair_empty : tokenPair "" = none := by
  decide

private theorem tokenPair_eq_some_iff {pair : String × String} :
    tokenPair piece = some pair ↔
      ∃ key, splitOnce '=' piece = some (key, pair.2) ∧ key ≠ "" ∧
        pair.1 = toAsciiLowercase key := by
  obtain ⟨lower, value⟩ := pair
  unfold tokenPair
  cases splitOnce '=' piece with
  | none => simp
  | some read =>
    obtain ⟨key, text⟩ := read
    by_cases hkey : key = ""
    · subst hkey
      refine iff_of_false (by simp) ?_
      rintro ⟨_, ⟨⟩, hkey, -⟩
      exact hkey rfl
    · constructor
      · intro h
        simp only [Option.bind_some, String.isEmpty_iff, hkey, if_false, Option.some.injEq,
          Prod.mk.injEq] at h
        exact ⟨key, by rw [h.2], hkey, h.1.symm⟩
      · rintro ⟨_, ⟨⟩, -, rfl⟩
        simp [hkey]

/-- When a piece of the query is accepted. -/
private theorem pushPair_eq_ok_iff :
    pushPair out piece = .ok tokens ↔
      (piece = "" ∧ tokens = out) ∨
        ∃ pair, tokenPair piece = some pair ∧ pair.1 ∉ out.map Prod.fst ∧
          tokens = out ++ [pair] := by
  constructor
  · intro h
    unfold pushPair at h
    split at h
    · rename_i hempty
      cases h
      exact .inl ⟨by simpa using hempty, rfl⟩
    · split at h
      · cases h
      · rename_i key value hsplit
        split at h
        · cases h
        · rename_i hkey
          split at h
          · cases h
          · rename_i hnew
            cases h
            refine .inr ⟨(toAsciiLowercase key, value), ?_, hnew, rfl⟩
            exact tokenPair_eq_some_iff.mpr ⟨key, hsplit, by simpa using hkey, rfl⟩
  · rintro (⟨rfl, rfl⟩ | ⟨⟨lower, value⟩, hpair, hnew, rfl⟩)
    · rfl
    · obtain ⟨key, hsplit, hkey, hlower⟩ := tokenPair_eq_some_iff.mp hpair
      dsimp only at hsplit hlower
      subst hlower
      have hempty : ¬ piece.isEmpty = true := by
        intro hempty
        rw [String.isEmpty_iff.mp hempty] at hsplit
        cases hsplit
      rw [pushPair, if_neg hempty, hsplit]
      dsimp only
      rw [if_neg (by simp [hkey]), if_neg hnew]

private theorem nodup_snoc {pair : String × String} (hout : (out.map Prod.fst).Nodup)
    (hnew : pair.1 ∉ out.map Prod.fst) : ((out ++ [pair]).map Prod.fst).Nodup := by
  rw [List.map_append, List.map_singleton]
  exact List.nodup_append_comm.mp (List.nodup_cons.mpr ⟨hnew, hout⟩)

/-- The pieces that a query is read from have different keys. -/
theorem foldlM_pushPair_eq_ok_iff {pieces : List String} (hout : (out.map Prod.fst).Nodup) :
    pieces.foldlM pushPair out = .ok tokens ↔
      (∀ piece ∈ pieces, IsQueryPiece piece) ∧ tokens = out ++ pieces.filterMap tokenPair ∧
        (tokens.map Prod.fst).Nodup := by
  induction pieces generalizing out with
  | nil =>
    constructor
    · intro h
      cases h
      exact ⟨List.forall_mem_nil _, (List.append_nil _).symm, hout⟩
    · rintro ⟨-, rfl, -⟩
      rw [List.filterMap_nil, List.append_nil]
      rfl
  | cons piece pieces ih =>
    rw [List.forall_mem_cons]
    constructor
    · intro h
      obtain ⟨next, hpiece, hrest⟩ := bind_eq_ok.mp h
      rcases pushPair_eq_ok_iff.mp hpiece with ⟨rfl, rfl⟩ | ⟨pair, hpair, hnew, rfl⟩
      · obtain ⟨hpieces, htokens, hdistinct⟩ := (ih hout).mp hrest
        rw [List.filterMap_cons, tokenPair_empty]
        exact ⟨⟨.inl rfl, hpieces⟩, htokens, hdistinct⟩
      · obtain ⟨hpieces, htokens, hdistinct⟩ := (ih (nodup_snoc hout hnew)).mp hrest
        rw [List.filterMap_cons, hpair]
        refine ⟨⟨.inr (by rw [hpair]; rfl), hpieces⟩, ?_, hdistinct⟩
        rw [htokens, List.append_assoc, List.singleton_append]
    · rintro ⟨⟨hpiece, hpieces⟩, htokens, hdistinct⟩
      cases hpair : tokenPair piece with
      | none =>
        have hempty : piece = "" := hpiece.resolve_right (by simp [hpair])
        rw [List.filterMap_cons, hpair] at htokens
        refine bind_eq_ok.mpr ⟨out, pushPair_eq_ok_iff.mpr (.inl ⟨hempty, rfl⟩), ?_⟩
        exact (ih hout).mpr ⟨hpieces, htokens, hdistinct⟩
      | some pair =>
        rw [List.filterMap_cons, hpair] at htokens
        have hnew : pair.1 ∉ out.map Prod.fst := by
          rw [htokens, List.map_append] at hdistinct
          exact fun hmem => List.disjoint_of_nodup_append hdistinct hmem List.mem_cons_self
        refine bind_eq_ok.mpr ⟨out ++ [pair], ?_, ?_⟩
        · exact pushPair_eq_ok_iff.mpr (.inr ⟨pair, hpair, hnew, rfl⟩)
        · refine (ih (nodup_snoc hout hnew)).mpr ⟨hpieces, ?_, hdistinct⟩
          rw [htokens, List.append_assoc, List.singleton_append]

/-- What a query is read as. -/
theorem parseQueryPairs_eq_ok_iff :
    parseQueryPairs query = .ok tokens ↔
      (∀ piece ∈ splitAll '&' query, IsQueryPiece piece) ∧ tokens = queryTokens query ∧
        (tokens.map Prod.fst).Nodup := by
  by_cases hempty : query = ""
  · subst hempty
    have hsplit : splitAll '&' "" = [""] := by decide
    rw [parseQueryPairs, queryTokens, hsplit]
    constructor
    · intro h
      cases h
      exact ⟨by simp [IsQueryPiece], by simp [tokenPair_empty], List.nodup_nil⟩
    · rintro ⟨-, rfl, -⟩
      simp [tokenPair_empty]
  · rw [parseQueryPairs, if_neg (by simpa using hempty)]
    exact foldlM_pushPair_eq_ok_iff List.nodup_nil

/-- The pieces of a query are those of its pairs. -/
theorem splitAll_pairsText (hne : pairs ≠ []) :
    splitAll '&' (pairsText pairs) = pairs.flatMap fun pair => splitAll '&' (pairText pair) := by
  induction pairs with
  | nil => exact absurd rfl hne
  | cons pair pairs ih =>
    cases pairs with
    | nil =>
      rw [List.flatMap_singleton, pairsText, List.map_singleton, String.intercalate_singleton]
    | cons next pairs =>
      have htext : (pairsText (pair :: next :: pairs)).toList =
          (pairText pair).toList ++ '&' :: (pairsText (next :: pairs)).toList := by
        simp [pairsText, String.toList_intercalate]
      rw [Library.splitAll_append htext, ih (List.cons_ne_nil _ _)]
      rfl

private theorem queryTokens_pairsText :
    queryTokens (pairsText pairs) = pairs.flatMap fun pair => queryTokens (pairText pair) := by
  by_cases hne : pairs = []
  · subst hne
    decide
  · rw [queryTokens, splitAll_pairsText hne, List.filterMap_flatMap]
    rfl

private theorem isPiece_pairsText_iff :
    (∀ piece ∈ splitAll '&' (pairsText pairs), IsQueryPiece piece) ↔
      ∀ pair ∈ pairs, ∀ piece ∈ splitAll '&' (pairText pair), IsQueryPiece piece := by
  by_cases hne : pairs = []
  · subst hne
    have hsplit : splitAll '&' (pairsText []) = [""] := by decide
    simp [hsplit, IsQueryPiece]
  · rw [splitAll_pairsText hne]
    simp only [List.mem_flatMap, forall_exists_index, and_imp]
    exact ⟨fun h pair hpair piece hpiece => h piece pair hpair hpiece,
      fun h piece pair hpair hpiece => h pair hpair piece hpiece⟩

/-- Permuting the pairs of a query permutes what it is read as. -/
theorem parseQueryPairs_perm (hperm : pairs.Perm pairs')
    (h : parseQueryPairs (pairsText pairs) = .ok tokens) :
    ∃ tokens', parseQueryPairs (pairsText pairs') = .ok tokens' ∧ tokens.Perm tokens' := by
  obtain ⟨hpieces, rfl, hdistinct⟩ := parseQueryPairs_eq_ok_iff.mp h
  have htokens : (queryTokens (pairsText pairs)).Perm (queryTokens (pairsText pairs')) := by
    rw [queryTokens_pairsText, queryTokens_pairsText]
    exact hperm.flatMap_right _
  refine ⟨_, parseQueryPairs_eq_ok_iff.mpr ⟨?_, rfl, ?_⟩, htokens⟩
  · rw [isPiece_pairsText_iff] at hpieces ⊢
    exact fun pair hpair => hpieces pair (hperm.mem_iff.mpr hpair)
  · exact (htokens.map Prod.fst).nodup_iff.mp hdistinct

/-- A character that is no separator is in a query if it is in one of its pairs. -/
theorem mem_pairsText_iff {char : Char} (hchar : char ≠ '&') :
    char ∈ (pairsText pairs).toList ↔ ∃ pair ∈ pairs, char ∈ (pairText pair).toList := by
  rw [pairsText, String.toList_intercalate]
  exact (Library.mem_intercalate_iff hchar).trans (by simp)

end Tokens

section Head

variable {rest body query : String} {name : Option String}

/-- A query is found behind a text that has none. Behind a text without a name it must not look
like one. -/
theorem splitBodyNameQuery_append (h : splitBodyNameQuery rest = (body, name, none))
    (hhash : name = none → '#' ∉ query.toList) :
    splitBodyNameQuery (rest ++ "?" ++ query) = (body, name, some query) := by
  have hmark : ∀ {text : String}, splitOnce '?' text = none →
      splitOnce '?' (text ++ "?" ++ query) = some (text, query) := fun htext =>
    Library.splitOnce_eq_some (by simp) (Library.splitOnce_eq_none_iff.mp htext)
  unfold splitBodyNameQuery at h
  split at h
  · rename_i before after hsplit
    split at h
    · cases h
    · rename_i hafter
      cases h
      have hbody := Library.splitOnce_append (Library.splitOnce_append hsplit "?") query
      simp only [splitBodyNameQuery, hbody, hmark hafter]
  · rename_i hnone
    split at h
    · cases h
    · rename_i hrest
      cases h
      have hbody : splitOnce '#' (rest ++ "?" ++ query) = none := by
        have hrest : '#' ∉ rest.toList := Library.splitOnce_eq_none_iff.mp hnone
        have hquery : '#' ∉ query.toList := hhash rfl
        exact Library.splitOnce_eq_none (by simp [hrest, hquery])
      simp only [splitBodyNameQuery, hbody, hmark hrest]

/-- A query is found where it was written, or the body or the query that are found contain a
question mark. -/
theorem splitBodyNameQuery_cases (rest query : String) :
    (∃ body name, splitBodyNameQuery rest = (body, name, none) ∧
        (name = none → '#' ∉ query.toList)) ∨
      '?' ∈ (splitBodyNameQuery (rest ++ "?" ++ query)).1.toList ∨
      ∃ more, (splitBodyNameQuery (rest ++ "?" ++ query)).2.2 = some (more ++ "?" ++ query) := by
  have hmark : ∀ {text before more : String}, splitOnce '?' text = some (before, more) →
      splitOnce '?' (text ++ "?" ++ query) = some (before, more ++ "?" ++ query) := fun htext =>
    Library.splitOnce_append (Library.splitOnce_append htext "?") query
  cases hhash : splitOnce '#' rest with
  | some parts =>
    obtain ⟨body, after⟩ := parts
    have hbody := Library.splitOnce_append (Library.splitOnce_append hhash "?") query
    cases hafter : splitOnce '?' after with
    | none =>
      refine .inl ⟨body, some after, ?_, fun h => nomatch h⟩
      simp only [splitBodyNameQuery, hhash, hafter]
    | some parts =>
      refine .inr (.inr ⟨parts.2, ?_⟩)
      simp only [splitBodyNameQuery, hbody, hmark hafter]
  | none =>
    have hrest : '#' ∉ rest.toList := Library.splitOnce_eq_none_iff.mp hhash
    cases hquery : splitOnce '#' query with
    | some parts =>
      -- The hash that ends the body is one of the query, behind the question mark.
      obtain ⟨front, back⟩ := parts
      have hfront : '#' ∉ front.toList := Library.not_mem_of_splitOnce hquery
      have hbody : splitOnce '#' (rest ++ "?" ++ query) = some (rest ++ "?" ++ front, back) :=
        Library.splitOnce_eq_some (by simp [Library.splitOnce_spec hquery])
          (by simp [hrest, hfront])
      refine .inr (.inl ?_)
      cases hback : splitOnce '?' back <;> simp [splitBodyNameQuery, hbody, hback]
    | none =>
      have hquery : '#' ∉ query.toList := Library.splitOnce_eq_none_iff.mp hquery
      have hnone : splitOnce '#' (rest ++ "?" ++ query) = none :=
        Library.splitOnce_eq_none (by simp [hrest, hquery])
      cases hafter : splitOnce '?' rest with
      | none =>
        refine .inl ⟨rest, none, ?_, fun _ => hquery⟩
        simp only [splitBodyNameQuery, hhash, hafter]
      | some parts =>
        refine .inr (.inr ⟨parts.2, ?_⟩)
        simp only [splitBodyNameQuery, hnone, hmark hafter]

end Head

section Arguments

variable {externals : Externals} {scheme : Scheme} {head body query : String}
  {name : Option String} {pairs pairs' tokens : List (String × String)} {spec : EndpointSpec}

/-- What an argument is taken apart into. -/
theorem parse_eq_ok_iff {input : String} :
    EndpointSpec.parse externals input = .ok spec ↔
      ∃ schemeStr rest scheme tokens, splitOnce ':' input = some (schemeStr, rest) ∧
        Scheme.tryFromStr schemeStr = some scheme ∧
        '?' ∉ (splitBodyNameQuery rest).1.toList ∧
        parseQueryPairs ((splitBodyNameQuery rest).2.2.getD "") = .ok tokens ∧
        EndpointSpec.build externals scheme (splitBodyNameQuery rest).1
          (splitBodyNameQuery rest).2.1 tokens = .ok spec := by
  unfold EndpointSpec.parse
  cases hsplit : splitOnce ':' input with
  | none => simp
  | some parts =>
    obtain ⟨schemeStr, rest⟩ := parts
    dsimp only
    constructor
    · intro h
      split at h
      · cases h
      · split at h
        · cases h
        · rename_i hmark
          obtain ⟨tokens, htokens, h⟩ := bind_eq_ok.mp h
          obtain ⟨scheme, hscheme, h⟩ := bind_eq_ok.mp h
          refine ⟨schemeStr, rest, scheme, tokens, rfl, ?_, hmark, htokens, h⟩
          unfold Scheme.fromCliPrefix at hscheme
          split at hscheme
          · rename_i hfound
            cases hscheme
            exact hfound
          · cases hscheme
    · rintro ⟨_, _, scheme, tokens, ⟨⟩, hscheme, hmark, htokens, hbuild⟩
      have hnonempty : ¬ schemeStr.isEmpty = true := by
        intro hempty
        rw [String.isEmpty_iff.mp hempty] at hscheme
        cases hscheme
      rw [if_neg hnonempty, if_neg hmark]
      refine bind_eq_ok.mpr ⟨tokens, htokens, bind_eq_ok.mpr ⟨scheme, ?_, hbuild⟩⟩
      rw [Scheme.fromCliPrefix, hscheme]

/-- The pairs of a specification are accepted, one by one. -/
theorem exists_sets_of_build (h : EndpointSpec.build externals scheme body name tokens = .ok spec)
    {pair : String × String} (hpair : pair ∈ tokens) :
    ∃ kind next, EndpointKind.Sets kind pair.1 pair.2 next := by
  obtain ⟨first, -, -, hrun⟩ := parseKind_eq_ok_iff.mp (build_eq_ok_iff.mp h).1
  obtain ⟨next, hset⟩ := independentFields_sets.exists_run_iff.mp ⟨_, hrun⟩ pair hpair
  exact ⟨first, next, hset⟩

private theorem IsReserved.isAlpha {char : Char} (h : IsReserved char) : char.isAlpha = false :=
  (Bool.or_eq_false_iff.mp h.1).1

/-- No question mark is in a query that has been accepted. -/
theorem not_mem_query_of_build {char : Char} (hchar : IsReserved char) (hamp : char ≠ '&')
    (hequals : char ≠ '=') (htokens : parseQueryPairs query = .ok tokens)
    (hbuild : EndpointSpec.build externals scheme body name tokens = .ok spec) :
    char ∉ query.toList := by
  intro hmem
  obtain ⟨hpieces, rfl, -⟩ := parseQueryPairs_eq_ok_iff.mp htokens
  obtain ⟨piece, hpiece, hmem⟩ := (Library.mem_splitAll_iff hamp).mp hmem
  rcases hpieces piece hpiece with rfl | hsome
  · exact absurd hmem List.not_mem_nil
  · obtain ⟨pair, hpair⟩ := Option.isSome_iff_exists.mp hsome
    have htoken : pair ∈ queryTokens query := List.mem_filterMap.mpr ⟨piece, hpiece, hpair⟩
    obtain ⟨kind, next, hset⟩ := exists_sets_of_build hbuild htoken
    obtain ⟨hkey, hvalue⟩ := hchar.not_mem_of_sets hset
    obtain ⟨key, hsplit, -, hlower⟩ := tokenPair_eq_some_iff.mp hpair
    rw [Library.splitOnce_spec hsplit, List.mem_append, List.mem_cons] at hmem
    rcases hmem with hmem | hmem | hmem
    · rw [hlower] at hkey
      exact hkey ((Library.mem_toAsciiLowercase_iff hchar.isAlpha).mpr hmem)
    · exact hequals hmem
    · exact hvalue hmem

/-- What stands in front of a query: a scheme, a body and possibly a name. -/
def HeadSplits (head : String) (scheme : Scheme) (body : String) (name : Option String) : Prop :=
  ∃ schemeStr rest, splitOnce ':' head = some (schemeStr, rest) ∧
    Scheme.tryFromStr schemeStr = some scheme ∧
    splitBodyNameQuery rest = (body, name, none) ∧ '?' ∉ body.toList

/-- An argument with a query is accepted if the parts around the question mark are. -/
theorem parse_query_eq_ok_iff (hcolon : ':' ∈ head.toList) :
    EndpointSpec.parse externals (head ++ "?" ++ query) = .ok spec ↔
      ∃ scheme body name tokens, HeadSplits head scheme body name ∧
        (name = none → '#' ∉ query.toList) ∧ parseQueryPairs query = .ok tokens ∧
        EndpointSpec.build externals scheme body name tokens = .ok spec := by
  obtain ⟨⟨schemeStr, rest⟩, hhead⟩ := Option.ne_none_iff_exists'.mp fun hnone =>
    Library.splitOnce_eq_none_iff.mp hnone hcolon
  have hinput : splitOnce ':' (head ++ "?" ++ query) = some (schemeStr, rest ++ "?" ++ query) :=
    Library.splitOnce_append (Library.splitOnce_append hhead "?") query
  rw [parse_eq_ok_iff, hinput]
  constructor
  · rintro ⟨_, _, scheme, tokens, ⟨⟩, hscheme, hmark, htokens, hbuild⟩
    rcases splitBodyNameQuery_cases rest query with
      ⟨body, name, hrest, hhash⟩ | hbody | ⟨more, hmore⟩
    · rw [splitBodyNameQuery_append hrest hhash] at hmark htokens hbuild
      exact ⟨scheme, body, name, tokens, ⟨schemeStr, rest, hhead, hscheme, hrest, hmark⟩, hhash,
        htokens, hbuild⟩
    · exact absurd hbody hmark
    · rw [hmore] at htokens
      have hmark : '?' ∉ (more ++ "?" ++ query).toList :=
        not_mem_query_of_build (by decide) (by decide) (by decide) htokens hbuild
      exact absurd (by simp) hmark
  · rintro ⟨scheme, body, name, tokens, ⟨_, _, hhead', hscheme, hrest, hmark⟩, hhash, htokens,
      hbuild⟩
    cases hhead.symm.trans hhead'
    refine ⟨schemeStr, rest ++ "?" ++ query, scheme, tokens, rfl, hscheme, ?_⟩
    rw [splitBodyNameQuery_append hrest hhash]
    exact ⟨hmark, htokens, hbuild⟩

/-- The order of pairs with different keys does not matter. -/
theorem build_perm (hperm : tokens.Perm pairs') (hdistinct : (tokens.map Prod.fst).Nodup)
    (h : EndpointSpec.build externals scheme body name tokens = .ok spec) :
    EndpointSpec.build externals scheme body name pairs' = .ok spec := by
  obtain ⟨hkind, hname⟩ := build_eq_ok_iff.mp h
  obtain ⟨first, hfirst, hbare, hrun⟩ := parseKind_eq_ok_iff.mp hkind
  refine build_eq_ok_iff.mpr ⟨parseKind_eq_ok_iff.mpr ⟨first, hfirst, hbare, ?_⟩, hname⟩
  exact independentFields_sets.run_perm hperm hdistinct
    (fun key => EndpointKind.reflects_bare hbare key) hrun

/-- The part of a key that is read as one: it may contain separators itself. -/
def mainKey (key : String) : List Char :=
  (Library.lastPart '&' key.toList).takeWhile (· != '=')

/-- A pair is read as a pair whose key is determined by its key, up to the case of letters. -/
theorem exists_token {pair : String × String}
    (h : ∀ piece ∈ splitAll '&' (pairText pair), IsQueryPiece piece) :
    ∃ token ∈ queryTokens (pairText pair),
      token.1.toList = mainKey (toAsciiLowercase pair.1) := by
  have htext : (pairText pair).toList = pair.1.toList ++ ['='] ++ pair.2.toList := by
    simp [pairText]
  have hpiece := Library.mem_splitAll htext (show '&' ∉ ['='] by decide)
  generalize hchars : pair.2.toList.takeWhile (· != '&') = value at hpiece
  have hnonempty : String.ofList (Library.lastPart '&' pair.1.toList ++ ['='] ++ value) ≠ "" := by
    simp [← String.toList_inj]
  obtain ⟨token, htoken⟩ :=
    Option.isSome_iff_exists.mp ((h _ hpiece).resolve_left hnonempty)
  obtain ⟨key, hsplit, -, hlower⟩ := tokenPair_eq_some_iff.mp htoken
  refine ⟨token, List.mem_filterMap.mpr ⟨_, hpiece, htoken⟩, ?_⟩
  have hkey : key.toList = (Library.lastPart '&' pair.1.toList).takeWhile (· != '=') := by
    rw [Library.takeWhile_of_splitOnce hsplit, String.toList_ofList, List.append_assoc,
      List.singleton_append, Library.takeWhile_append_cons]
  rw [hlower, mainKey, toAsciiLowercase, toAsciiLowercase, String.toList_ofList,
    String.toList_ofList, Library.lastPart_map_toLower (by decide),
    Library.takeWhile_map_toLower (by decide), hkey]

/-- Pairs whose keys agree up to the case of letters are refused. -/
theorem nodup_keys_of_parseQueryPairs (h : parseQueryPairs (pairsText pairs) = .ok tokens) :
    (pairs.map fun pair => toAsciiLowercase pair.1).Nodup := by
  obtain ⟨hpieces, rfl, hdistinct⟩ := parseQueryPairs_eq_ok_iff.mp h
  rw [isPiece_pairsText_iff] at hpieces
  rw [queryTokens_pairsText] at hdistinct
  clear h
  induction pairs with
  | nil => exact List.nodup_nil
  | cons pair pairs ih =>
    obtain ⟨hpair, hpieces⟩ := List.forall_mem_cons.mp hpieces
    rw [List.flatMap_cons, List.map_append] at hdistinct
    rw [List.map_cons, List.nodup_cons]
    refine ⟨fun hmem => ?_, ih hpieces hdistinct.of_append_right⟩
    obtain ⟨other, hother, hkeys⟩ := List.mem_map.mp hmem
    obtain ⟨token, htoken, hkey⟩ := exists_token hpair
    obtain ⟨token', htoken', hkey'⟩ := exists_token (hpieces other hother)
    have hsame : token'.1 = token.1 := by
      rw [← String.toList_inj, hkey, hkey', hkeys]
    refine List.disjoint_of_nodup_append hdistinct (List.mem_map_of_mem htoken) ?_
    rw [← hsame]
    exact List.mem_map_of_mem (List.mem_flatMap.mpr ⟨other, hother, htoken'⟩)

/-- A pair is read as it is written, up to the case of the key, if no separators are in the way. -/
theorem queryTokens_pairText {pair : String × String} (hkey : '&' ∉ pair.1.toList)
    (hvalue : '&' ∉ pair.2.toList)
    (hpieces : ∀ piece ∈ splitAll '&' (pairText pair), IsQueryPiece piece)
    (hequals : ∀ token ∈ queryTokens (pairText pair), '=' ∉ token.2.toList) :
    queryTokens (pairText pair) = [(toAsciiLowercase pair.1, pair.2)] := by
  have hsplit : splitAll '&' (pairText pair) = [pairText pair] := by
    refine Library.splitAll_eq (by simp [List.intercalate]) (List.cons_ne_nil _ _) ?_
    simp [pairText, hkey, hvalue]
  have hpiece : IsQueryPiece (pairText pair) := by
    refine hpieces _ ?_
    rw [hsplit]
    exact List.mem_singleton_self _
  obtain ⟨token, htoken⟩ :=
    Option.isSome_iff_exists.mp (hpiece.resolve_left (pairText_ne_empty pair))
  obtain ⟨key, hread, -, hlower⟩ := tokenPair_eq_some_iff.mp htoken
  rw [queryTokens, hsplit, List.filterMap_cons, htoken, List.filterMap_nil] at hequals ⊢
  -- An equals sign in the key would be left over for the value.
  have hmark : '=' ∉ pair.1.toList := by
    intro hmark
    obtain ⟨⟨front, back⟩, hfront⟩ := Option.ne_none_iff_exists'.mp fun hnone =>
      Library.splitOnce_eq_none_iff.mp hnone hmark
    have hagain := Library.splitOnce_append (Library.splitOnce_append hfront "=") pair.2
    rw [pairText, hagain] at hread
    have hback := (Prod.mk.inj (Option.some.inj hread)).2
    exact hequals token (List.mem_singleton_self _) (by simp [← hback])
  have hself : splitOnce '=' (pairText pair) = some (pair.1, pair.2) :=
    Library.splitOnce_eq_some (by simp [pairText]) hmark
  obtain ⟨rfl, htext⟩ := Prod.mk.inj (Option.some.inj (hread.symm.trans hself))
  exact congrArg (fun token => [token]) (Prod.ext hlower htext)

private theorem queryTokens_of_build
    (hamp : ∀ pair ∈ pairs, '&' ∉ pair.1.toList ∧ '&' ∉ pair.2.toList)
    (htokens : parseQueryPairs (pairsText pairs) = .ok tokens)
    (hbuild : EndpointSpec.build externals scheme body name tokens = .ok spec) :
    tokens = pairs.map fun pair => (toAsciiLowercase pair.1, pair.2) := by
  obtain ⟨hpieces, rfl, -⟩ := parseQueryPairs_eq_ok_iff.mp htokens
  rw [isPiece_pairsText_iff] at hpieces
  rw [queryTokens_pairsText] at hbuild ⊢
  rw [List.map_eq_flatMap]
  refine List.flatMap_congr fun pair hpair => ?_
  refine queryTokens_pairText (hamp pair hpair).1 (hamp pair hpair).2 (hpieces pair hpair) ?_
  intro token htoken
  obtain ⟨_, _, hset⟩ := exists_sets_of_build hbuild (List.mem_flatMap.mpr ⟨pair, hpair, htoken⟩)
  exact (IsReserved.not_mem_of_sets (by decide) hset).2

end Arguments

section Order

open EndpointSpec (parse)

variable {externals : Externals} {scheme body : String} {name : Option String}
  {pairs pairs' : List (String × String)} {spec : EndpointSpec}

/-- The part of an argument in front of its query. -/
def headText (scheme body : String) (name : Option String) : String :=
  scheme ++ ":" ++ body ++ name.elim "" ("#" ++ ·)

/-- An argument with a query. The parts may be any texts. -/
def argumentText (scheme body : String) (name : Option String) (pairs : List (String × String)) :
    String :=
  headText scheme body name ++ "?" ++ pairsText pairs

private theorem colon_mem_headText : ':' ∈ (headText scheme body name).toList := by
  simp [headText]

/-- Permuting the pairs of an argument that is accepted. -/
theorem parse_perm (hperm : pairs.Perm pairs')
    (h : parse externals (argumentText scheme body name pairs) = .ok spec) :
    parse externals (argumentText scheme body name pairs') = .ok spec := by
  obtain ⟨kind, text, explicit, tokens, hhead, hhash, htokens, hbuild⟩ :=
    (parse_query_eq_ok_iff colon_mem_headText).mp h
  obtain ⟨tokens', htokens', htokensPerm⟩ := parseQueryPairs_perm hperm htokens
  refine (parse_query_eq_ok_iff colon_mem_headText).mpr
    ⟨kind, text, explicit, tokens', hhead, fun hnone => ?_, htokens', ?_⟩
  · have hnot := hhash hnone
    rw [mem_pairsText_iff (by decide)] at hnot ⊢
    rintro ⟨pair, hpair, hmem⟩
    exact hnot ⟨pair, hperm.mem_iff.mpr hpair, hmem⟩
  · exact build_perm htokensPerm (parseQueryPairs_eq_ok_iff.mp htokens).2.2 hbuild

/-- Without its pairs, an argument gives the endpoint with the defaults of all options. -/
theorem parse_bare (h : parse externals (argumentText scheme body name pairs) = .ok spec) :
    parse externals (argumentText scheme body name []) = .ok ⟨spec.kind.bare, spec.name⟩ := by
  obtain ⟨kind, text, explicit, tokens, hhead, hhash, htokens, hbuild⟩ :=
    (parse_query_eq_ok_iff colon_mem_headText).mp h
  obtain ⟨hkind, hvalid, hname⟩ := build_eq_ok_iff.mp hbuild
  obtain ⟨first, hfirst, hbare, hrun⟩ := parseKind_eq_ok_iff.mp hkind
  have hsame : spec.kind.bare = first := (independentFields_sets.base_eq_of_run hrun).trans hbare
  refine (parse_query_eq_ok_iff colon_mem_headText).mpr
    ⟨kind, text, explicit, [], hhead, fun _ => by decide, rfl, ?_⟩
  refine build_eq_ok_iff.mpr ⟨by rw [hsame]; exact hfirst, hvalid, ?_⟩
  rw [hname, defaultName_bare]

/-- The fields of a specification are what its pairs say. -/
theorem reflects_of_parse (h : parse externals (argumentText scheme body name pairs) = .ok spec)
    (option : OptionKey) :
    option.Reflects spec.kind ((queryTokens (pairsText pairs)).lookup option.name) := by
  obtain ⟨kind, text, explicit, tokens, -, -, htokens, hbuild⟩ :=
    (parse_query_eq_ok_iff colon_mem_headText).mp h
  obtain ⟨-, rfl, hdistinct⟩ := parseQueryPairs_eq_ok_iff.mp htokens
  obtain ⟨first, -, hbare, hrun⟩ := parseKind_eq_ok_iff.mp (build_eq_ok_iff.mp hbuild).1
  have hreflects := independentFields_sets.reflects_of_run hrun hdistinct
    (fun key => EndpointKind.reflects_bare hbare key) option.name option rfl
  rwa [Option.or_none] at hreflects

/-- A query without pairs may be left out. -/
theorem parse_headText (h : '?' ∉ (headText scheme body name).toList) :
    parse externals (headText scheme body name) = .ok spec ↔
      parse externals (argumentText scheme body name []) = .ok spec := by
  have hcolon : ':' ∈ (headText scheme body name).toList := colon_mem_headText
  rw [argumentText]
  generalize headText scheme body name = head at h hcolon ⊢
  obtain ⟨⟨schemeStr, rest⟩, hhead⟩ := Option.ne_none_iff_exists'.mp fun hnone =>
    Library.splitOnce_eq_none_iff.mp hnone hcolon
  have hrest : '?' ∉ rest.toList := by
    rw [Library.splitOnce_spec hhead, List.mem_append, List.mem_cons] at h
    exact fun hmem => h (.inr (.inr hmem))
  obtain ⟨text, explicit, hsplit⟩ : ∃ text explicit,
      splitBodyNameQuery rest = (text, explicit, none) := by
    cases hhash : splitOnce '#' rest with
    | none =>
      refine ⟨rest, none, ?_⟩
      simp only [splitBodyNameQuery, hhash, Library.splitOnce_eq_none hrest]
    | some parts =>
      have hafter : '?' ∉ parts.2.toList := by
        rw [Library.splitOnce_spec hhash, List.mem_append, List.mem_cons] at hrest
        exact fun hmem => hrest (.inr (.inr hmem))
      refine ⟨parts.1, some parts.2, ?_⟩
      simp only [splitBodyNameQuery, hhash, Library.splitOnce_eq_none hafter]
  have hinput : splitOnce ':' (head ++ "?" ++ pairsText []) =
      some (schemeStr, rest ++ "?" ++ pairsText []) :=
    Library.splitOnce_append (Library.splitOnce_append hhead "?") _
  have hquery : splitBodyNameQuery (rest ++ "?" ++ pairsText []) =
      (text, explicit, some (pairsText [])) :=
    splitBodyNameQuery_append hsplit fun _ => by decide
  rw [parse_eq_ok_iff, parse_eq_ok_iff, hhead, hinput]
  constructor
  · rintro ⟨_, _, kind, tokens, ⟨⟩, hkind, h⟩
    rw [hsplit] at h
    refine ⟨schemeStr, _, kind, tokens, rfl, hkind, ?_⟩
    rwa [hquery]
  · rintro ⟨_, _, kind, tokens, ⟨⟩, hkind, h⟩
    rw [hquery] at h
    refine ⟨schemeStr, rest, kind, tokens, rfl, hkind, ?_⟩
    rwa [hsplit]

/-- The order of the options is irrelevant. For all texts of the parts of an argument: with its
pairs in another order it gives the same specification, or none in both cases; two pairs whose
keys agree up to the case of letters are refused; and if it is accepted, then every pair that is
read from it belongs to an option and determines its field, the options that are not named have
their defaults, and the rest of the specification does not depend on the pairs. Pairs without an
ampersand are read as they are written, with the keys in lower case; and a query without pairs may
be left out with its question mark. -/
theorem option_order_irrelevant (externals : Externals) (scheme body : String)
    (name : Option String) (pairs : List (String × String)) :
    (∀ pairs', pairs.Perm pairs' →
      (∃ spec, parse externals (argumentText scheme body name pairs) = .ok spec ∧
        parse externals (argumentText scheme body name pairs') = .ok spec) ∨
      ∃ error error', parse externals (argumentText scheme body name pairs) = .error error ∧
        parse externals (argumentText scheme body name pairs') = .error error') ∧
    (¬ (pairs.map fun pair => toAsciiLowercase pair.1).Nodup →
      ∃ error, parse externals (argumentText scheme body name pairs) = .error error) ∧
    (∀ spec, parse externals (argumentText scheme body name pairs) = .ok spec →
      parse externals (argumentText scheme body name []) = .ok ⟨spec.kind.bare, spec.name⟩ ∧
      (∀ token ∈ queryTokens (pairsText pairs), ∃ option : OptionKey, option.name = token.1) ∧
      (∀ option : OptionKey,
        option.Reflects spec.kind ((queryTokens (pairsText pairs)).lookup option.name)) ∧
      ((∀ pair ∈ pairs, '&' ∉ pair.1.toList ∧ '&' ∉ pair.2.toList) →
        queryTokens (pairsText pairs) =
          pairs.map fun pair => (toAsciiLowercase pair.1, pair.2))) ∧
    ('?' ∉ (headText scheme body name).toList → ∀ spec,
      parse externals (headText scheme body name) = .ok spec ↔
        parse externals (argumentText scheme body name []) = .ok spec) := by
  refine ⟨?_, ?_, ?_, fun hmark spec => parse_headText hmark⟩
  · intro pairs' hperm
    cases hparse : parse externals (argumentText scheme body name pairs) with
    | ok spec => exact .inl ⟨spec, rfl, parse_perm hperm hparse⟩
    | error error =>
      cases hparse' : parse externals (argumentText scheme body name pairs') with
      | ok spec => cases hparse.symm.trans (parse_perm hperm.symm hparse')
      | error error' => exact .inr ⟨error, error', rfl, rfl⟩
  · intro hkeys
    cases hparse : parse externals (argumentText scheme body name pairs) with
    | error error => exact ⟨error, rfl⟩
    | ok spec =>
      obtain ⟨_, _, _, tokens, -, -, htokens, -⟩ :=
        (parse_query_eq_ok_iff colon_mem_headText).mp hparse
      exact absurd (nodup_keys_of_parseQueryPairs htokens) hkeys
  · intro spec hparse
    obtain ⟨_, _, _, tokens, -, -, htokens, hbuild⟩ :=
      (parse_query_eq_ok_iff colon_mem_headText).mp hparse
    obtain ⟨-, rfl, -⟩ := parseQueryPairs_eq_ok_iff.mp htokens
    refine ⟨parse_bare hparse, ?_, reflects_of_parse hparse, ?_⟩
    · intro token htoken
      obtain ⟨_, _, hset⟩ := exists_sets_of_build hbuild htoken
      obtain ⟨option, hname, -⟩ := reflects_of_sets hset
      exact ⟨option, hname.symm⟩
    · intro hamp
      exact queryTokens_of_build hamp htokens hbuild

/-- With the options `sniffer=true` and `Group=up` in either order, an argument gives the same
specification. -/
theorem option_order_irrelevant_two_options :
    let externals : Externals := ⟨fun _ => none, ⟨fun _ => "", fun _ => ""⟩, fun _ _ => 0⟩
    parse externals "tcpc:gcs.local:5760#vehicle?Group=up&sniffer=true" =
      .ok ⟨.tcpClient ⟨"gcs.local", 5760, { sniffer := true, group := some "up" }⟩,
        "vehicle"⟩ := by
  intro externals
  have hparse : parse externals (argumentText "tcpc" "gcs.local:5760" (some "vehicle")
      [("sniffer", "true"), ("Group", "up")]) =
      .ok ⟨.tcpClient ⟨"gcs.local", 5760, { sniffer := true, group := some "up" }⟩,
        "vehicle"⟩ := by
    decide +kernel
  have horder := (option_order_irrelevant externals "tcpc" "gcs.local:5760" (some "vehicle")
    [("sniffer", "true"), ("Group", "up")]).1 [("Group", "up"), ("sniffer", "true")]
    (List.Perm.swap _ _ _)
  rcases horder with ⟨spec, hleft, hright⟩ | ⟨error, _, hleft, -⟩
  · rw [hparse] at hleft
    cases hleft
    exact hright
  · rw [hparse] at hleft
    cases hleft

end Order

end MavlinkRouter
