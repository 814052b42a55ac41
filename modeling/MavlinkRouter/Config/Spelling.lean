import MavlinkRouter.Config.WellFormed

/-!
# Writing specifications

Every well-formed specification can be written, as an argument of the command line and as a table
of the configuration file: options that are not at their default are spelled out under their keys,
and a host is put in brackets where it has to be. What is written is read back as it was. So the
specifications that are accepted are exactly the well-formed ones; the command line only lacks the
addresses with a hash or a question mark in them.
-/

namespace MavlinkRouter

open Library (splitOnce stripFirst parseUnsigned splitAll trim SettingRun map_eq_ok)

def EndpointKind.scheme : EndpointKind → Scheme
  | .serial _ => .serial
  | .udpServer _ => .udpServer
  | .udpClient _ => .udpClient
  | .tcpServer _ => .tcpServer
  | .tcpClient _ => .tcpClient

section Lists

/-- A range, or one number if that is all there is in it. -/
def rangeText (range : ℕ × ℕ) : String :=
  if range.1 = range.2 then toString range.1
  else toString range.1 ++ "-" ++ toString range.2

/-- The entries of a list with commas between them. An empty list is not written. -/
def listText {ρ : Type} (text : ρ → String) (entries : List ρ) : Option String :=
  if entries.isEmpty then none else some (",".intercalate (entries.map text))

private theorem listText_eq_none {ρ : Type} {text : ρ → String} {entries : List ρ}
    (h : listText text entries = none) : entries = [] := by
  unfold listText at h
  split at h
  · rename_i hempty
    exact List.isEmpty_iff.mp hempty
  · cases h

private theorem listText_eq_some {ρ : Type} {text : ρ → String} {entries : List ρ}
    {written : String} (h : listText text entries = some written) :
    entries ≠ [] ∧
      written.toList = [','].intercalate (entries.map fun entry => (text entry).toList) := by
  unfold listText at h
  split at h
  · cases h
  · rename_i hempty
    cases h
    refine ⟨fun hnil => hempty (by rw [hnil]; rfl), ?_⟩
    simp [String.toList_intercalate, List.map_map, Function.comp_def]

/-- A range is an item of a list. -/
theorem isItem_rangeText {range : ℕ × ℕ} (h : range.1 ≤ range.2) :
    IsItem Library.IsSignedNumeral (rangeText range).toList range := by
  obtain ⟨lo, hi⟩ := range
  have hnumeral : ∀ number : ℕ, Library.IsSignedNumeral (toString number).toList number :=
    fun number => .of_isNumeral (Library.isNumeral_toString number)
  unfold rangeText
  split
  · rename_i heq
    cases heq
    simpa using IsItem.single Library.blank_nil Library.blank_nil (hnumeral lo)
  · simpa using IsItem.range Library.blank_nil Library.blank_nil Library.blank_nil
      Library.blank_nil (hnumeral lo) (hnumeral hi) h

/-- The ranges of a list are read back. -/
theorem isRangeList_listText {ranges : List (ℕ × ℕ)} {bound : ℕ} {written : String}
    (h : listText rangeText ranges = some written) (hle : ∀ range ∈ ranges, range.1 ≤ range.2)
    (hbound : ∀ range ∈ ranges, range.2 < bound) :
    IsRangeList Library.IsSignedNumeral bound written.toList ranges := by
  obtain ⟨hne, htext⟩ := listText_eq_some h
  refine ⟨ranges.map fun range => (rangeText range).toList, ?_, htext, ?_⟩
  · simpa using hne
  · rw [List.forall₂_map_left_iff]
    exact List.forall₂_same.mpr fun range hrange =>
      ⟨isItem_rangeText (hle range hrange), hbound range hrange⟩

private theorem trim_of_nameMatchesRegex {name : String} (h : nameMatchesRegex name = true) :
    trim name = name := by
  refine Library.trim_eq_self fun char hmem => ?_
  rcases (nameMatchesRegex_iff.mp h).2 char hmem with halnum | rfl | rfl
  · exact Library.isWhitespace_eq_false_of_isAlphanum halnum
  · decide
  · decide

/-- The names of a list are read back. -/
theorem parseEndpointNameList_listText {names : List String} {written key : String}
    (h : listText id names = some written) (hnames : ∀ name ∈ names, nameMatchesRegex name = true) :
    splitAll ',' written = names ∧ parseEndpointNameList written key = .ok names := by
  obtain ⟨hne, htext⟩ := listText_eq_some h
  have hsplit : splitAll ',' written = names := by
    refine Library.splitAll_eq htext hne fun name hname hcomma => ?_
    rcases (nameMatchesRegex_iff.mp (hnames name hname)).2 ',' hcomma with h | h | h <;> cases h
  refine ⟨hsplit, ?_⟩
  rw [parseEndpointNameList, parseList_eq_ok_iff, hsplit]
  refine List.forall₂_same.mpr fun name hname => ?_
  have hvalid := hnames name hname
  rw [trim_of_nameMatchesRegex hvalid]
  refine ⟨?_, ?_⟩
  · rw [Bool.eq_false_iff, ne_eq, String.isEmpty_iff]
    exact (nameMatchesRegex_iff.mp hvalid).1
  · rw [validateNameValue, if_pos hvalid]
    rfl

end Lists

section Options

variable {kind : EndpointKind} {option : OptionKey} {text : String}

/-- What is written under a key to get the options of an endpoint. -/
def OptionKey.written (kind : EndpointKind) : OptionKey → Option String
  | .filter (.range key) => listText rangeText (key.get kind.identity.filters)
  | .filter (.names list) => listText id (list.names kind.identity.filters)
  | .sniffer => (if kind.identity.sniffer then some true else none).map toString
  | .group => kind.identity.group
  | .flowControl =>
    match kind with
    | .serial ⟨_, _, .rtsCts, _⟩ => some "rtscts"
    | _ => none
  | .idleSecs =>
    match kind with
    | .udpServer endpoint => endpoint.idleSecs.map toString
    | _ => none
  | .latchIdleSecs =>
    match kind with
    | .udpClient endpoint => endpoint.latchIdleSecs.map toString
    | _ => none

/-- The keys in the order in which a table has them. -/
def OptionKey.all : List OptionKey :=
  [.flowControl, .idleSecs, .latchIdleSecs, .sniffer, .group,
    .filter (.range ⟨.allow, .msgid, .ingress⟩), .filter (.range ⟨.block, .msgid, .ingress⟩),
    .filter (.range ⟨.allow, .msgid, .egress⟩), .filter (.range ⟨.block, .msgid, .egress⟩),
    .filter (.range ⟨.allow, .srcSys, .ingress⟩), .filter (.range ⟨.block, .srcSys, .ingress⟩),
    .filter (.range ⟨.allow, .srcSys, .egress⟩), .filter (.range ⟨.block, .srcSys, .egress⟩),
    .filter (.range ⟨.allow, .srcComp, .ingress⟩), .filter (.range ⟨.block, .srcComp, .ingress⟩),
    .filter (.range ⟨.allow, .srcComp, .egress⟩), .filter (.range ⟨.block, .srcComp, .egress⟩),
    .filter (.names .allow), .filter (.names .block)]

private theorem OptionKey.mem_all (option : OptionKey) : option ∈ all := by
  cases option with
  | filter key =>
    rcases key with ⟨kind, axis, direction⟩ | kind
    · cases kind <;> cases axis <;> cases direction <;> decide
    · cases kind <;> decide
  | _ => decide

private theorem parseSecs_toString {secs : UInt64} {key : String} {min max : ℕ}
    (h : min ≤ secs.toNat ∧ secs.toNat ≤ max) :
    (parseSecs (toString secs) key min max).map some = .ok (some secs) := by
  have hnumber : parseU64 (toString secs) key = .ok secs.toNat := by
    have hparse : parseUnsigned (2 ^ 64) (toString secs) = some secs.toNat :=
      Library.parseUnsigned_toString secs.toNat_lt
    rw [parseU64, hparse]
  have hcheck : checkU64Range secs.toNat key min max = .ok secs.toNat := by
    rw [checkU64Range, if_neg (by omega)]
  refine map_eq_ok.mpr ⟨secs, ?_, rfl⟩
  refine Library.bind_eq_ok.mpr ⟨_, hnumber, Library.bind_eq_ok.mpr ⟨_, hcheck, ?_⟩⟩
  rw [UInt64.ofNat_toNat]
  rfl

private theorem RangeKey.get_lt_bound (key : RangeKey) (filters : Filters) :
    ∀ range ∈ key.get filters, range.2 < key.bound := by
  have hmsgid : ∀ ranges : List MsgIdRange, ∀ range ∈ ranges.map MsgIdRange.toPair,
      range.2 < 2 ^ 32 := by
    simp only [List.forall_mem_map]
    exact fun _ range _ => range.hi.toNat_lt
  have hu8 : ∀ ranges : List U8Range, ∀ range ∈ ranges.map U8Range.toPair, range.2 < 2 ^ 8 := by
    simp only [List.forall_mem_map]
    exact fun _ range _ => range.hi.toNat_lt
  obtain ⟨kind, axis, direction⟩ := key
  cases axis <;> cases kind <;> cases direction <;> first | exact hmsgid _ | exact hu8 _

/-- What is written under a key is accepted, and is what the endpoint has there. -/
theorem OptionKey.sets_written (hidentity : kind.identity.WellFormed) (htimed : kind.Timed)
    (h : option.written kind = some text) :
    (∃ next, kind.Sets option.name text next) ∧ option.Reflects kind (some text) := by
  cases option with
  | filter key =>
    cases key with
    | range key =>
      have hranges := isRangeList_listText h (hidentity.ranges key)
        (key.get_lt_bound kind.identity.filters)
      exact ⟨⟨_, .filter (apply_rangeKey_eq_ok_iff.mpr ⟨_, hranges, rfl⟩)⟩, hranges⟩
    | names list =>
      have hnames := hidentity.names list
      obtain ⟨hsplit, hparse⟩ := parseEndpointNameList_listText h hnames
      refine ⟨⟨_, .filter (apply_nameKey_eq_ok_iff.mpr ⟨_, hparse, rfl⟩)⟩, ?_⟩
      change list.names kind.identity.filters = (splitAll ',' text).map trim
      have htrim : (list.names kind.identity.filters).map trim =
          (list.names kind.identity.filters).map id :=
        List.map_congr_left fun name hname => trim_of_nameMatchesRegex (hnames name hname)
      rw [hsplit, htrim, List.map_id]
  | sniffer =>
    obtain ⟨sniffer, hsniffer, rfl⟩ := Option.map_eq_some_iff.mp h
    have hparse : parseBool (toString sniffer) "sniffer" = .ok kind.identity.sniffer := by
      split at hsniffer
      · rename_i htrue
        cases hsniffer
        rw [htrue]
        rfl
      · cases hsniffer
    exact ⟨⟨_, .sniffer hparse⟩, hparse⟩
  | group =>
    have hparse : parseGroup text = .ok kind.identity.group := by
      change kind.identity.group = some text at h
      rw [parseGroup, validateNameValue, if_pos (hidentity.group text h), h]
      rfl
    exact ⟨⟨_, .group hparse⟩, hparse⟩
  | flowControl =>
    cases kind with
    | serial endpoint =>
      obtain ⟨path, baud, flowControl, identity⟩ := endpoint
      cases flowControl with
      | none => cases h
      | rtsCts =>
        cases h
        exact ⟨⟨_, .flowControl rfl⟩, rfl⟩
    | _ => cases h
  | idleSecs =>
    cases kind with
    | udpServer endpoint =>
      obtain ⟨secs, hsecs, rfl⟩ := Option.map_eq_some_iff.mp h
      have hparse : parseIdleSecs (toString secs) = .ok endpoint.idleSecs := by
        rw [hsecs]
        exact parseSecs_toString (htimed secs hsecs)
      exact ⟨⟨_, .idleSecs hparse⟩, hparse⟩
    | _ => cases h
  | latchIdleSecs =>
    cases kind with
    | udpClient endpoint =>
      obtain ⟨secs, hsecs, rfl⟩ := Option.map_eq_some_iff.mp h
      have hparse : parseLatchIdleSecs (toString secs) = .ok endpoint.latchIdleSecs := by
        rw [hsecs]
        exact parseSecs_toString (htimed secs hsecs)
      exact ⟨⟨_, .latchIdleSecs hparse⟩, hparse⟩
    | _ => cases h

/-- What is not written is at its default. -/
theorem OptionKey.reflects_of_unwritten (h : option.written kind = none) :
    option.Reflects kind none := by
  cases option with
  | filter key => cases key <;> exact listText_eq_none h
  | sniffer =>
    have hsniffer := Option.map_eq_none_iff.mp h
    split at hsniffer
    · cases hsniffer
    · rename_i hfalse
      exact Bool.eq_false_iff.mpr hfalse
  | group => exact h
  | flowControl =>
    cases kind with
    | serial endpoint =>
      obtain ⟨path, baud, flowControl, identity⟩ := endpoint
      cases flowControl with
      | none => rfl
      | rtsCts => cases h
    | _ => rfl
  | idleSecs => cases kind <;> first | rfl | exact Option.map_eq_none_iff.mp h
  | latchIdleSecs => cases kind <;> first | rfl | exact Option.map_eq_none_iff.mp h

private theorem OptionKey.reflects_written (hidentity : kind.identity.WellFormed)
    (htimed : kind.Timed) (option : OptionKey) : option.Reflects kind (option.written kind) := by
  cases h : option.written kind with
  | none => exact reflects_of_unwritten h
  | some text => exact (sets_written hidentity htimed h).2

end Options

section Tables

variable {kind : EndpointKind} {literal name : String}

/-- A host as a table has it: in brackets if it would lose its first one otherwise. -/
def hostText (host : String) : String :=
  if ':' ∉ host.toList ∧ host.toList.head? = some '[' then "[" ++ host ++ "]" else host

/-- A host and a port in one text. -/
def hostPortText (host : String) (port : UInt16) : String :=
  if ':' ∈ host.toList ∨ host.toList.head? = some '[' then "[" ++ host ++ "]:" ++ toString port
  else host ++ ":" ++ toString port

/-- The table of an endpoint, which listens on the address of a literal if it is a server. -/
def EndpointKind.entry (literal : String) (kind : EndpointKind) : TomlEndpoint where
  scheme := kind.scheme.asStr
  path :=
    match kind with
    | .serial endpoint => some endpoint.path
    | _ => none
  baud :=
    match kind with
    | .serial endpoint => some endpoint.baud
    | _ => none
  flowControl := OptionKey.flowControl.written kind
  bind :=
    match kind with
    | .udpServer endpoint => some (hostPortText literal endpoint.bindAddr.port)
    | .tcpServer endpoint => some (hostPortText literal endpoint.bindAddr.port)
    | _ => none
  host :=
    match kind with
    | .udpClient endpoint => some (hostText endpoint.host)
    | .tcpClient endpoint => some (hostText endpoint.host)
    | _ => none
  port :=
    match kind with
    | .udpClient endpoint => some endpoint.port
    | .tcpClient endpoint => some endpoint.port
    | _ => none
  idleSecs :=
    match kind with
    | .udpServer endpoint => endpoint.idleSecs
    | _ => none
  latchIdleSecs :=
    match kind with
    | .udpClient endpoint => endpoint.latchIdleSecs
    | _ => none
  sniffer := if kind.identity.sniffer then some true else none
  group := kind.identity.group
  allowMsgidIn := OptionKey.written kind (.filter (.range ⟨.allow, .msgid, .ingress⟩))
  blockMsgidIn := OptionKey.written kind (.filter (.range ⟨.block, .msgid, .ingress⟩))
  allowMsgidOut := OptionKey.written kind (.filter (.range ⟨.allow, .msgid, .egress⟩))
  blockMsgidOut := OptionKey.written kind (.filter (.range ⟨.block, .msgid, .egress⟩))
  allowSrcSysIn := OptionKey.written kind (.filter (.range ⟨.allow, .srcSys, .ingress⟩))
  blockSrcSysIn := OptionKey.written kind (.filter (.range ⟨.block, .srcSys, .ingress⟩))
  allowSrcSysOut := OptionKey.written kind (.filter (.range ⟨.allow, .srcSys, .egress⟩))
  blockSrcSysOut := OptionKey.written kind (.filter (.range ⟨.block, .srcSys, .egress⟩))
  allowSrcCompIn := OptionKey.written kind (.filter (.range ⟨.allow, .srcComp, .ingress⟩))
  blockSrcCompIn := OptionKey.written kind (.filter (.range ⟨.block, .srcComp, .ingress⟩))
  allowSrcCompOut := OptionKey.written kind (.filter (.range ⟨.allow, .srcComp, .egress⟩))
  blockSrcCompOut := OptionKey.written kind (.filter (.range ⟨.block, .srcComp, .egress⟩))
  allowSrcEndpointOut := OptionKey.written kind (.filter (.names .allow))
  blockSrcEndpointOut := OptionKey.written kind (.filter (.names .block))

private theorem options_entry (literal : String) (kind : EndpointKind) :
    (kind.entry literal).options =
      OptionKey.all.map fun option => (option.name, option.written kind) := by
  cases kind <;> rfl

/-- Each key is written with what belongs to it. -/
theorem mem_collectPairs_entry {pair : String × String} :
    pair ∈ (kind.entry literal).collectPairs ↔
      ∃ option : OptionKey, option.name = pair.1 ∧ option.written kind = some pair.2 := by
  obtain ⟨key, text⟩ := pair
  rw [TomlEndpoint.collectPairs, TomlEndpoint.setOptions, options_entry, List.filterMap_map,
    List.mem_filterMap]
  simp only [Function.comp_apply, Option.map_eq_some_iff, Prod.mk.injEq]
  constructor
  · rintro ⟨option, -, _, hwritten, rfl, rfl⟩
    exact ⟨option, rfl, hwritten⟩
  · rintro ⟨option, rfl, hwritten⟩
    exact ⟨option, option.mem_all, text, hwritten, rfl, rfl⟩

private theorem lookup_collectPairs_entry (option : OptionKey) :
    (kind.entry literal).collectPairs.lookup option.name = option.written kind := by
  refine Option.ext fun text => ?_
  rw [Library.lookup_eq_some_iff_mem (TomlEndpoint.nodup_keys_collectPairs _),
    mem_collectPairs_entry]
  constructor
  · rintro ⟨other, hname, hwritten⟩
    rwa [← OptionKey.name_injective hname]
  · exact fun hwritten => ⟨option, rfl, hwritten⟩

/-- The options of an endpoint are what its table sets. -/
theorem settingRun_entry (literal : String) (hidentity : kind.identity.WellFormed)
    (htimed : kind.Timed) :
    SettingRun EndpointKind.Sets kind.bare (kind.entry literal).collectPairs kind := by
  have hbare : kind.bare.bare = kind.bare := by cases kind <;> rfl
  refine independentFields_sets.run_of_reflects (TomlEndpoint.nodup_keys_collectPairs _)
    (EndpointKind.reflects_bare hbare) hbare.symm ?_ ?_
  · intro pair hpair
    obtain ⟨option, hname, hwritten⟩ := mem_collectPairs_entry.mp hpair
    obtain ⟨next, hset⟩ := (OptionKey.sets_written hidentity htimed hwritten).1
    rw [← hname]
    exact sets_of_bare_eq hbare.symm hset
  · rintro _ option rfl
    rw [lookup_collectPairs_entry, Option.or_none]
    exact option.reflects_written hidentity htimed

end Tables

section Bodies

variable {externals : Externals} {reserved : List Char} {scheme : Scheme} {kind : EndpointKind}
  {host literal name : String} {port : UInt16}

/-- A host is put in brackets where it has to be, and a table leaves it to the reader of the
table to do so if it can. -/
theorem hostText_cases (host : String) (port : UInt16) :
    hostPortText host port =
      if ':' ∈ (hostText host).toList then "[" ++ hostText host ++ "]:" ++ toString port
      else hostText host ++ ":" ++ toString port := by
  by_cases hcolon : ':' ∈ host.toList
  · have htext : hostText host = host := if_neg fun h => h.1 hcolon
    rw [htext, if_pos hcolon]
    exact if_pos (.inl hcolon)
  · by_cases hhead : host.toList.head? = some '['
    · have htext : hostText host = "[" ++ host ++ "]" := if_pos ⟨hcolon, hhead⟩
      have hbrackets : ':' ∉ ("[" ++ host ++ "]").toList := by simpa using hcolon
      rw [htext, if_neg hbrackets, hostPortText, if_pos (.inr hhead), ← String.toList_inj]
      simp
    · have htext : hostText host = host := if_neg fun h => hhead h.2
      rw [htext, if_neg hcolon]
      exact if_neg (not_or.mpr ⟨hcolon, hhead⟩)

private theorem splitHostPort_brackets (hclose : ']' ∉ host.toList) :
    splitHostPort ("[" ++ host ++ "]:" ++ toString port) scheme = .ok (host, toString port) := by
  have hopen : stripFirst '[' ("[" ++ host ++ "]:" ++ toString port) =
      some (host ++ "]:" ++ toString port) :=
    Library.stripFirst_eq_some.mpr (by simp)
  have hsplit : splitOnce ']' (host ++ "]:" ++ toString port) = some (host, ":" ++ toString port) :=
    Library.splitOnce_eq_some (by simp) hclose
  have hcolon : stripFirst ':' (":" ++ toString port) = some (toString port) :=
    Library.stripFirst_eq_some.mpr (by simp)
  simp only [splitHostPort, hopen, hsplit, hcolon]

private theorem splitHostPort_plain (hne : host ≠ "") (hcolon : ':' ∉ host.toList)
    (hhead : host.toList.head? ≠ some '[') :
    splitHostPort (host ++ ":" ++ toString port) scheme = .ok (host, toString port) := by
  have hopen : stripFirst '[' (host ++ ":" ++ toString port) = none := by
    rw [Option.eq_none_iff_forall_ne_some]
    intro rest hrest
    have htext := congrArg List.head? (Library.stripFirst_eq_some.mp hrest)
    obtain ⟨first, chars, hchars⟩ := List.exists_cons_of_ne_nil
      (mt String.toList_eq_nil_iff.mp hne)
    rw [hchars] at hhead
    simp only [String.toList_append, hchars, List.cons_append, List.head?_cons] at htext hhead
    exact hhead htext
  have hlast : ∀ char ∈ (toString port).toList, (fun char => decide (char = ':')) char = false := by
    intro char hchar
    have hdigit : char.isDigit = true := Library.isDigit_of_mem_toString hchar
    rw [decide_eq_false_iff_not]
    rintro rfl
    cases hdigit
  have hsplit : Library.rsplitOnce (fun char => char = ':') (host ++ ":" ++ toString port) =
      some (host, toString port) := by
    have htext : (host ++ ":" ++ toString port).toList =
        host.toList ++ ':' :: (toString port).toList := by simp
    exact Library.rsplitOnce_eq_some htext (by decide) hlast
  simp only [splitHostPort, hopen, hsplit, hcolon, if_false]

private theorem splitHostPort_hostPortText (h : IsHost reserved host) :
    splitHostPort (hostPortText host port) scheme = .ok (host, toString port) := by
  unfold hostPortText
  split
  · rename_i hbrackets
    refine splitHostPort_brackets ?_
    rcases h.brackets with hclose | hplain
    · exact hclose
    · exact absurd hbrackets (not_or.mpr hplain)
  · rename_i hplain
    obtain ⟨hcolon, hhead⟩ := not_or.mp hplain
    exact splitHostPort_plain h.nonempty hcolon hhead

/-- A host and a port are read back. -/
theorem parseHostPort_hostPortText (h : IsHost reserved host) :
    parseHostPort (hostPortText host port) scheme = .ok (host, port) := by
  have hbody : (hostPortText host port).isEmpty = false := by
    have hcolon : ':' ∈ (hostPortText host port).toList := by
      unfold hostPortText
      split <;> simp
    rw [Bool.eq_false_iff, ne_eq, String.isEmpty_iff]
    intro hempty
    rw [hempty] at hcolon
    cases hcolon
  have hhost : host.isEmpty = false := by
    rw [Bool.eq_false_iff, ne_eq, String.isEmpty_iff]
    exact h.nonempty
  unfold parseHostPort
  rw [hbody, splitHostPort_hostPortText h]
  change (if host.isEmpty = true then _ else _) = _
  rw [hhost, parseUnsigned_toString_uint16]
  change Except.ok (host, UInt16.ofNat port.toNat) = _
  rw [UInt16.ofNat_toNat]

private theorem parseListenAddr_hostPortText {ip : IpAddr} (h : IsHost reserved literal)
    (hip : externals.ipFromStr literal = some ip) :
    parseListenAddr externals (hostPortText literal port) scheme = .ok (.new port ip) := by
  simp only [parseListenAddr, parseHostPort_hostPortText h, Bind.bind, Except.bind, hip]
  rfl

/-- A path and a baud rate are read back. -/
theorem parseSerialBody_text {path : String} {baud : UInt32} (hpath : path ≠ "")
    (hbaud : baud ≠ 0) : parseSerialBody (path ++ ":" ++ toString baud) = .ok (path, baud) := by
  have htext : (path ++ ":" ++ toString baud).toList =
      path.toList ++ ':' :: (toString baud).toList := by simp
  have hlast : ∀ char ∈ (toString baud).toList,
      (fun char => char = ':' || char = ',') char = false := by
    intro char hchar
    have hdigit : char.isDigit = true := Library.isDigit_of_mem_toString hchar
    rw [Bool.or_eq_false_iff, decide_eq_false_iff_not, decide_eq_false_iff_not]
    constructor <;> rintro rfl <;> cases hdigit
  have hempty : (path ++ ":" ++ toString baud).isEmpty = false := by
    rw [Bool.eq_false_iff, ne_eq, String.isEmpty_iff, ← String.toList_eq_nil_iff, htext]
    exact List.append_ne_nil_of_right_ne_nil _ (List.cons_ne_nil _ _)
  have hpath' : path.isEmpty = false := by
    rwa [Bool.eq_false_iff, ne_eq, String.isEmpty_iff]
  have hzero : baud.toNat ≠ 0 := fun hzero => hbaud (UInt32.toNat_inj.mp hzero)
  simp only [parseSerialBody, hempty, Library.rsplitOnce_eq_some htext (by decide) hlast, hpath',
    parseUnsigned_toString_uint32, hzero, UInt32.ofNat_toNat, Bool.false_eq_true, if_false]

/-- The text of an address. -/
def EndpointKind.bodyText (literal : String) : EndpointKind → String
  | .serial endpoint => endpoint.path ++ ":" ++ toString endpoint.baud
  | .udpServer endpoint => hostPortText literal endpoint.bindAddr.port
  | .udpClient endpoint => hostPortText endpoint.host endpoint.port
  | .tcpServer endpoint => hostPortText literal endpoint.bindAddr.port
  | .tcpClient endpoint => hostPortText endpoint.host endpoint.port

private theorem synthesizeBody_entry (literal name : String) (kind : EndpointKind) :
    (kind.entry literal).synthesizeBody name kind.scheme = .ok (kind.bodyText literal) := by
  have hhostPort : ∀ {entry : TomlEndpoint} {scheme : Scheme} {host : String} {port : UInt16},
      entry.host = some (hostText host) → entry.port = some port →
      TomlEndpoint.synthesizeBody.synthesizeHostPort entry name scheme =
        .ok (hostPortText host port) := by
    intro entry scheme host port hhost hport
    unfold TomlEndpoint.synthesizeBody.synthesizeHostPort
    rw [hhost, hport, hostText_cases]
    change (if ':' ∈ (hostText host).toList then _ else _) = _
    split <;> rfl
  cases kind with
  | serial _ => rfl
  | udpServer _ => rfl
  | udpClient _ => exact hhostPort rfl rfl
  | tcpServer _ => rfl
  | tcpClient _ => exact hhostPort rfl rfl

/-- A table has only the fields of its type. -/
theorem mem_allowedFields_entry (literal : String) (kind : EndpointKind) :
    ∀ field ∈ (kind.entry literal).provided, field.2 = true →
      field.1 ∈ allowedFields kind.scheme := by
  cases kind <;>
    simp [TomlEndpoint.provided, EndpointKind.entry, EndpointKind.scheme, allowedFields,
      OptionKey.written]

/-- No character gets into a host and a port that was not in the host. -/
theorem not_mem_hostPortText {char : Char} (hhost : char ∉ host.toList)
    (hchar : char ∉ ['[', ']', ':'] ∧ char.isDigit = false) :
    char ∉ (hostPortText host port).toList := by
  have hport : char ∉ (toString port).toList := Library.not_mem_toString hchar.2
  have hseparators : char ≠ '[' ∧ char ≠ ']' ∧ char ≠ ':' := by simpa using hchar.1
  unfold hostPortText
  split <;> simp [hhost, hport, hseparators]

/-- The address of an endpoint is read back from its text. -/
theorem parseKind_bodyText (h : kind.Addressed externals reserved)
    (hreserved : ∀ char ∈ reserved, char ∉ ['[', ']', ':'] ∧ char.isDigit = false) :
    ∃ literal, parseKind externals kind.scheme (kind.bodyText literal) [] = .ok kind.bare ∧
      ∀ char ∈ reserved, char ∉ (kind.bodyText literal).toList := by
  have hserver : ∀ {bindAddr : SocketAddr} (scheme : Scheme),
      Bindable externals reserved bindAddr → ∃ literal,
        parseListenAddr externals (hostPortText literal bindAddr.port) scheme = .ok bindAddr ∧
        ∀ char ∈ reserved, char ∉ (hostPortText literal bindAddr.port).toList := by
    rintro _ scheme ⟨literal, ip, port, hhost, hip, rfl⟩
    have hport : (SocketAddr.new port ip).port = port := by cases ip <;> rfl
    rw [hport]
    exact ⟨literal, parseListenAddr_hostPortText hhost hip, fun char hchar =>
      not_mem_hostPortText (hhost.unreserved char hchar) (hreserved char hchar)⟩
  have hclient : ∀ {host : String} {port : UInt16}, IsHost reserved host →
      ∀ char ∈ reserved, char ∉ (hostPortText host port).toList :=
    fun hhost char hchar =>
      not_mem_hostPortText (hhost.unreserved char hchar) (hreserved char hchar)
  cases kind with
  | serial endpoint =>
    obtain ⟨hpath, hbaud, hplain⟩ := h
    refine ⟨"", ?_, fun char hchar => ?_⟩
    · simp only [EndpointKind.scheme, EndpointKind.bodyText, parseKind,
        parseSerialBody_text hpath hbaud]
      rfl
    · have hbaud' : char ∉ (toString endpoint.baud).toList :=
        Library.not_mem_toString (hreserved char hchar).2
      have hcolon : char ≠ ':' := by
        rintro rfl
        exact (hreserved ':' hchar).1 (by decide)
      simp [EndpointKind.bodyText, hplain char hchar, hbaud', hcolon]
  | udpServer endpoint =>
    obtain ⟨literal, hparse, hplain⟩ := hserver .udpServer h
    refine ⟨literal, ?_, hplain⟩
    simp only [EndpointKind.scheme, EndpointKind.bodyText, parseKind, hparse]
    rfl
  | udpClient endpoint =>
    refine ⟨"", ?_, hclient h⟩
    simp only [EndpointKind.scheme, EndpointKind.bodyText, parseKind,
      parseHostPort_hostPortText h]
    rfl
  | tcpServer endpoint =>
    obtain ⟨literal, hparse, hplain⟩ := hserver .tcpServer h
    refine ⟨literal, ?_, hplain⟩
    simp only [EndpointKind.scheme, EndpointKind.bodyText, parseKind, hparse]
    rfl
  | tcpClient endpoint =>
    refine ⟨"", ?_, hclient h⟩
    simp only [EndpointKind.scheme, EndpointKind.bodyText, parseKind,
      parseHostPort_hostPortText h]
    rfl

end Bodies

namespace EndpointSpec

variable {externals : Externals} {reserved : List Char} {spec : EndpointSpec}

/-- A well-formed specification is built from its text. -/
theorem WellFormed.build (h : spec.WellFormed externals reserved)
    (hreserved : ∀ char ∈ reserved, char ∉ ['[', ']', ':'] ∧ char.isDigit = false) :
    ∃ literal, EndpointSpec.build externals spec.kind.scheme (spec.kind.bodyText literal)
        (some spec.name) (spec.kind.entry literal).collectPairs = .ok spec ∧
      ∀ char ∈ reserved, char ∉ (spec.kind.bodyText literal).toList := by
  obtain ⟨literal, hbody, hplain⟩ := parseKind_bodyText h.address hreserved
  have hbare : spec.kind.bare.bare = spec.kind.bare := by cases spec.kind <;> rfl
  have hkind := parseKind_eq_ok_iff.mpr
    ⟨_, hbody, hbare, settingRun_entry literal h.identity h.timed⟩
  refine ⟨literal, build_eq_ok_iff.mpr ⟨hkind, ?_, rfl⟩, hplain⟩
  rintro _ ⟨⟩
  exact if_pos h.name

/-- Every well-formed endpoint has a table entry. -/
theorem WellFormed.intoSpec (h : spec.WellFormed externals []) :
    ∃ entry : TomlEndpoint, entry.intoSpec externals spec.name = .ok spec := by
  obtain ⟨literal, hbuild, -⟩ := h.build (List.forall_mem_nil _)
  have hscheme : Scheme.tryFromStr (spec.kind.entry literal).scheme = some spec.kind.scheme := by
    change Scheme.tryFromStr spec.kind.scheme.asStr = _
    cases spec.kind.scheme <;> rfl
  refine ⟨spec.kind.entry literal, ?_⟩
  rw [TomlEndpoint.intoSpec_eq externals hscheme (mem_allowedFields_entry literal spec.kind)
    (synthesizeBody_entry literal spec.name spec.kind), hbuild]
  rfl

/-- A well-formed endpoint can be written on the command line. -/
private theorem WellFormed.parse (h : spec.WellFormed externals ['#', '?']) :
    ∃ text, EndpointSpec.parse externals text = .ok spec := by
  have hreserved : ∀ char ∈ ['#', '?'], char ∉ ['[', ']', ':'] ∧ char.isDigit = false :=
    List.forall_mem_cons.mpr ⟨⟨by decide, rfl⟩, List.forall_mem_singleton.mpr ⟨by decide, rfl⟩⟩
  obtain ⟨literal, hbuild, hplain⟩ := h.build hreserved
  have hname : '?' ∉ spec.name.toList :=
    IsReserved.not_mem_of_nameMatchesRegex (by decide) h.name
  have hvalues : ∀ pair ∈ (spec.kind.entry literal).collectPairs, '&' ∉ pair.2.toList := by
    intro pair hpair
    obtain ⟨option, -, hwritten⟩ := mem_collectPairs_entry.mp hpair
    obtain ⟨next, hset⟩ := (OptionKey.sets_written h.identity h.timed hwritten).1
    exact (IsReserved.not_mem_of_sets (by decide) hset).2
  refine ⟨specText spec.kind.scheme (spec.kind.bodyText literal) spec.name
    (spec.kind.entry literal).collectPairs, ?_⟩
  rw [parse_specText externals (hplain '#' (by decide)) (hplain '?' (by decide)) hname
    (fun _ => TomlEndpoint.isQueryKey_of_mem_collectPairs)
    (TomlEndpoint.nodup_keys_collectPairs _) hvalues, hbuild]

/-- The specifications that the command line and the file can give. -/
theorem accepted_iff_wellFormed (externals : Externals) (spec : EndpointSpec) :
    ((∃ text, EndpointSpec.parse externals text = .ok spec) ↔
      spec.WellFormed externals ['#', '?']) ∧
    ((∃ entry : TomlEndpoint, entry.intoSpec externals spec.name = .ok spec) ↔
      spec.WellFormed externals []) := by
  refine ⟨⟨?_, WellFormed.parse⟩, ⟨?_, WellFormed.intoSpec⟩⟩
  · rintro ⟨text, htext⟩
    exact wellFormed_of_parse htext
  · rintro ⟨entry, hentry⟩
    exact (TomlEndpoint.wellFormed_of_intoSpec hentry).1

end EndpointSpec

end MavlinkRouter
