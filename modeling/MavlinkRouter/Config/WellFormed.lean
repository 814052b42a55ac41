import MavlinkRouter.Config.Bodies
import MavlinkRouter.Config.OptionFields

/-!
# Well-formed specifications

What an endpoint may be, whatever text it comes from: its name and the names it mentions are made
of letters, digits, underscores and hyphens, its ranges are not empty, its times are within their
bounds, and its address can be written. Every specification that is accepted is of this form, also
when its name has been made up from its address.
-/

namespace MavlinkRouter

open Library (splitOnce rsplitOnce stripFirst parseUnsigned bind_eq_ok map_eq_ok SettingRun)

/-- A host that can be written before a port, in brackets or without, and without the characters
that end the text of an address. -/
structure IsHost (reserved : List Char) (host : String) : Prop where
  nonempty : host ≠ ""
  brackets : ']' ∉ host.toList ∨ ':' ∉ host.toList ∧ host.toList.head? ≠ some '['
  unreserved : ∀ char ∈ reserved, char ∉ host.toList

/-- An address that the literal of an IP address and a port stand for. -/
def Bindable (externals : Externals) (reserved : List Char) (bindAddr : SocketAddr) : Prop :=
  ∃ literal ip port, IsHost reserved literal ∧ externals.ipFromStr literal = some ip ∧
    bindAddr = .new port ip

/-- The address of an endpoint can be written. -/
def EndpointKind.Addressed (externals : Externals) (reserved : List Char) : EndpointKind → Prop
  | .serial endpoint =>
    endpoint.path ≠ "" ∧ endpoint.baud ≠ 0 ∧ ∀ char ∈ reserved, char ∉ endpoint.path.toList
  | .udpServer endpoint => Bindable externals reserved endpoint.bindAddr
  | .udpClient endpoint => IsHost reserved endpoint.host
  | .tcpServer endpoint => Bindable externals reserved endpoint.bindAddr
  | .tcpClient endpoint => IsHost reserved endpoint.host

/-- No range is empty, and the names are names. -/
structure IdentityFlags.WellFormed (identity : IdentityFlags) : Prop where
  ranges : ∀ key : RangeKey, ∀ range ∈ key.get identity.filters, range.1 ≤ range.2
  names : ∀ list : ListKind, ∀ name ∈ list.names identity.filters, nameMatchesRegex name = true
  group : ∀ group ∈ identity.group, nameMatchesRegex group = true

/-- The times are within their bounds. -/
def EndpointKind.Timed : EndpointKind → Prop
  | .udpServer endpoint =>
    ∀ secs ∈ endpoint.idleSecs, minIdleSecs ≤ secs.toNat ∧ secs.toNat ≤ maxIdleSecs
  | .udpClient endpoint =>
    ∀ secs ∈ endpoint.latchIdleSecs,
      minLatchIdleSecs ≤ secs.toNat ∧ secs.toNat ≤ maxLatchIdleSecs
  | _ => True

/-- What a specification has to satisfy if its address is written without some characters. -/
structure EndpointSpec.WellFormed (externals : Externals) (reserved : List Char)
    (spec : EndpointSpec) : Prop where
  name : nameMatchesRegex spec.name = true
  address : spec.kind.Addressed externals reserved
  identity : spec.kind.identity.WellFormed
  timed : spec.kind.Timed

section Options

variable {kind next : EndpointKind} {key value : String}

/-- The default identity is well formed. -/
theorem IdentityFlags.wellFormed_default : ({} : IdentityFlags).WellFormed where
  ranges := by
    rintro ⟨kind, axis, direction⟩
    cases kind <;> cases axis <;> cases direction <;> exact List.forall_mem_nil _
  names list := by cases list <;> exact List.forall_mem_nil _
  group := by rintro _ ⟨⟩

/-- A name in an accepted list has been checked. -/
theorem nameMatchesRegex_of_parseEndpointNameList {names : List String}
    (h : parseEndpointNameList value key = .ok names) :
    ∀ name ∈ names, nameMatchesRegex name = true := by
  intro name hname
  obtain ⟨item, -, -, hitem⟩ := Library.exists_of_forall₂ (parseList_eq_ok_iff.mp h) hname
  obtain ⟨⟨⟩, hvalid, rfl⟩ := map_eq_ok.mp hitem
  exact nameMatchesRegex_of_validateNameValue hvalid

/-- A filter option keeps the filters well formed. -/
theorem IdentityFlags.WellFormed.apply {identity : IdentityFlags} (h : identity.WellFormed)
    {filters : Filters} (happly : identity.filters.apply key value = .ok (some filters)) :
    ({ identity with filters := filters } : IdentityFlags).WellFormed := by
  obtain ⟨accepted, rfl⟩ := exists_key_of_apply happly
  cases accepted with
  | range accepted =>
    obtain ⟨ranges, hranges, rfl⟩ := apply_rangeKey_eq_ok_iff.mp happly
    refine ⟨fun other => ?_, fun list => ?_, h.group⟩
    · by_cases hother : other = accepted
      · subst hother
        rw [RangeKey.get_set_self other hranges.lt]
        intro range hrange
        obtain ⟨items, -, -, hitems⟩ := hranges
        obtain ⟨item, -, hitem, -⟩ := Library.exists_of_forall₂ hitems hrange
        exact hitem.le
      · rw [RangeKey.get_set_of_ne hother]
        exact h.ranges other
    · rw [RangeKey.names_set]
      exact h.names list
  | names accepted =>
    obtain ⟨names, hnames, rfl⟩ := apply_nameKey_eq_ok_iff.mp happly
    refine ⟨fun other => ?_, fun list => ?_, h.group⟩
    · rw [RangeKey.get_setNames]
      exact h.ranges other
    · have hchecked := nameMatchesRegex_of_parseEndpointNameList hnames
      cases accepted <;> cases list
      · exact hchecked
      · exact h.names .block
      · exact h.names .allow
      · exact hchecked

private theorem parseSecs_bounded {min max : ℕ} {secs : Option UInt64} (hmax : max < 2 ^ 64)
    (h : (parseSecs value key min max).map some = .ok secs) :
    ∀ found ∈ secs, min ≤ found.toNat ∧ found.toNat ≤ max := by
  obtain ⟨found, hparse, rfl⟩ := map_eq_ok.mp h
  obtain ⟨number, -, hcheck⟩ := bind_eq_ok.mp hparse
  obtain ⟨checked, hchecked, hfound⟩ := bind_eq_ok.mp hcheck
  unfold checkU64Range at hchecked
  split at hchecked
  · cases hchecked
  · cases hchecked
    cases hfound
    rintro _ ⟨⟩
    rw [UInt64.toNat_ofNat', Nat.mod_eq_of_lt (by omega)]
    omega

private theorem wellFormed_withIdentity {identity : IdentityFlags} (hidentity : identity.WellFormed)
    (htimed : kind.Timed) :
    (kind.withIdentity identity).identity.WellFormed ∧ (kind.withIdentity identity).Timed := by
  refine ⟨?_, by cases kind <;> exact htimed⟩
  rwa [EndpointKind.identity_withIdentity]

/-- Every option keeps its endpoint well formed. -/
theorem wellFormed_of_sets (hset : kind.Sets key value next)
    (h : kind.identity.WellFormed ∧ kind.Timed) : next.identity.WellFormed ∧ next.Timed := by
  obtain ⟨hidentity, htimed⟩ := h
  cases hset with
  | filter happly => exact wellFormed_withIdentity (hidentity.apply happly) htimed
  | sniffer _ =>
    exact wellFormed_withIdentity ⟨hidentity.ranges, hidentity.names, hidentity.group⟩ htimed
  | group hparse =>
    refine wellFormed_withIdentity ⟨hidentity.ranges, hidentity.names, ?_⟩ htimed
    obtain ⟨⟨⟩, hvalid, rfl⟩ := map_eq_ok.mp hparse
    rintro _ ⟨⟩
    exact nameMatchesRegex_of_validateNameValue hvalid
  | flowControl _ => exact ⟨hidentity, htimed⟩
  | idleSecs hparse => exact ⟨hidentity, parseSecs_bounded (by decide) hparse⟩
  | latchIdleSecs hparse => exact ⟨hidentity, parseSecs_bounded (by decide) hparse⟩

/-- Without options there is nothing to check. -/
theorem wellFormed_of_bare (h : kind.bare = kind) : kind.identity.WellFormed ∧ kind.Timed := by
  rw [← h]
  cases kind with
  | serial _ => exact ⟨IdentityFlags.wellFormed_default, trivial⟩
  | udpServer _ => exact ⟨IdentityFlags.wellFormed_default, by rintro _ ⟨⟩⟩
  | udpClient _ => exact ⟨IdentityFlags.wellFormed_default, by rintro _ ⟨⟩⟩
  | tcpServer _ => exact ⟨IdentityFlags.wellFormed_default, trivial⟩
  | tcpClient _ => exact ⟨IdentityFlags.wellFormed_default, trivial⟩

end Options

section Addresses

variable {externals : Externals} {reserved : List Char} {scheme : Scheme} {body : String}
  {kind : EndpointKind}

private theorem addressed_bare : kind.bare.Addressed externals reserved ↔
    kind.Addressed externals reserved := by
  cases kind <;> exact Iff.rfl

/-- A host has been cut off at a bracket, or has none of the characters that call for brackets. -/
theorem brackets_of_splitHostPort {host portStr : String}
    (h : splitHostPort body scheme = .ok (host, portStr)) :
    ']' ∉ host.toList ∨ ':' ∉ host.toList ∧ host.toList.head? ≠ some '[' := by
  unfold splitHostPort at h
  split at h
  · split at h
    · cases h
    · rename_i hclose
      split at h
      · cases h
      · cases h
        exact .inl (Library.not_mem_of_splitOnce hclose)
  · rename_i hstrip
    split at h
    · cases h
    · rename_i hlast
      split at h
      · cases h
      · rename_i hcolon
        cases h
        refine .inr ⟨hcolon, fun hhead => ?_⟩
        obtain ⟨chars, hchars⟩ := List.head?_eq_some_iff.mp hhead
        obtain ⟨sep, -, htext⟩ := Library.rsplitOnce_spec hlast
        have hbracket : stripFirst '[' body =
            some (.ofList (chars ++ sep :: portStr.toList)) := by
          rw [Library.stripFirst_eq_some, htext, hchars, String.toList_ofList]
          rfl
        cases hstrip.symm.trans hbracket

private theorem mem_of_splitHostPort {host portStr : String}
    (h : splitHostPort body scheme = .ok (host, portStr)) {char : Char}
    (hchar : char ∈ host.toList) : char ∈ body.toList := by
  rcases splitHostPort_spec h with htext | ⟨-, htext⟩
  · rw [htext]
    exact List.mem_append_left _ (List.mem_cons_of_mem _ hchar)
  · rw [htext]
    exact List.mem_append_left _ hchar

/-- The host of a body can be written. -/
theorem isHost_of_parseHostPort {address : String × UInt16}
    (hbody : ∀ char ∈ reserved, char ∉ body.toList)
    (h : parseHostPort body scheme = .ok address) : IsHost reserved address.1 := by
  unfold parseHostPort at h
  split at h
  · cases h
  · obtain ⟨⟨host, portStr⟩, hsplit, h⟩ := bind_eq_ok.mp h
    dsimp only at h
    split at h
    · cases h
    · rename_i hhost
      split at h
      · cases h
      · cases h
        exact ⟨mt String.isEmpty_iff.mpr hhost, brackets_of_splitHostPort hsplit,
          fun char hreserved hchar => hbody char hreserved (mem_of_splitHostPort hsplit hchar)⟩

private theorem bindable_of_parseListenAddr {bindAddr : SocketAddr}
    (hbody : ∀ char ∈ reserved, char ∉ body.toList)
    (h : parseListenAddr externals body scheme = .ok bindAddr) :
    Bindable externals reserved bindAddr := by
  obtain ⟨⟨host, port⟩, hparse, h⟩ := bind_eq_ok.mp h
  dsimp only at h
  split at h
  · rename_i ip hip
    cases h
    exact ⟨host, ip, port, isHost_of_parseHostPort hbody hparse, hip, rfl⟩
  · cases h

private theorem addressed_of_parseSerialBody {address : String × UInt32}
    (hbody : ∀ char ∈ reserved, char ∉ body.toList)
    (h : parseSerialBody body = .ok address) :
    address.1 ≠ "" ∧ address.2 ≠ 0 ∧ ∀ char ∈ reserved, char ∉ address.1.toList := by
  unfold parseSerialBody at h
  split at h
  · cases h
  · split at h
    · cases h
    · rename_i path baudStr hsplit
      split at h
      · cases h
      · rename_i hpath
        split at h
        · cases h
        · rename_i baud hbaud
          split at h
          · cases h
          · rename_i hzero
            cases h
            obtain ⟨sep, -, htext⟩ := Library.rsplitOnce_spec hsplit
            refine ⟨mt String.isEmpty_iff.mpr hpath, fun heq => hzero ?_, ?_⟩
            · have hbound := (Library.parseUnsigned_eq_some_iff.mp hbaud).2
              have hvalue : (UInt32.ofNat baud).toNat = 0 := congrArg UInt32.toNat heq
              rwa [UInt32.toNat_ofNat', Nat.mod_eq_of_lt hbound] at hvalue
            · intro char hreserved hchar
              refine hbody char hreserved ?_
              rw [htext]
              exact List.mem_append_left _ hchar

/-- The address that a body is read as can be written. -/
theorem addressed_of_parseKind (hbody : ∀ char ∈ reserved, char ∉ body.toList)
    (h : parseKind externals scheme body [] = .ok kind) : kind.Addressed externals reserved := by
  cases scheme with
  | serial =>
    obtain ⟨address, hparse, ⟨⟩⟩ := bind_eq_ok.mp h
    exact addressed_of_parseSerialBody hbody hparse
  | udpServer =>
    obtain ⟨bindAddr, hparse, ⟨⟩⟩ := bind_eq_ok.mp h
    exact bindable_of_parseListenAddr hbody hparse
  | udpClient =>
    obtain ⟨address, hparse, ⟨⟩⟩ := bind_eq_ok.mp h
    exact isHost_of_parseHostPort hbody hparse
  | tcpServer =>
    obtain ⟨bindAddr, hparse, ⟨⟩⟩ := bind_eq_ok.mp h
    exact bindable_of_parseListenAddr hbody hparse
  | tcpClient =>
    obtain ⟨address, hparse, ⟨⟩⟩ := bind_eq_ok.mp h
    exact isHost_of_parseHostPort hbody hparse

end Addresses

section Names

variable {externals : Externals}

/-- What the expression for names accepts. -/
theorem nameMatchesRegex_iff {name : String} :
    nameMatchesRegex name = true ↔
      name ≠ "" ∧ ∀ char ∈ name.toList, char.isAlphanum = true ∨ char = '_' ∨ char = '-' := by
  simp [nameMatchesRegex, or_assoc]

/-- The names that are made up from an address are names. -/
theorem nameMatchesRegex_made (scheme text : String) (number : ℕ)
    (hscheme : nameMatchesRegex scheme = true) :
    nameMatchesRegex (scheme ++ sanitizeForName text ++ "-" ++ toString number) = true := by
  rw [nameMatchesRegex_iff] at hscheme ⊢
  refine ⟨fun hempty => hscheme.1 ?_, fun char hchar => ?_⟩
  · have hlist := congrArg String.toList hempty
    simp at hlist
  · rw [String.toList_append, String.toList_append, String.toList_append, List.mem_append,
      List.mem_append, List.mem_append] at hchar
    rcases hchar with ((hchar | hchar) | hchar) | hchar
    · exact hscheme.2 char hchar
    · rw [sanitizeForName, String.toList_ofList, List.mem_map] at hchar
      obtain ⟨original, -, rfl⟩ := hchar
      split
      · rename_i hallowed
        simpa [or_assoc] using hallowed
      · exact .inr (.inl rfl)
    · exact .inr (.inr (List.mem_singleton.mp hchar))
    · refine .inl ?_
      simp [Char.isAlphanum, Library.isDigit_of_mem_toString hchar]

private theorem nameMatchesRegex_defaultName (kind : EndpointKind) :
    nameMatchesRegex (kind.defaultName externals) = true := by
  cases kind with
  | serial endpoint =>
    exact nameMatchesRegex_made "serial-" endpoint.path endpoint.baud.toNat (by decide +kernel)
  | udpServer endpoint =>
    exact nameMatchesRegex_made "udps-" _ endpoint.bindAddr.port.toNat (by decide +kernel)
  | udpClient endpoint =>
    exact nameMatchesRegex_made "udpc-" endpoint.host endpoint.port.toNat (by decide +kernel)
  | tcpServer endpoint =>
    exact nameMatchesRegex_made "tcps-" _ endpoint.bindAddr.port.toNat (by decide +kernel)
  | tcpClient endpoint =>
    exact nameMatchesRegex_made "tcpc-" endpoint.host endpoint.port.toNat (by decide +kernel)

end Names

section Accepted

variable {externals : Externals} {reserved : List Char} {spec : EndpointSpec}

/-- What the build of an endpoint accepts is well formed. -/
private theorem EndpointSpec.wellFormed_of_build {scheme : Scheme} {body : String}
    {name : Option String}
    {pairs : List (String × String)} (hbody : ∀ char ∈ reserved, char ∉ body.toList)
    (h : build externals scheme body name pairs = .ok spec) :
    spec.WellFormed externals reserved := by
  obtain ⟨hkind, hvalid, hname⟩ := build_eq_ok_iff.mp h
  obtain ⟨first, hfirst, hbare, hrun⟩ := parseKind_eq_ok_iff.mp hkind
  obtain ⟨hidentity, htimed⟩ :=
    hrun.invariant (motive := fun kind => kind.identity.WellFormed ∧ kind.Timed)
      wellFormed_of_sets (wellFormed_of_bare hbare)
  have hbase : spec.kind.bare = first.bare := independentFields_sets.base_eq_of_run hrun
  refine ⟨?_, ?_, hidentity, htimed⟩
  · rw [hname]
    cases name with
    | none => exact nameMatchesRegex_defaultName spec.kind
    | some explicit =>
      have hcheck := hvalid explicit rfl
      unfold validateName at hcheck
      split at hcheck
      · assumption
      · cases hcheck
  · rw [← addressed_bare, hbase, addressed_bare]
    exact addressed_of_parseKind hbody hfirst

/-- A body ends before a name and before a query. -/
theorem splitBodyNameQuery_body {rest body : String} {name query : Option String}
    (h : splitBodyNameQuery rest = (body, name, query)) (hmark : '?' ∉ body.toList) :
    ∀ char ∈ ['#', '?'], char ∉ body.toList := by
  have hhash : '#' ∉ body.toList := by
    unfold splitBodyNameQuery at h
    split at h
    · rename_i hhash
      split at h
      · cases h
        exact Library.not_mem_of_splitOnce hhash
      · cases h
        exact Library.not_mem_of_splitOnce hhash
    · rename_i hhash
      have hrest := Library.splitOnce_eq_none_iff.mp hhash
      split at h
      · rename_i hquery
        cases h
        intro hmem
        rw [Library.splitOnce_spec hquery] at hrest
        exact hrest (List.mem_append_left _ hmem)
      · cases h
        exact hrest
  simp [hhash, hmark]

/-- A specification from the command line is well formed. -/
theorem EndpointSpec.wellFormed_of_parse {text : String} (h : parse externals text = .ok spec) :
    spec.WellFormed externals ['#', '?'] := by
  unfold parse at h
  split at h
  · cases h
  · split at h
    · cases h
    · rename_i schemeStr rest _ _
      generalize hsplit : splitBodyNameQuery rest = parts at h
      obtain ⟨body, name, query⟩ := parts
      dsimp only at h
      split at h
      · cases h
      · rename_i hmark
        obtain ⟨pairs, -, h⟩ := bind_eq_ok.mp h
        obtain ⟨scheme, -, h⟩ := bind_eq_ok.mp h
        exact wellFormed_of_build (splitBodyNameQuery_body hsplit hmark) h

/-- A specification from a file is well formed, and has the name of its table. -/
theorem TomlEndpoint.wellFormed_of_intoSpec {entry : TomlEndpoint} {name : String}
    (h : entry.intoSpec externals name = .ok spec) :
    spec.WellFormed externals [] ∧ spec.name = name := by
  obtain ⟨scheme, -, h⟩ := bind_eq_ok.mp h
  obtain ⟨-, -, h⟩ := bind_eq_ok.mp h
  obtain ⟨body, -, h⟩ := bind_eq_ok.mp h
  have hbuild := Library.mapError_eq_ok.mp h
  exact ⟨EndpointSpec.wellFormed_of_build (List.forall_mem_nil _) hbuild,
    (build_eq_ok_iff.mp hbuild).2.2⟩

end Accepted

end MavlinkRouter
