import MavlinkRouter.Config.Toml
import MavlinkRouter.Library.Fallible

/-!
# Addresses as text

The path and the baud rate of an entry of the configuration file, or its host and its port, are
printed into one text and read again. What is read is what the fields say, unless the host is
already in brackets: these are taken off, and the endpoint gets a different host.
-/

namespace MavlinkRouter

open Library (splitOnce rsplitOnce stripFirst parseUnsigned bind_eq_ok)

section Bodies

variable {body host path portStr : String} {scheme : Scheme} {baud : UInt32} {port : UInt16}
  {left : List Char}

/-- A printed port reads as itself. -/
theorem parseUnsigned_toString_uint16 (port : UInt16) :
    parseUnsigned (2 ^ 16) (toString port) = some port.toNat :=
  Library.parseUnsigned_toString port.toNat_lt

/-- A printed baud rate reads as itself. -/
theorem parseUnsigned_toString_uint32 (baud : UInt32) :
    parseUnsigned (2 ^ 32) (toString baud) = some baud.toNat :=
  Library.parseUnsigned_toString baud.toNat_lt

/-- A path and a baud rate are read back from the body they give, if the body can be read. -/
theorem parseSerialBody_body {address : String × UInt32}
    (h : parseSerialBody (path ++ ":" ++ toString baud) = .ok address) :
    address = (path, baud) := by
  have hsplit : rsplitOnce (fun char => char = ':' || char = ',')
      (path ++ ":" ++ toString baud) = some (path, toString baud) := by
    have htext : (path ++ ":" ++ toString baud).toList =
        path.toList ++ ':' :: (toString baud).toList := by simp
    refine Library.rsplitOnce_eq_some htext (by decide) fun char hchar => ?_
    have hdigit : char.isDigit = true := Library.isDigit_of_mem_toString hchar
    rw [Bool.or_eq_false_iff, decide_eq_false_iff_not, decide_eq_false_iff_not]
    constructor <;> rintro rfl <;> cases hdigit
  simp only [parseSerialBody, hsplit, parseUnsigned_toString_uint32] at h
  split at h
  · cases h
  · split at h
    · cases h
    · split at h
      · cases h
      · cases h
        rw [UInt32.ofNat_toNat]

/-- What has been split was put together from the parts, with or without brackets. -/
theorem splitHostPort_spec (h : splitHostPort body scheme = .ok (host, portStr)) :
    body.toList = '[' :: host.toList ++ ']' :: ':' :: portStr.toList ∨
      body.toList.head? ≠ some '[' ∧ body.toList = host.toList ++ ':' :: portStr.toList := by
  unfold splitHostPort at h
  split at h
  · rename_i rest hstrip
    split at h
    · cases h
    · rename_i before after hclose
      split at h
      · cases h
      · rename_i text hcolon
        cases h
        refine .inl ?_
        rw [Library.stripFirst_eq_some.mp hstrip, Library.splitOnce_spec hclose,
          Library.stripFirst_eq_some.mp hcolon]
        rfl
  · rename_i hstrip
    split at h
    · cases h
    · rename_i before after hsplit
      split at h
      · cases h
      · cases h
        refine .inr ⟨fun hhead => ?_, ?_⟩
        · obtain ⟨chars, hchars⟩ := List.head?_eq_some_iff.mp hhead
          have hrest : stripFirst '[' body = some (.ofList chars) := by
            rw [Library.stripFirst_eq_some, String.toList_ofList, hchars]
          cases hstrip.symm.trans hrest
        · obtain ⟨sep, hsep, htext⟩ := Library.rsplitOnce_spec hsplit
          rw [htext, of_decide_eq_true hsep]

/-- A host and a port are read from a text that ends in a colon and a numeral: the port is the
number, and the host is what stands before the colon, without brackets around it. -/
theorem parseHostPort_spec {address : String × UInt16}
    (hbody : body.toList = left ++ ':' :: (toString port).toList)
    (h : parseHostPort body scheme = .ok address) :
    address.2 = port ∧
      (left = '[' :: address.1.toList ++ [']'] ∨
        left.head? ≠ some '[' ∧ left = address.1.toList) := by
  simp only [parseHostPort] at h
  split at h
  · cases h
  · obtain ⟨⟨found, portStr⟩, hsplit, h⟩ := bind_eq_ok.mp h
    dsimp only at h
    split at h
    · cases h
    · split at h
      · cases h
      · rename_i number hnumber
        cases h
        have hcolon : ':' ∉ portStr.toList :=
          Library.not_mem_of_parseUnsigned (by decide) (by decide) hnumber
        have hcolon' : ':' ∉ (toString port).toList := Library.not_mem_toString (by decide)
        -- The last colon of the body is the one before the numeral, however it has been split.
        have hparts : ∀ {before : List Char},
            body.toList = before ++ ':' :: portStr.toList →
              left = before ∧ toString port = portStr := by
          intro before hbefore
          obtain ⟨hleft, hright⟩ :=
            Library.append_cons_inj hcolon' hcolon (hbody.symm.trans hbefore)
          exact ⟨hleft, String.toList_inj.mp hright⟩
        have hport : toString port = portStr → UInt16.ofNat number = port := by
          rintro rfl
          rw [parseUnsigned_toString_uint16] at hnumber
          cases hnumber
          exact UInt16.ofNat_toNat
        rcases splitHostPort_spec hsplit with hbracket | ⟨hhead, hplain⟩
        · have hbefore : body.toList = ('[' :: found.toList ++ [']']) ++ ':' :: portStr.toList := by
            rw [hbracket]
            simp
          obtain ⟨hleft, htext⟩ := hparts hbefore
          exact ⟨hport htext, .inl hleft⟩
        · obtain ⟨hleft, htext⟩ := hparts hplain
          refine ⟨hport htext, .inr ⟨?_, hleft⟩⟩
          rw [hbody, List.head?_append] at hhead
          intro hfirst
          rw [hfirst] at hhead
          exact hhead rfl

end Bodies

section Pairs

variable {externals : Externals} {scheme : Scheme} {ε : Type}
  {set : ε → String → String → Except SpecError (Option ε)} {endpoint result : ε}
  {pairs : List (String × String)}

/-- What no single option changes is not changed by the pairs of a query. -/
theorem applyPairs_invariant {motive : ε → Prop}
    (hset : ∀ {before after key value}, set before key value = .ok (some after) →
      motive before → motive after)
    (hstart : motive endpoint)
    (h : applyPairs externals scheme set endpoint pairs = .ok result) : motive result := by
  refine Library.foldlM_induction (motive := fun _ reached => motive reached) hstart ?_ h
  intro done before pair after hinit hbefore hpair
  obtain ⟨changed, hchanged, hpair⟩ := bind_eq_ok.mp hpair
  cases changed with
  | none => cases hpair
  | some changed =>
    cases hpair
    exact hset hchanged hbefore

/-- An option of a serial endpoint is not about its device. -/
theorem SerialEndpoint.set_address {before after : SerialEndpoint} {key value : String}
    (h : before.set key value = .ok (some after)) :
    (after.path, after.baud) = (before.path, before.baud) := by
  unfold SerialEndpoint.set at h
  split at h
  · obtain ⟨flowControl, -, h⟩ := bind_eq_ok.mp h
    cases h
    rfl
  · obtain ⟨identity, -, h⟩ := bind_eq_ok.mp h
    obtain ⟨identity', -, rfl⟩ := Option.map_eq_some_iff.mp (Except.ok.inj h)
    rfl

/-- An option of a datagram listener is not about the address it listens on. -/
theorem UdpServerEndpoint.set_address {before after : UdpServerEndpoint} {key value : String}
    (h : before.set key value = .ok (some after)) : after.bindAddr = before.bindAddr := by
  unfold UdpServerEndpoint.set at h
  split at h
  · obtain ⟨secs, -, h⟩ := bind_eq_ok.mp h
    cases h
    rfl
  · obtain ⟨identity, -, h⟩ := bind_eq_ok.mp h
    obtain ⟨identity', -, rfl⟩ := Option.map_eq_some_iff.mp (Except.ok.inj h)
    rfl

/-- An option of a datagram client is not about the host it sends to. -/
theorem UdpClientEndpoint.set_address {before after : UdpClientEndpoint} {key value : String}
    (h : before.set key value = .ok (some after)) :
    (after.host, after.port) = (before.host, before.port) := by
  unfold UdpClientEndpoint.set at h
  split at h
  · obtain ⟨secs, -, h⟩ := bind_eq_ok.mp h
    cases h
    rfl
  · obtain ⟨identity, -, h⟩ := bind_eq_ok.mp h
    obtain ⟨identity', -, rfl⟩ := Option.map_eq_some_iff.mp (Except.ok.inj h)
    rfl

end Pairs

namespace TomlEndpoint

variable {externals : Externals} {entry : TomlEndpoint} {scheme : Scheme} {body name : String}
  {kind : EndpointKind} {spec : EndpointSpec}

/-- The address of an endpoint is the one that the fields of an entry give. -/
def Denotes (externals : Externals) (entry : TomlEndpoint) : EndpointKind → Prop
  | .serial endpoint => entry.path = some endpoint.path ∧ entry.baud = some endpoint.baud
  | .udpServer endpoint =>
    ∃ text, entry.bind = some text ∧
      parseListenAddr externals text .udpServer = .ok endpoint.bindAddr
  | .udpClient endpoint => entry.host = some endpoint.host ∧ entry.port = some endpoint.port
  | .tcpServer endpoint =>
    ∃ text, entry.bind = some text ∧
      parseListenAddr externals text .tcpServer = .ok endpoint.bindAddr
  | .tcpClient endpoint => entry.host = some endpoint.host ∧ entry.port = some endpoint.port

/-- The host starts with a bracket but has no colon, so that it is printed as it is. -/
def HostInBrackets (entry : TomlEndpoint) : Prop :=
  ∃ host, entry.host = some host ∧ host.toList.head? = some '[' ∧ ':' ∉ host.toList

private theorem require_eq_ok {ρ : Type} {field : String} {value : Option ρ} {result : ρ}
    (h : require name scheme field value = .ok result) : value = some result := by
  cases value with
  | none => cases h
  | some value =>
    cases h
    rfl

/-- Every field that is set in an accepted entry is one that entries of its type have. -/
theorem mem_allowedFields (h : entry.rejectDisallowedFields name scheme = .ok ())
    {field : String × Bool} (hfield : field ∈ entry.provided) (hset : field.2 = true) :
    field.1 ∈ allowedFields scheme := by
  unfold rejectDisallowedFields at h
  split at h
  · rename_i hnone
    have hfound := List.find?_eq_none.mp hnone field hfield
    rw [hset, Bool.true_and, decide_eq_true_eq, not_not] at hfound
    exact hfound
  · cases h

/-- An entry of a type without hosts has no host in brackets. -/
theorem not_hostInBrackets (h : entry.rejectDisallowedFields name scheme = .ok ())
    (hscheme : "host" ∉ allowedFields scheme) : ¬ entry.HostInBrackets := by
  rintro ⟨host, hhost, -⟩
  have hprovided : ("host", entry.host.isSome) ∈ entry.provided := by
    simp [provided]
  exact hscheme (mem_allowedFields h hprovided (by rw [hhost]; rfl))

/-- What a successful translation went through. -/
theorem intoSpec_spec (h : entry.intoSpec externals name = .ok spec) :
    ∃ scheme body, entry.rejectDisallowedFields name scheme = .ok () ∧
      entry.synthesizeBody name scheme = .ok body ∧
      parseKind externals scheme body entry.collectPairs = .ok spec.kind := by
  obtain ⟨scheme, -, h⟩ := bind_eq_ok.mp h
  obtain ⟨⟨⟩, hfields, h⟩ := bind_eq_ok.mp h
  obtain ⟨body, hbody, h⟩ := bind_eq_ok.mp h
  refine ⟨scheme, body, hfields, hbody, ?_⟩
  cases hbuild : EndpointSpec.build externals scheme body (some name) entry.collectPairs with
  | error error =>
    rw [hbuild] at h
    cases h
  | ok built =>
    rw [hbuild] at h
    cases h
    obtain ⟨kind, hkind, hbuild⟩ := bind_eq_ok.mp hbuild
    obtain ⟨-, -, hbuild⟩ := bind_eq_ok.mp hbuild
    cases hbuild
    exact hkind

/-- The body of a client entry ends in a colon and the port. What stands before it is the host,
in brackets if it contains a colon. -/
theorem synthesizeHostPort_spec
    (h : synthesizeBody.synthesizeHostPort entry name scheme = .ok body) :
    ∃ host port left, entry.host = some host ∧ entry.port = some port ∧
      body.toList = left ++ ':' :: (toString port).toList ∧
      left = if ':' ∈ host.toList then '[' :: host.toList ++ [']'] else host.toList := by
  obtain ⟨host, hhost, h⟩ := bind_eq_ok.mp h
  obtain ⟨port, hport, h⟩ := bind_eq_ok.mp h
  refine ⟨host, port, _, require_eq_ok hhost, require_eq_ok hport, ?_, rfl⟩
  split at h
  · rename_i hcolon
    cases h
    rw [if_pos hcolon]
    simp
  · rename_i hcolon
    cases h
    rw [if_neg hcolon]
    simp

/-- The host and the port that a client gets are those of its entry, unless the host was in
brackets. -/
theorem parseHostPort_iff {address : String × UInt16}
    (hbody : synthesizeBody.synthesizeHostPort entry name scheme = .ok body)
    (h : parseHostPort body scheme = .ok address) :
    (entry.host = some address.1 ∧ entry.port = some address.2) ↔ ¬ entry.HostInBrackets := by
  obtain ⟨host, port, left, hhost, hport, hbody, hleft⟩ := synthesizeHostPort_spec hbody
  obtain ⟨hnumber, hparts⟩ := parseHostPort_spec hbody h
  have hiff : (entry.host = some address.1 ∧ entry.port = some address.2) ↔
      host.toList = address.1.toList := by
    rw [hhost, hport, hnumber, String.toList_inj]
    simp
  have hbrackets : entry.HostInBrackets ↔
      host.toList.head? = some '[' ∧ ':' ∉ host.toList := by
    simp [HostInBrackets, hhost]
  rw [hiff, hbrackets]
  by_cases hcolon : ':' ∈ host.toList
  · rw [if_pos hcolon] at hleft
    refine iff_of_true ?_ fun hboth => hboth.2 hcolon
    rcases hparts with hbracket | ⟨hhead, -⟩
    · simpa using hleft.symm.trans hbracket
    · rw [hleft] at hhead
      exact absurd rfl hhead
  · rw [if_neg hcolon] at hleft
    subst hleft
    rcases hparts with hbracket | ⟨hhead, hplain⟩
    · -- The brackets are gone, so the host that was read is shorter than that of the entry.
      refine iff_of_false (fun heq => ?_) (not_not.mpr ⟨by rw [hbracket]; rfl, hcolon⟩)
      have hlength := congrArg List.length (heq.symm.trans hbracket)
      rw [List.length_append, List.length_cons, List.length_singleton] at hlength
      omega
    · exact iff_of_true hplain fun hboth => hhead hboth.1

/-- The endpoint of an accepted entry has exactly the address that the fields of the entry give,
unless it is a client whose host was written in brackets. -/
theorem intoSpec_denotes_iff (h : entry.intoSpec externals name = .ok spec) :
    entry.Denotes externals spec.kind ↔ ¬ entry.HostInBrackets := by
  obtain ⟨scheme, body, hfields, hbody, hkind⟩ := intoSpec_spec h
  revert hkind
  generalize spec.kind = kind
  intro hkind
  cases scheme with
  | serial =>
    refine iff_of_true ?_ (not_hostInBrackets hfields (by decide))
    obtain ⟨path, hpath, hbody⟩ := bind_eq_ok.mp hbody
    obtain ⟨baud, hbaud, hbody⟩ := bind_eq_ok.mp hbody
    cases hbody
    obtain ⟨address, haddress, hkind⟩ := bind_eq_ok.mp hkind
    obtain ⟨endpoint, hendpoint, hkind⟩ := bind_eq_ok.mp hkind
    cases hkind
    cases parseSerialBody_body haddress
    have hsame : (endpoint.path, endpoint.baud) = (path, baud) :=
      applyPairs_invariant (motive := fun reached => (reached.path, reached.baud) = (path, baud))
        (fun hset hbefore => (SerialEndpoint.set_address hset).trans hbefore) rfl hendpoint
    obtain ⟨rfl, rfl⟩ := Prod.mk.inj hsame
    exact ⟨require_eq_ok hpath, require_eq_ok hbaud⟩
  | udpServer =>
    refine iff_of_true ?_ (not_hostInBrackets hfields (by decide))
    obtain ⟨bindAddr, hbindAddr, hkind⟩ := bind_eq_ok.mp hkind
    obtain ⟨endpoint, hendpoint, hkind⟩ := bind_eq_ok.mp hkind
    cases hkind
    have hsame : endpoint.bindAddr = bindAddr :=
      applyPairs_invariant (motive := fun reached => reached.bindAddr = bindAddr)
        (fun hset hbefore => (UdpServerEndpoint.set_address hset).trans hbefore) rfl hendpoint
    subst hsame
    exact ⟨body, require_eq_ok hbody, hbindAddr⟩
  | udpClient =>
    obtain ⟨address, haddress, hkind⟩ := bind_eq_ok.mp hkind
    obtain ⟨endpoint, hendpoint, hkind⟩ := bind_eq_ok.mp hkind
    cases hkind
    have hsame : (endpoint.host, endpoint.port) = address :=
      applyPairs_invariant (motive := fun reached => (reached.host, reached.port) = address)
        (fun hset hbefore => (UdpClientEndpoint.set_address hset).trans hbefore) rfl hendpoint
    subst hsame
    exact parseHostPort_iff hbody haddress
  | tcpServer =>
    refine iff_of_true ?_ (not_hostInBrackets hfields (by decide))
    obtain ⟨bindAddr, hbindAddr, hkind⟩ := bind_eq_ok.mp hkind
    obtain ⟨identity, -, hkind⟩ := bind_eq_ok.mp hkind
    cases hkind
    exact ⟨body, require_eq_ok hbody, hbindAddr⟩
  | tcpClient =>
    obtain ⟨address, haddress, hkind⟩ := bind_eq_ok.mp hkind
    obtain ⟨identity, -, hkind⟩ := bind_eq_ok.mp hkind
    cases hkind
    exact parseHostPort_iff hbody haddress

/-- A client whose host is an IPv6 literal, and a serial port whose path contains the
separators. -/
theorem intoSpec_denotes_iff_literal :
    let externals : Externals := ⟨fun _ => none, ⟨fun _ => "", fun _ => ""⟩, fun _ _ => 0⟩
    let client : TomlEndpoint := { scheme := "udpc", host := some "::1", port := some 14550 }
    let device : TomlEndpoint :=
      { scheme := "serial", path := some "/dev/by-path/a:1,b:9", baud := some 57600 }
    client.Denotes externals (.udpClient ⟨"::1", 14550, none, {}⟩) ∧
      device.Denotes externals (.serial ⟨"/dev/by-path/a:1,b:9", 57600, .none, {}⟩) := by
  intro externals client device
  have hclient : client.intoSpec externals "gcs" =
      .ok ⟨.udpClient ⟨"::1", 14550, none, {}⟩, "gcs"⟩ := by decide +kernel
  have hdevice : device.intoSpec externals "fc" =
      .ok ⟨.serial ⟨"/dev/by-path/a:1,b:9", 57600, .none, {}⟩, "fc"⟩ := by decide +kernel
  refine ⟨(intoSpec_denotes_iff hclient).mpr ?_, (intoSpec_denotes_iff hdevice).mpr ?_⟩
  · rintro ⟨host, hhost, hhead, -⟩
    cases hhost
    exact absurd hhead (by decide)
  · rintro ⟨host, hhost, -⟩
    cases hhost

/-- A host in brackets is accepted, and the endpoint connects to what stands in them. -/
theorem intoSpec_strips_brackets :
    let externals : Externals := ⟨fun _ => none, ⟨fun _ => "", fun _ => ""⟩, fun _ _ => 0⟩
    let entry : TomlEndpoint := { scheme := "tcpc", host := some "[foo]", port := some 5760 }
    entry.intoSpec externals "gcs" = .ok ⟨.tcpClient ⟨"foo", 5760, {}⟩, "gcs"⟩ ∧
      ¬ entry.Denotes externals (.tcpClient ⟨"foo", 5760, {}⟩) := by
  intro externals entry
  refine ⟨by decide +kernel, ?_⟩
  rintro ⟨hhost, -⟩
  exact absurd hhost (by decide)

end TomlEndpoint

end MavlinkRouter
