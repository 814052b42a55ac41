import MavlinkRouter.Config.FilterLists
import MavlinkRouter.Config.Spec
import MavlinkRouter.Library.Settings

/-!
# The options as fields

Each option has a key and a field of the endpoint of its own: applying a pair reads the value and
sets the field of its key, and whether the value can be read does not depend on the other fields.
-/

namespace MavlinkRouter

open Library (SettingRun OwnFields IndependentFields bind_eq_ok map_eq_ok)

/-- The keys of all the options. -/
inductive OptionKey where
  | filter (key : FilterKey)
  | sniffer
  | group
  | flowControl
  | idleSecs
  | latchIdleSecs
  deriving DecidableEq, Repr

def OptionKey.name : OptionKey → String
  | .filter key => key.name
  | .sniffer => "sniffer"
  | .group => "group"
  | .flowControl => "flow_control"
  | .idleSecs => "idle_secs"
  | .latchIdleSecs => "latch_idle_secs"

/-- The group that a value names. -/
def parseGroup (value : String) : Except SpecError (Option String) :=
  (validateNameValue value "group").map fun _ => some value

def parseIdleSecs (value : String) : Except SpecError (Option UInt64) :=
  (parseSecs value "idle_secs" minIdleSecs maxIdleSecs).map some

def parseLatchIdleSecs (value : String) : Except SpecError (Option UInt64) :=
  (parseSecs value "latch_idle_secs" minLatchIdleSecs maxLatchIdleSecs).map some

namespace EndpointKind

def withIdentity (identity : IdentityFlags) : EndpointKind → EndpointKind
  | .serial endpoint => .serial { endpoint with identity := identity }
  | .udpServer endpoint => .udpServer { endpoint with identity := identity }
  | .udpClient endpoint => .udpClient { endpoint with identity := identity }
  | .tcpServer endpoint => .tcpServer { endpoint with identity := identity }
  | .tcpClient endpoint => .tcpClient { endpoint with identity := identity }

/-- The endpoint with the defaults of all its options. -/
def bare : EndpointKind → EndpointKind
  | .serial endpoint => .serial ⟨endpoint.path, endpoint.baud, .none, {}⟩
  | .udpServer endpoint => .udpServer ⟨endpoint.bindAddr, none, {}⟩
  | .udpClient endpoint => .udpClient ⟨endpoint.host, endpoint.port, none, {}⟩
  | .tcpServer endpoint => .tcpServer ⟨endpoint.bindAddr, {}⟩
  | .tcpClient endpoint => .tcpClient ⟨endpoint.host, endpoint.port, {}⟩

/-- The identity that was set. -/
@[simp]
theorem identity_withIdentity (kind : EndpointKind) (identity : IdentityFlags) :
    (kind.withIdentity identity).identity = identity := by
  cases kind <;> rfl

@[simp]
private theorem bare_withIdentity (kind : EndpointKind) (identity : IdentityFlags) :
    (kind.withIdentity identity).bare = kind.bare := by
  cases kind <;> rfl

/-- What applying a pair to an endpoint can do. -/
inductive Sets : EndpointKind → String → String → EndpointKind → Prop where
  | filter {kind : EndpointKind} {key value : String} {filters : Filters} :
      kind.identity.filters.apply key value = .ok (some filters) →
      Sets kind key value (kind.withIdentity { kind.identity with filters := filters })
  | sniffer {kind : EndpointKind} {value : String} {sniffer : Bool} :
      parseBool value "sniffer" = .ok sniffer →
      Sets kind "sniffer" value (kind.withIdentity { kind.identity with sniffer := sniffer })
  | group {kind : EndpointKind} {value : String} {group : Option String} :
      parseGroup value = .ok group →
      Sets kind "group" value (kind.withIdentity { kind.identity with group := group })
  | flowControl {endpoint : SerialEndpoint} {value : String} {flowControl : SerialFlowControl} :
      parseFlowControl value = .ok flowControl →
      Sets (.serial endpoint) "flow_control" value
        (.serial { endpoint with flowControl := flowControl })
  | idleSecs {endpoint : UdpServerEndpoint} {value : String} {secs : Option UInt64} :
      parseIdleSecs value = .ok secs →
      Sets (.udpServer endpoint) "idle_secs" value (.udpServer { endpoint with idleSecs := secs })
  | latchIdleSecs {endpoint : UdpClientEndpoint} {value : String} {secs : Option UInt64} :
      parseLatchIdleSecs value = .ok secs →
      Sets (.udpClient endpoint) "latch_idle_secs" value
        (.udpClient { endpoint with latchIdleSecs := secs })

end EndpointKind

/-- A field is what the text that was written for it is read as, or its default. -/
def Reads {φ : Type} (parse : String → Except SpecError φ) (default field : φ) :
    Option String → Prop
  | none => field = default
  | some text => parse text = .ok field

private theorem Reads.unique {φ : Type} {parse : String → Except SpecError φ}
    {default field field' : φ} {written : Option String} (h : Reads parse default field written)
    (h' : Reads parse default field' written) : field = field' := by
  cases written with
  | none => exact Eq.trans h (Eq.symm h')
  | some text => exact Except.ok.inj (Eq.trans (Eq.symm h) h')

/-- The field of an option is what was written under its key. Under the key of an option that the
endpoint does not have, nothing can be written. -/
def OptionKey.Reflects (kind : EndpointKind) : OptionKey → Option String → Prop
  | .filter key => key.Reflects kind.identity.filters
  | .sniffer => Reads (fun text => parseBool text "sniffer") false kind.identity.sniffer
  | .group => Reads parseGroup none kind.identity.group
  | .flowControl =>
    match kind with
    | .serial endpoint => Reads parseFlowControl .none endpoint.flowControl
    | _ => (· = none)
  | .idleSecs =>
    match kind with
    | .udpServer endpoint => Reads parseIdleSecs none endpoint.idleSecs
    | _ => (· = none)
  | .latchIdleSecs =>
    match kind with
    | .udpClient endpoint => Reads parseLatchIdleSecs none endpoint.latchIdleSecs
    | _ => (· = none)

section Fields

variable {kind kind' next : EndpointKind} {key value : String} {option : OptionKey}

private theorem name_not_mem_special (key : FilterKey) :
    key.name ∉ ["sniffer", "group", "flow_control", "idle_secs", "latch_idle_secs"] := by
  rcases key with ⟨kind, axis, direction⟩ | kind
  · cases kind <;> cases axis <;> cases direction <;> decide
  · cases kind <;> decide

/-- No two options share a name. -/
theorem OptionKey.name_injective : Function.Injective name := by
  intro option option' h
  cases option with
  | filter key =>
    cases option' with
    | filter key' => exact congrArg OptionKey.filter (FilterKey.name_injective h)
    | _ =>
      refine absurd ?_ (name_not_mem_special key)
      rw [show key.name = _ from h]
      decide
  | _ =>
    cases option' with
    | filter key' =>
      refine absurd ?_ (name_not_mem_special key')
      rw [show key'.name = _ from h.symm]
      decide
    | _ => first | rfl | exact absurd h (by decide)

/-- An option that is no option of the identity is not touched by setting the identity. -/
theorem reflects_withIdentity {identity : IdentityFlags} {written : Option String}
    (hoption : option = .flowControl ∨ option = .idleSecs ∨ option = .latchIdleSecs) :
    option.Reflects (kind.withIdentity identity) written ↔ option.Reflects kind written := by
  rcases hoption with rfl | rfl | rfl <;> cases kind <;> rfl

/-- A pair sets the field of its own key and no other one. -/
theorem reflects_of_sets (h : kind.Sets key value next) :
    ∃ option : OptionKey, key = option.name ∧ option.Reflects next (some value) ∧
      ∀ other ≠ option, ∀ written, other.Reflects kind written → other.Reflects next written := by
  cases h with
  | @filter _ key value filters happly =>
    obtain ⟨accepted, rfl⟩ := exists_key_of_apply happly
    obtain ⟨hown, hrest⟩ := reflects_of_apply happly
    refine ⟨.filter accepted, rfl, ?_, ?_⟩
    · simpa [OptionKey.Reflects] using hown
    · intro other hother written hwritten
      cases other with
      | filter key =>
        have hne : key ≠ accepted := fun hsame => hother (congrArg _ hsame)
        simpa [OptionKey.Reflects] using hrest key hne written hwritten
      | sniffer => simpa [OptionKey.Reflects] using hwritten
      | group => simpa [OptionKey.Reflects] using hwritten
      | _ => rwa [reflects_withIdentity (by simp)]
  | sniffer hparse =>
    refine ⟨.sniffer, rfl, by simpa [OptionKey.Reflects, Reads] using hparse, ?_⟩
    intro other hother written hwritten
    cases other with
    | sniffer => exact absurd rfl hother
    | filter key => simpa [OptionKey.Reflects] using hwritten
    | group => simpa [OptionKey.Reflects] using hwritten
    | _ => rwa [reflects_withIdentity (by simp)]
  | group hparse =>
    refine ⟨.group, rfl, by simpa [OptionKey.Reflects, Reads] using hparse, ?_⟩
    intro other hother written hwritten
    cases other with
    | group => exact absurd rfl hother
    | filter key => simpa [OptionKey.Reflects] using hwritten
    | sniffer => simpa [OptionKey.Reflects] using hwritten
    | _ => rwa [reflects_withIdentity (by simp)]
  | flowControl hparse =>
    refine ⟨.flowControl, rfl, hparse, ?_⟩
    intro other hother written hwritten
    cases other with
    | flowControl => exact absurd rfl hother
    | _ => exact hwritten
  | idleSecs hparse =>
    refine ⟨.idleSecs, rfl, hparse, ?_⟩
    intro other hother written hwritten
    cases other with
    | idleSecs => exact absurd rfl hother
    | _ => exact hwritten
  | latchIdleSecs hparse =>
    refine ⟨.latchIdleSecs, rfl, hparse, ?_⟩
    intro other hother written hwritten
    cases other with
    | latchIdleSecs => exact absurd rfl hother
    | _ => exact hwritten

/-- Whether a value is accepted does not depend on the endpoint's options. -/
theorem sets_of_bare_eq (hbare : kind.bare = kind'.bare) (h : kind.Sets key value next) :
    ∃ next', kind'.Sets key value next' := by
  cases h with
  | filter happly =>
    obtain ⟨filters, hfilters⟩ := apply_accepts happly kind'.identity.filters
    exact ⟨_, .filter hfilters⟩
  | sniffer hparse => exact ⟨_, .sniffer hparse⟩
  | group hparse => exact ⟨_, .group hparse⟩
  | flowControl hparse =>
    cases kind' with
    | serial => exact ⟨_, .flowControl hparse⟩
    | _ => cases hbare
  | idleSecs hparse =>
    cases kind' with
    | udpServer => exact ⟨_, .idleSecs hparse⟩
    | _ => cases hbare
  | latchIdleSecs hparse =>
    cases kind' with
    | udpClient => exact ⟨_, .latchIdleSecs hparse⟩
    | _ => cases hbare

attribute [ext] IdentityFlags SerialEndpoint UdpServerEndpoint UdpClientEndpoint TcpServerEndpoint
  TcpClientEndpoint

/-- An endpoint is given by its address and its options. -/
theorem eq_of_reflects (hbare : kind.bare = kind'.bare)
    (h : ∀ option : OptionKey, ∃ written, option.Reflects kind written ∧
      option.Reflects kind' written) : kind = kind' := by
  have hfilters : kind.identity.filters = kind'.identity.filters :=
    Filters.eq_of_reflects fun key => h (.filter key)
  have hidentity : kind.identity = kind'.identity := by
    obtain ⟨_, hsniffer, hsniffer'⟩ := h .sniffer
    obtain ⟨_, hgroup, hgroup'⟩ := h .group
    exact IdentityFlags.ext hfilters (hsniffer.unique hsniffer') (hgroup.unique hgroup')
  obtain ⟨_, hflow, hflow'⟩ := h .flowControl
  obtain ⟨_, hidle, hidle'⟩ := h .idleSecs
  obtain ⟨_, hlatch, hlatch'⟩ := h .latchIdleSecs
  cases kind with
  | serial endpoint =>
    cases kind' with
    | serial endpoint' =>
      simp only [EndpointKind.bare, EndpointKind.serial.injEq, SerialEndpoint.mk.injEq] at hbare
      exact congrArg _ (SerialEndpoint.ext hbare.1 hbare.2.1 (hflow.unique hflow') hidentity)
    | _ => cases hbare
  | udpServer endpoint =>
    cases kind' with
    | udpServer endpoint' =>
      simp only [EndpointKind.bare, EndpointKind.udpServer.injEq, UdpServerEndpoint.mk.injEq]
        at hbare
      exact congrArg _ (UdpServerEndpoint.ext hbare.1 (hidle.unique hidle') hidentity)
    | _ => cases hbare
  | udpClient endpoint =>
    cases kind' with
    | udpClient endpoint' =>
      simp only [EndpointKind.bare, EndpointKind.udpClient.injEq, UdpClientEndpoint.mk.injEq]
        at hbare
      exact congrArg _
        (UdpClientEndpoint.ext hbare.1 hbare.2.1 (hlatch.unique hlatch') hidentity)
    | _ => cases hbare
  | tcpServer endpoint =>
    cases kind' with
    | tcpServer endpoint' =>
      simp only [EndpointKind.bare, EndpointKind.tcpServer.injEq, TcpServerEndpoint.mk.injEq]
        at hbare
      exact congrArg _ (TcpServerEndpoint.ext hbare.1 hidentity)
    | _ => cases hbare
  | tcpClient endpoint =>
    cases kind' with
    | tcpClient endpoint' =>
      simp only [EndpointKind.bare, EndpointKind.tcpClient.injEq, TcpClientEndpoint.mk.injEq]
        at hbare
      exact congrArg _ (TcpClientEndpoint.ext hbare.1 hbare.2.1 hidentity)
    | _ => cases hbare

/-- What was written under a key, seen from the endpoint. -/
def EndpointKind.Reflects (kind : EndpointKind) (key : String) (written : Option String) : Prop :=
  ∀ option : OptionKey, option.name = key → option.Reflects kind written

/-- Every option has a field of its own. -/
theorem independentFields_sets :
    IndependentFields EndpointKind.Sets EndpointKind.Reflects EndpointKind.bare where
  own := by
    rintro kind key value next h option rfl
    obtain ⟨set, hname, hown, -⟩ := reflects_of_sets h
    rwa [OptionKey.name_injective hname]
  other := by
    rintro kind key value next other written h hother hwritten option rfl
    obtain ⟨set, rfl, -, hrest⟩ := reflects_of_sets h
    refine hrest option (fun hsame => hother (congrArg _ hsame)) written (hwritten option rfl)
  base_eq := by
    intro kind key value next h
    cases h <;> first | exact EndpointKind.bare_withIdentity _ _ | rfl
  accepts := fun hbare h => sets_of_bare_eq hbare h
  ext := by
    intro kind kind' hbare h
    refine eq_of_reflects hbare fun option => ?_
    obtain ⟨written, hkind, hkind'⟩ := h option.name
    exact ⟨written, hkind option rfl, hkind' option rfl⟩

end Fields

section Appliers

variable {kind next : EndpointKind} {identity changed : IdentityFlags} {key value : String}

/-- The pairs that set the identity. -/
theorem identity_apply_eq_ok_iff :
    identity.apply key value = .ok (some changed) ↔
      (∃ filters, identity.filters.apply key value = .ok (some filters) ∧
        changed = { identity with filters := filters }) ∨
      (key = "sniffer" ∧ ∃ sniffer, parseBool value "sniffer" = .ok sniffer ∧
        changed = { identity with sniffer := sniffer }) ∨
      (key = "group" ∧ ∃ group, parseGroup value = .ok group ∧
        changed = { identity with group := group }) := by
  constructor
  · intro h
    obtain ⟨applied, happly, h⟩ := bind_eq_ok.mp h
    cases applied with
    | some filters =>
      cases h
      exact .inl ⟨filters, happly, rfl⟩
    | none =>
      dsimp only at h
      split at h
      · obtain ⟨sniffer, hsniffer, h⟩ := bind_eq_ok.mp h
        cases h
        exact .inr (.inl ⟨rfl, sniffer, hsniffer, rfl⟩)
      · obtain ⟨⟨⟩, hvalid, h⟩ := bind_eq_ok.mp h
        cases h
        exact .inr (.inr ⟨rfl, some value, map_eq_ok.mpr ⟨(), hvalid, rfl⟩, rfl⟩)
      · cases h
  · rintro (⟨filters, happly, rfl⟩ | ⟨rfl, sniffer, hsniffer, rfl⟩ | ⟨rfl, group, hgroup, rfl⟩)
    · exact bind_eq_ok.mpr ⟨some filters, happly, rfl⟩
    · exact bind_eq_ok.mpr ⟨sniffer, hsniffer, rfl⟩
    · obtain ⟨⟨⟩, hvalid, rfl⟩ := map_eq_ok.mp hgroup
      exact bind_eq_ok.mpr ⟨(), hvalid, rfl⟩

/-- The pairs that set the identity are none of those that only one kind of endpoint has. -/
theorem not_mem_special_of_apply (h : identity.apply key value = .ok (some changed)) :
    key ∉ ["flow_control", "idle_secs", "latch_idle_secs"] := by
  rcases identity_apply_eq_ok_iff.mp h with ⟨filters, happly, -⟩ | ⟨rfl, -⟩ | ⟨rfl, -⟩
  · obtain ⟨accepted, rfl⟩ := exists_key_of_apply happly
    intro hmem
    exact name_not_mem_special accepted (List.mem_of_mem_tail (List.mem_of_mem_tail hmem))
  · decide
  · decide

/-- Setting the identity, or an option that only one kind of endpoint has. -/
theorem sets_iff :
    kind.Sets key value next ↔
      (∃ changed, kind.identity.apply key value = .ok (some changed) ∧
        next = kind.withIdentity changed) ∨
      (∃ endpoint flowControl, kind = .serial endpoint ∧ key = "flow_control" ∧
        parseFlowControl value = .ok flowControl ∧
        next = .serial { endpoint with flowControl := flowControl }) ∨
      (∃ endpoint secs, kind = .udpServer endpoint ∧ key = "idle_secs" ∧
        parseIdleSecs value = .ok secs ∧ next = .udpServer { endpoint with idleSecs := secs }) ∨
      (∃ endpoint secs, kind = .udpClient endpoint ∧ key = "latch_idle_secs" ∧
        parseLatchIdleSecs value = .ok secs ∧
        next = .udpClient { endpoint with latchIdleSecs := secs }) := by
  constructor
  · intro h
    cases h with
    | filter happly =>
      exact .inl ⟨_, identity_apply_eq_ok_iff.mpr (.inl ⟨_, happly, rfl⟩), rfl⟩
    | sniffer hparse =>
      exact .inl ⟨_, identity_apply_eq_ok_iff.mpr (.inr (.inl ⟨rfl, _, hparse, rfl⟩)), rfl⟩
    | group hparse =>
      exact .inl ⟨_, identity_apply_eq_ok_iff.mpr (.inr (.inr ⟨rfl, _, hparse, rfl⟩)), rfl⟩
    | flowControl hparse => exact .inr (.inl ⟨_, _, rfl, rfl, hparse, rfl⟩)
    | idleSecs hparse => exact .inr (.inr (.inl ⟨_, _, rfl, rfl, hparse, rfl⟩))
    | latchIdleSecs hparse => exact .inr (.inr (.inr ⟨_, _, rfl, rfl, hparse, rfl⟩))
  · rintro (⟨changed, happly, rfl⟩ | ⟨endpoint, flowControl, rfl, rfl, hparse, rfl⟩ |
      ⟨endpoint, secs, rfl, rfl, hparse, rfl⟩ | ⟨endpoint, secs, rfl, rfl, hparse, rfl⟩)
    · rcases identity_apply_eq_ok_iff.mp happly with ⟨filters, hfilters, rfl⟩ |
        ⟨rfl, sniffer, hparse, rfl⟩ | ⟨rfl, group, hparse, rfl⟩
      · exact .filter hfilters
      · exact .sniffer hparse
      · exact .group hparse
    · exact .flowControl hparse
    · exact .idleSecs hparse
    · exact .latchIdleSecs hparse

/-- A setter of one kind of endpoint, as it acts on endpoints of all kinds. -/
def Implements {ε : Type} (set : ε → String → String → Except SpecError (Option ε))
    (wrap : ε → EndpointKind) : Prop :=
  ∀ endpoint key value next, (wrap endpoint).Sets key value next ↔
    ∃ changed, set endpoint key value = .ok (some changed) ∧ next = wrap changed

/-- A setter that only sets the identity. -/
theorem map_identity_eq_ok_iff {ε : Type} {wrap : IdentityFlags → ε} {endpoint : ε} :
    ((identity.apply key value).map fun changed => changed.map wrap) = .ok (some endpoint) ↔
      ∃ changed, identity.apply key value = .ok (some changed) ∧ endpoint = wrap changed := by
  rw [map_eq_ok]
  constructor
  · rintro ⟨_ | changed, happly, h⟩
    · cases h
    · exact ⟨changed, happly, (Option.some.inj h).symm⟩
  · rintro ⟨changed, happly, rfl⟩
    exact ⟨some changed, happly, rfl⟩

/-- A setter that has a key of its own and passes the other ones on to the identity. -/
theorem implements_of {ε φ : Type} {set : ε → String → String → Except SpecError (Option ε)}
    {wrap : ε → EndpointKind} {special : String} (parse : String → Except SpecError φ)
    (update : ε → φ → ε) (withIdentity : ε → IdentityFlags → ε)
    (hspecial : special ∈ ["flow_control", "idle_secs", "latch_idle_secs"])
    (hset : ∀ endpoint key value, set endpoint key value =
      if key = special then (parse value).map fun field => some (update endpoint field)
      else ((wrap endpoint).identity.apply key value).map fun changed =>
        changed.map (withIdentity endpoint))
    (hwrap : ∀ endpoint identity,
      wrap (withIdentity endpoint identity) = (wrap endpoint).withIdentity identity)
    (hsets : ∀ endpoint key value next, (wrap endpoint).Sets key value next ↔
      (∃ changed, (wrap endpoint).identity.apply key value = .ok (some changed) ∧
        next = (wrap endpoint).withIdentity changed) ∨
      (key = special ∧ ∃ field, parse value = .ok field ∧ next = wrap (update endpoint field))) :
    Implements set wrap := by
  intro endpoint key value next
  rw [hsets, hset]
  constructor
  · rintro (⟨changed, happly, rfl⟩ | ⟨rfl, field, hparse, rfl⟩)
    · have hkey : key ≠ special := fun hsame =>
        not_mem_special_of_apply happly (hsame ▸ hspecial)
      refine ⟨withIdentity endpoint changed, ?_, (hwrap endpoint changed).symm⟩
      rw [if_neg hkey, map_identity_eq_ok_iff]
      exact ⟨changed, happly, rfl⟩
    · refine ⟨update endpoint field, ?_, rfl⟩
      rw [if_pos rfl]
      exact map_eq_ok.mpr ⟨field, hparse, rfl⟩
  · rintro ⟨changed, h, rfl⟩
    split at h
    · rename_i hkey
      obtain ⟨field, hparse, hfield⟩ := map_eq_ok.mp h
      exact .inr ⟨hkey, field, hparse, congrArg wrap (Option.some.inj hfield).symm⟩
    · obtain ⟨identity, happly, rfl⟩ := map_identity_eq_ok_iff.mp h
      exact .inl ⟨identity, happly, hwrap endpoint identity⟩

private theorem implements_serial : Implements SerialEndpoint.set .serial := by
  refine implements_of parseFlowControl
    (fun endpoint flowControl => { endpoint with flowControl := flowControl })
    (fun endpoint identity => { endpoint with identity := identity })
    (show "flow_control" ∈ _ by decide) ?_ (fun _ _ => rfl) ?_
  · intro endpoint key value
    unfold SerialEndpoint.set
    split
    · rfl
    · rename_i hkey
      rw [if_neg hkey]
      rfl
  · intro endpoint key value next
    simp [sets_iff]

private theorem implements_udpServer : Implements UdpServerEndpoint.set .udpServer := by
  refine implements_of parseIdleSecs
    (fun endpoint secs => { endpoint with idleSecs := secs })
    (fun endpoint identity => { endpoint with identity := identity })
    (show "idle_secs" ∈ _ by decide) ?_ (fun _ _ => rfl) ?_
  · intro endpoint key value
    unfold UdpServerEndpoint.set
    split
    · rw [if_pos rfl, parseIdleSecs]
      cases parseSecs value "idle_secs" minIdleSecs maxIdleSecs <;> rfl
    · rename_i hkey
      rw [if_neg hkey]
      rfl
  · intro endpoint key value next
    simp [sets_iff]

private theorem implements_udpClient : Implements UdpClientEndpoint.set .udpClient := by
  refine implements_of parseLatchIdleSecs
    (fun endpoint secs => { endpoint with latchIdleSecs := secs })
    (fun endpoint identity => { endpoint with identity := identity })
    (show "latch_idle_secs" ∈ _ by decide) ?_ (fun _ _ => rfl) ?_
  · intro endpoint key value
    unfold UdpClientEndpoint.set
    split
    · rw [parseLatchIdleSecs]
      cases parseSecs value "latch_idle_secs" minLatchIdleSecs maxLatchIdleSecs <;> rfl
    · rfl
  · intro endpoint key value next
    simp [sets_iff]

private theorem implements_tcpServer (bindAddr : SocketAddr) :
    Implements IdentityFlags.apply fun identity => .tcpServer ⟨bindAddr, identity⟩ := by
  intro identity key value next
  simp [sets_iff, EndpointKind.identity, EndpointKind.withIdentity]

private theorem implements_tcpClient (host : String) (port : UInt16) :
    Implements IdentityFlags.apply fun identity => .tcpClient ⟨host, port, identity⟩ := by
  intro identity key value next
  simp [sets_iff, EndpointKind.identity, EndpointKind.withIdentity]

/-- Applying pairs is setting options. -/
theorem settingRun_iff {ε : Type} {set : ε → String → String → Except SpecError (Option ε)}
    {wrap : ε → EndpointKind} (h : Implements set wrap) (externals : Externals) (scheme : Scheme)
    {endpoint : ε} {pairs : List (String × String)} :
    SettingRun EndpointKind.Sets (wrap endpoint) pairs next ↔
      ∃ changed, applyPairs externals scheme set endpoint pairs = .ok changed ∧
        next = wrap changed := by
  induction pairs generalizing endpoint with
  | nil =>
    constructor
    · intro hrun
      cases hrun
      exact ⟨endpoint, rfl, rfl⟩
    · rintro ⟨changed, happly, rfl⟩
      cases happly
      exact .nil _
  | cons pair pairs ih =>
    obtain ⟨key, value⟩ := pair
    constructor
    · intro hrun
      cases hrun with
      | cons hset hrest =>
        obtain ⟨changed, hchanged, rfl⟩ := (h endpoint key value _).mp hset
        obtain ⟨last, hlast, rfl⟩ := ih.mp hrest
        refine ⟨last, bind_eq_ok.mpr ⟨changed, ?_, hlast⟩, rfl⟩
        exact bind_eq_ok.mpr ⟨some changed, hchanged, rfl⟩
    · rintro ⟨last, happly, rfl⟩
      obtain ⟨changed, hpair, hrest⟩ := bind_eq_ok.mp happly
      obtain ⟨applied, hset, hpair⟩ := bind_eq_ok.mp hpair
      cases applied with
      | none => cases hpair
      | some applied =>
        cases hpair
        exact .cons ((h endpoint key value _).mpr ⟨changed, hset, rfl⟩)
          (ih.mpr ⟨last, hrest, rfl⟩)

/-- An endpoint that is made from an address by setting its options. -/
theorem bind_applyPairs_eq_ok_iff {τ ε : Type}
    {set : ε → String → String → Except SpecError (Option ε)} {wrap : τ → ε → EndpointKind}
    {address : Except SpecError τ} {start : τ → ε} {externals : Externals} {scheme : Scheme}
    {pairs : List (String × String)} (h : ∀ part, Implements set (wrap part))
    (hbare : ∀ part, (wrap part (start part)).bare = wrap part (start part)) :
    (address.bind fun part =>
        (applyPairs externals scheme set (start part) pairs).map (wrap part)) = .ok kind ↔
      ∃ first, (address.bind fun part =>
          (applyPairs externals scheme set (start part) []).map (wrap part)) = .ok first ∧
        first.bare = first ∧ SettingRun EndpointKind.Sets first pairs kind := by
  constructor
  · intro hkind
    obtain ⟨part, hpart, happly⟩ := bind_eq_ok.mp hkind
    obtain ⟨changed, hchanged, rfl⟩ := map_eq_ok.mp happly
    refine ⟨wrap part (start part), bind_eq_ok.mpr ⟨part, hpart, rfl⟩, hbare part, ?_⟩
    exact (settingRun_iff (h part) externals scheme).mpr ⟨changed, hchanged, rfl⟩
  · rintro ⟨first, hfirst, -, hrun⟩
    obtain ⟨part, hpart, happly⟩ := bind_eq_ok.mp hfirst
    cases happly
    obtain ⟨changed, hchanged, rfl⟩ := (settingRun_iff (h part) externals scheme).mp hrun
    exact bind_eq_ok.mpr ⟨part, hpart, map_eq_ok.mpr ⟨changed, hchanged, rfl⟩⟩

/-- An endpoint is made from its body by setting its options, one pair after the other. -/
theorem parseKind_eq_ok_iff {externals : Externals} {scheme : Scheme} {body : String}
    {pairs : List (String × String)} :
    parseKind externals scheme body pairs = .ok kind ↔
      ∃ first, parseKind externals scheme body [] = .ok first ∧ first.bare = first ∧
        SettingRun EndpointKind.Sets first pairs kind := by
  cases scheme with
  | serial =>
    have hparse : ∀ pairs, parseKind externals .serial body pairs =
        (parseSerialBody body).bind fun part =>
          (applyPairs externals .serial SerialEndpoint.set ⟨part.1, part.2, .none, {}⟩ pairs).map
            .serial := fun pairs => rfl
    simp only [hparse]
    exact bind_applyPairs_eq_ok_iff (fun _ => implements_serial) fun _ => rfl
  | udpServer =>
    have hparse : ∀ pairs, parseKind externals .udpServer body pairs =
        (parseListenAddr externals body .udpServer).bind fun bindAddr =>
          (applyPairs externals .udpServer UdpServerEndpoint.set ⟨bindAddr, none, {}⟩ pairs).map
            .udpServer := fun pairs => rfl
    simp only [hparse]
    exact bind_applyPairs_eq_ok_iff (fun _ => implements_udpServer) fun _ => rfl
  | udpClient =>
    have hparse : ∀ pairs, parseKind externals .udpClient body pairs =
        (parseHostPort body .udpClient).bind fun part =>
          (applyPairs externals .udpClient UdpClientEndpoint.set ⟨part.1, part.2, none, {}⟩
            pairs).map .udpClient := fun pairs => rfl
    simp only [hparse]
    exact bind_applyPairs_eq_ok_iff (fun _ => implements_udpClient) fun _ => rfl
  | tcpServer =>
    have hparse : ∀ pairs, parseKind externals .tcpServer body pairs =
        (parseListenAddr externals body .tcpServer).bind fun bindAddr =>
          (applyPairs externals .tcpServer IdentityFlags.apply {} pairs).map fun identity =>
            .tcpServer ⟨bindAddr, identity⟩ := fun pairs => rfl
    simp only [hparse]
    exact bind_applyPairs_eq_ok_iff implements_tcpServer fun _ => rfl
  | tcpClient =>
    have hparse : ∀ pairs, parseKind externals .tcpClient body pairs =
        (parseHostPort body .tcpClient).bind fun part =>
          (applyPairs externals .tcpClient IdentityFlags.apply {} pairs).map fun identity =>
            .tcpClient ⟨part.1, part.2, identity⟩ := fun pairs => rfl
    simp only [hparse]
    exact bind_applyPairs_eq_ok_iff (fun part => implements_tcpClient part.1 part.2) fun _ => rfl

end Appliers

section Defaults

variable {kind : EndpointKind}

/-- At first nothing has been written. -/
theorem EndpointKind.reflects_bare (h : kind.bare = kind) (key : String) :
    kind.Reflects key none := by
  intro option _
  rw [← h]
  cases option with
  | filter accepted =>
    have hfilters : kind.bare.identity.filters = {} := by cases kind <;> rfl
    change accepted.Reflects kind.bare.identity.filters none
    rw [hfilters]
    exact Filters.reflects_default accepted.name accepted rfl
  | _ => cases kind <;> rfl

/-- The default name ignores the options. -/
theorem defaultName_bare (externals : Externals) :
    kind.bare.defaultName externals = kind.defaultName externals := by
  cases kind <;> rfl

/-- The specification that a body, a name and pairs with different keys give. -/
theorem build_eq_ok_iff {externals : Externals} {scheme : Scheme} {body : String}
    {name : Option String} {pairs : List (String × String)} {spec : EndpointSpec} :
    EndpointSpec.build externals scheme body name pairs = .ok spec ↔
      parseKind externals scheme body pairs = .ok spec.kind ∧
        (∀ explicit ∈ name, validateName explicit = .ok ()) ∧
        spec.name = name.getD (spec.kind.defaultName externals) := by
  constructor
  · intro h
    obtain ⟨kind, hkind, h⟩ := bind_eq_ok.mp h
    cases name with
    | none =>
      cases h
      exact ⟨hkind, by simp, rfl⟩
    | some explicit =>
      obtain ⟨⟨⟩, hvalid, h⟩ := bind_eq_ok.mp h
      cases h
      exact ⟨hkind, by simpa using hvalid, rfl⟩
  · rintro ⟨hkind, hvalid, hname⟩
    cases name with
    | none => exact bind_eq_ok.mpr ⟨spec.kind, hkind, congrArg Except.ok (congrArg _ hname.symm)⟩
    | some explicit =>
      refine bind_eq_ok.mpr ⟨spec.kind, hkind, bind_eq_ok.mpr ⟨(), hvalid _ rfl, ?_⟩⟩
      exact congrArg Except.ok (congrArg _ hname.symm)

end Defaults

section Characters

open Library (isWhitespace IsSignedNumeral splitAll)

variable {kind next : EndpointKind} {key value : String} {char : Char}

/-- A character that no key and no value of an option contains. -/
def IsReserved (char : Char) : Prop :=
  char.isAlphanum = false ∧ isWhitespace char = false ∧ char ∉ ['_', '-', ',', '+']

instance : DecidablePred IsReserved := fun _ =>
  inferInstanceAs (Decidable (_ ∧ _ ∧ _))

/-- A name has no reserved character. -/
theorem IsReserved.not_mem_of_nameMatchesRegex (h : IsReserved char) {text : String}
    (htext : nameMatchesRegex text = true) : char ∉ text.toList := by
  intro hmem
  have hchar := List.all_eq_true.mp (Bool.and_eq_true_iff.mp htext).2 char hmem
  simp only [h.1, Bool.false_or, Bool.or_eq_true, decide_eq_true_eq] at hchar
  exact h.2.2 (by simpa using hchar.imp_right .inl)

/-- A validated name matches. -/
theorem nameMatchesRegex_of_validateNameValue {text : String}
    (h : validateNameValue text key = .ok ()) : nameMatchesRegex text = true := by
  unfold validateNameValue at h
  split at h
  · assumption
  · cases h

private theorem nameMatchesRegex_name (option : OptionKey) :
    nameMatchesRegex option.name = true := by
  cases option with
  | filter key =>
    rcases key with ⟨kind, axis, direction⟩ | kind
    · cases kind <;> cases axis <;> cases direction <;> decide +kernel
    · cases kind <;> decide +kernel
  | _ => decide +kernel

private theorem IsReserved.not_mem_of_isSignedNumeral (h : IsReserved char) {digits : List Char}
    {number : ℕ} (hdigits : IsSignedNumeral digits number) : char ∉ digits := by
  refine hdigits.not_mem ?_ fun hplus => h.2.2 (by simp [hplus])
  simpa [Char.isAlphanum] using (Bool.or_eq_false_iff.mp h.1).2

/-- A reserved character between commas. -/
theorem IsReserved.not_mem_of_splitAll (h : IsReserved char) {text : String}
    (hparts : ∀ part ∈ splitAll ',' text, char ∉ part.toList) : char ∉ text.toList := by
  have hcomma : char ≠ ',' := fun hcomma => h.2.2 (by simp [hcomma])
  rw [Library.mem_splitAll_iff hcomma]
  rintro ⟨part, hpart, hmem⟩
  exact hparts part hpart hmem

private theorem IsReserved.not_mem_of_apply (h : IsReserved char) {filters filters' : Filters}
    (happly : filters.apply key value = .ok (some filters')) : char ∉ value.toList := by
  obtain ⟨accepted, rfl⟩ := exists_key_of_apply happly
  refine h.not_mem_of_splitAll ?_
  cases accepted with
  | range accepted =>
    obtain ⟨ranges, hranges, -⟩ := apply_rangeKey_eq_ok_iff.mp happly
    have hitems := (isRangeList_iff.mp hranges).imp fun item range hitem =>
      And.intro (hitem.1.not_mem (fun _ _ => h.not_mem_of_isSignedNumeral) h.2.1
        fun hhyphen => h.2.2 (by simp [hhyphen])) hitem
    exact ((List.forall₂_and_left _ _).mp hitems).1
  | names kind =>
    obtain ⟨names, hnames, -⟩ := apply_nameKey_eq_ok_iff.mp happly
    have hitem : ∀ item : String, nameMatchesRegex (Library.trim item) = true →
        char ∉ item.toList := by
      intro item hname
      obtain ⟨before, after, hchars, hbefore, hafter⟩ := Library.exists_trim item
      rw [hchars, List.mem_append, List.mem_append, not_or, not_or]
      exact ⟨⟨hbefore.not_mem h.2.1, h.not_mem_of_nameMatchesRegex hname⟩, hafter.not_mem h.2.1⟩
    have hparts := (parseList_eq_ok_iff.mp hnames).imp fun item name hparsed => by
      obtain ⟨⟨⟩, hvalid, -⟩ := map_eq_ok.mp hparsed.2
      exact And.intro (hitem item (nameMatchesRegex_of_validateNameValue hvalid)) hparsed
    exact ((List.forall₂_and_left _ _).mp hparts).1

private theorem IsReserved.not_mem_of_parseSecs (h : IsReserved char) {text : String} {min max : ℕ}
    {secs : Option UInt64} (hsecs : (parseSecs text key min max).map some = .ok secs) :
    char ∉ text.toList := by
  obtain ⟨_, hparse, -⟩ := map_eq_ok.mp hsecs
  obtain ⟨number, hnumber, -⟩ := bind_eq_ok.mp hparse
  unfold parseU64 at hnumber
  split at hnumber
  · rename_i hunsigned
    exact h.not_mem_of_isSignedNumeral (Library.parseUnsigned_eq_some_iff.mp hunsigned).1
  · cases hnumber

/-- What is accepted contains no reserved character. -/
theorem IsReserved.not_mem_of_sets (h : IsReserved char) (hset : kind.Sets key value next) :
    char ∉ key.toList ∧ char ∉ value.toList := by
  constructor
  · obtain ⟨option, rfl, -⟩ := reflects_of_sets hset
    exact h.not_mem_of_nameMatchesRegex (nameMatchesRegex_name option)
  · cases hset with
    | filter happly => exact h.not_mem_of_apply happly
    | sniffer hparse =>
      unfold parseBool at hparse
      split at hparse
      · exact h.not_mem_of_nameMatchesRegex (by decide +kernel)
      · exact h.not_mem_of_nameMatchesRegex (by decide +kernel)
      · cases hparse
    | group hparse =>
      obtain ⟨⟨⟩, hvalid, -⟩ := map_eq_ok.mp hparse
      exact h.not_mem_of_nameMatchesRegex (nameMatchesRegex_of_validateNameValue hvalid)
    | flowControl hparse =>
      unfold parseFlowControl at hparse
      split at hparse
      · exact h.not_mem_of_nameMatchesRegex (by decide +kernel)
      · exact h.not_mem_of_nameMatchesRegex (by decide +kernel)
      · cases hparse
    | idleSecs hparse => exact h.not_mem_of_parseSecs hparse
    | latchIdleSecs hparse => exact h.not_mem_of_parseSecs hparse

end Characters

end MavlinkRouter
