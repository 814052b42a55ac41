import MavlinkRouter.Udp.Latch

/-!
# Address families

The client binds its socket once, for the addresses its host has at that time, and looks up the
host again whenever sending fails or its peer has fallen silent. A socket that is bound to an IPv4
address is of no use for a host that has moved to an IPv6 address.
-/

namespace MavlinkRouter

open Library (execute Along along_induction)

namespace UdpClient

variable {table : MsgTable} {spec : UdpClientSpec} {client after : UdpClient}

/-- A socket that is bound to an IPv4 address reaches IPv4 addresses only, one that is bound to an
IPv6 address reaches both. -/
def Reaches (localBind target : SocketAddr) : Prop :=
  localBind.ip.isIpv6 = true ∨ target.ip.isIpv6 = false

instance (localBind target : SocketAddr) : Decidable (Reaches localBind target) :=
  inferInstanceAs (Decidable (_ ∨ _))

/-- The client can send to its current target from the socket it has bound. -/
def Addressable (client : UdpClient) : Prop :=
  ∀ localBind target, client.localBind = some localBind →
    client.dest.currentTarget = some target → Reaches localBind target

/-- A socket receives only from addresses that it reaches. -/
def ArrivesOn (client : UdpClient) (action : Action) : Prop :=
  ∀ src data seen now localBind, action = .receive src data seen now →
    client.localBind = some localBind → Reaches localBind src

/-- The family of the socket is decided by the first answer of the resolver, and the latch is set
to an address the socket reaches. -/
structure BoundFor (actions : List Action) (client : UdpClient) : Prop where
  unresolved : client.phase = .resolving → client.dest.latch = none ∧
    ∀ fresh, Action.resolve fresh ∉ actions
  first : ∀ fresh, Action.resolve fresh ∈ actions → client.localBind = some (pickLocalBind fresh)
  bound : ∀ localBind, client.localBind = some localBind →
    ∃ fresh, Action.resolve fresh ∈ actions ∧ localBind = pickLocalBind fresh
  latch : ∀ latch localBind, client.dest.latch = some latch → client.localBind = some localBind →
    Reaches localBind latch.addr

private theorem phase_handleInbound (src : SocketAddr) (data : List UInt8) (seen now : Instant)
    (client : UdpClient) :
    (client.handleInbound table spec src data seen now).phase = client.phase := by
  unfold handleInbound
  split <;> rfl

private theorem phase_of_sendFrame {outcome : SendOutcome} {fresh : List IpAddr}
    (h : client.sendFrame outcome fresh = some after) : after.phase = client.phase := by
  unfold sendFrame at h
  split at h
  · obtain ⟨egress, -, rfl⟩ := Option.map_eq_some_iff.mp h
    dsimp only
    split <;> rfl
  · cases outcome with
    | sent =>
      obtain ⟨egress, -, rfl⟩ := Option.map_eq_some_iff.mp h
      rfl
    | failed =>
      obtain ⟨egress, -, rfl⟩ := Option.map_eq_some_iff.mp h
      rfl

/-- The host is resolved for the first time only once. -/
theorem resolving_of_step {action : Action} (h : client.step table spec action = some after)
    (hphase : after.phase = .resolving) :
    client.phase = .resolving ∧ ∀ fresh, action ≠ .resolve fresh := by
  cases action with
  | access access =>
    cases h
    exact ⟨hphase, nofun⟩
  | cancel =>
    cases h
    exact ⟨hphase, nofun⟩
  | closeFrames =>
    cases h
    exact ⟨hphase, nofun⟩
  | resolve fresh =>
    obtain ⟨-, h⟩ := Option.ite_none_right_eq_some.mp h
    cases h
    cases hphase
  | bind bound =>
    obtain ⟨-, h⟩ := Option.ite_none_right_eq_some.mp h
    cases h
    unfold bind at hphase
    split at hphase
    · cases hphase
    · split at hphase <;> cases hphase
  | wait =>
    obtain ⟨-, h⟩ := Option.ite_none_right_eq_some.mp h
    cases h
    simp only [setPhase] at hphase
    split at hphase <;> cases hphase
  | tick now fresh =>
    obtain ⟨-, h⟩ := Option.ite_none_right_eq_some.mp h
    cases h
    exact ⟨hphase, nofun⟩
  | receive src data seen now =>
    obtain ⟨-, h⟩ := Option.ite_none_right_eq_some.mp h
    cases h
    exact ⟨(phase_handleInbound src data seen now client).symm.trans hphase, nofun⟩
  | pop =>
    obtain ⟨-, h⟩ := Option.ite_none_right_eq_some.mp h
    obtain ⟨egress, -, rfl⟩ := Option.map_eq_some_iff.mp h
    exact ⟨hphase, nofun⟩
  | send outcome fresh => exact ⟨(phase_of_sendFrame h).symm.trans hphase, nofun⟩
  | stop =>
    obtain ⟨-, h⟩ := Option.ite_none_right_eq_some.mp h
    obtain ⟨egress, -, rfl⟩ := Option.map_eq_some_iff.mp h
    cases hphase
  | drain =>
    obtain ⟨egress, -, hafter⟩ := Option.map_eq_some_iff.mp h
    split at hafter
    · cases hafter
      cases hphase
    · cases hafter
      exact ⟨hphase, nofun⟩
    · cases hafter
      exact ⟨hphase, nofun⟩

/-- A step that is not the first resolution keeps the socket. -/
theorem BoundFor.keep {actions : List Action} {action : Action} (h : BoundFor actions client)
    (hstep : client.step table spec action = some after)
    (haction : ∀ fresh, action ≠ .resolve fresh) (hbind : after.localBind = client.localBind)
    (hphase : after.phase = .resolving → after.dest.latch = none)
    (hlatch : ∀ latch localBind, after.dest.latch = some latch →
      client.localBind = some localBind → Reaches localBind latch.addr) :
    BoundFor (actions ++ [action]) after := by
  have hmem : ∀ fresh, Action.resolve fresh ∈ actions ++ [action] ↔
      Action.resolve fresh ∈ actions := by
    intro fresh
    simp [Ne.symm (haction fresh)]
  constructor
  case unresolved =>
    intro hresolving
    refine ⟨hphase hresolving, fun fresh hfresh => ?_⟩
    exact (h.unresolved (resolving_of_step hstep hresolving).1).2 fresh ((hmem fresh).mp hfresh)
  case first =>
    intro fresh hfresh
    rw [hbind]
    exact h.first fresh ((hmem fresh).mp hfresh)
  case bound =>
    intro localBind hbound
    rw [hbind] at hbound
    obtain ⟨fresh, hfresh, hpick⟩ := h.bound localBind hbound
    exact ⟨fresh, (hmem fresh).mpr hfresh, hpick⟩
  case latch =>
    intro latch localBind hset hbound
    rw [hbind] at hbound
    exact hlatch latch localBind hset hbound

/-- A step that leaves the latch as it is, or clears it. -/
theorem BoundFor.keepLatch {actions : List Action} {action : Action} (h : BoundFor actions client)
    (hstep : client.step table spec action = some after)
    (haction : ∀ fresh, action ≠ .resolve fresh) (hbind : after.localBind = client.localBind)
    (hlatch : ∀ latch, after.dest.latch = some latch → client.dest.latch = some latch) :
    BoundFor (actions ++ [action]) after := by
  refine h.keep hstep haction hbind (fun hphase => ?_) fun latch localBind hset =>
    h.latch latch localBind (hlatch latch hset)
  have hnone := (h.unresolved (resolving_of_step hstep hphase).1).1
  cases hset : after.dest.latch with
  | none => rfl
  | some latch => cases hnone.symm.trans (hlatch latch hset)

/-- The first resolution decides on the socket. -/
theorem BoundFor.first_resolve {actions : List Action} {fresh : List IpAddr}
    (h : BoundFor actions client) (hstep : client.step table spec (.resolve fresh) = some after)
    (hphase : client.phase = .resolving) (hbind : after.localBind = some (pickLocalBind fresh))
    (hlatch : after.dest.latch = none) : BoundFor (actions ++ [.resolve fresh]) after := by
  have honly : ∀ other, Action.resolve other ∈ actions ++ [.resolve fresh] → other = fresh := by
    intro other hother
    rcases List.mem_append.mp hother with hearlier | hlast
    · exact absurd hearlier ((h.unresolved hphase).2 other)
    · cases List.mem_singleton.mp hlast
      rfl
  constructor
  case unresolved =>
    intro hresolving
    exact absurd rfl ((resolving_of_step hstep hresolving).2 fresh)
  case first =>
    intro other hother
    rw [honly other hother, hbind]
  case bound =>
    intro localBind hbound
    rw [hbind] at hbound
    cases hbound
    exact ⟨fresh, List.mem_append_right _ List.mem_cons_self, rfl⟩
  case latch =>
    intro latch localBind hset
    cases hlatch.symm.trans hset

/-- One step keeps what the socket was bound for. -/
private theorem BoundFor.step {actions : List Action} {action : Action}
    (h : BoundFor actions client)
    (harrives : client.ArrivesOn action) (hstep : client.step table spec action = some after) :
    BoundFor (actions ++ [action]) after := by
  cases step_moves hstep with
  | kept haction hview =>
    have hdest : after.dest = client.dest := congrArg View.dest hview
    refine h.keepLatch hstep ?_ (congrArg View.localBind hview) (by rw [hdest]; exact fun _ => id)
    rintro fresh rfl
    cases haction
  | @resolved fresh _ hphase hview =>
    have hdest : after.dest = _ := congrArg View.dest hview
    have hlatch : after.dest.latch = none := by
      rw [hdest]
      exact (h.unresolved hphase).1
    exact h.first_resolve hstep hphase (congrArg View.localBind hview) hlatch
  | @ticked now fresh _ hview =>
    refine h.keepLatch hstep (by rintro _ ⟨⟩) (congrArg View.localBind hview) fun latch hset => ?_
    rw [show after.dest = _ from congrArg View.dest hview] at hset
    cases hbefore : client.dest.latch with
    | none =>
      simp only [Destination.checkLatchIdle, hbefore] at hset
      cases hset
    | some before =>
      rw [latch_checkLatchIdle hbefore] at hset
      exact (Option.ite_none_left_eq_some.mp hset).2
  | rejected hreject => exact h.keepLatch hstep (by rintro _ ⟨⟩) rfl fun _ => id
  | @accepted src data seen now forwarded _ hphase haccept hread hview =>
    refine h.keep hstep (by rintro _ ⟨⟩) (congrArg View.localBind hview) (fun hresolving => ?_) ?_
    · cases hphase.symm.trans (resolving_of_step hstep hresolving).1
    · intro latch localBind hset hbound
      rw [show after.dest = _ from congrArg View.dest hview] at hset
      cases hset
      exact harrives src data seen now localBind rfl hbound
  | sent htarget hview =>
    refine h.keepLatch hstep (by rintro _ ⟨⟩) (congrArg View.localBind hview) ?_
    rw [show after.dest = _ from congrArg View.dest hview]
    exact fun _ => id
  | unsent hview =>
    refine h.keepLatch hstep (by rintro _ ⟨⟩) (congrArg View.localBind hview) ?_
    rw [show after.dest = _ from congrArg View.dest hview, latch_refresh]
    exact fun _ => id

private theorem boundFor {capacity : ℕ} {actions : List Action}
    (harrives : Along (step table spec) ArrivesOn (start spec capacity) actions)
    (h : execute (step table spec) (start spec capacity) actions = some client) :
    BoundFor actions client := by
  refine along_induction (motive := BoundFor) ?_ ?_ harrives h
  · exact ⟨fun _ => ⟨rfl, nofun⟩, nofun, nofun, nofun⟩
  · exact fun hbefore harrives hstep => hbefore.step harrives hstep

private theorem isIpv6_pickLocalBind (fresh : List IpAddr) :
    (pickLocalBind fresh).ip.isIpv6 = (fresh.isEmpty || fresh.any IpAddr.isIpv6) := by
  unfold pickLocalBind
  split
  · rename_i hdual
    rw [hdual]
    rfl
  · rename_i hdual
    rw [Bool.not_eq_true] at hdual
    rw [hdual]
    rfl

private theorem isIpv6_new (port : UInt16) (ip : IpAddr) :
    (SocketAddr.new port ip).ip.isIpv6 = ip.isIpv6 := by
  cases ip with
  | v4 ip => rfl
  | v6 ip => rfl

/-- A client can send to its target unless its host had only IPv4 addresses when it was first
resolved, it is not latched, and its host now has an IPv6 address as its first one. -/
theorem addressable_iff {capacity : ℕ} {actions : List Action}
    (harrives : Along (step table spec) ArrivesOn (start spec capacity) actions)
    (h : execute (step table spec) (start spec capacity) actions = some client) :
    client.Addressable ↔
      ∀ first, Action.resolve first ∈ actions → first ≠ [] →
        (∀ ip ∈ first, ip.isIpv6 = false) → client.dest.latch = none →
        ∀ ip ∈ client.dest.resolvedIps.head?, ip.isIpv6 = false := by
  have hbound := boundFor harrives h
  constructor
  · intro haddressable first hfirst hne hall hnone ip hip
    have htarget : client.dest.currentTarget = some (.new client.dest.port ip) := by
      rw [Destination.currentTarget, hnone]
      simp only [Option.mem_def.mp hip, Option.map_some]
    have hpick : (pickLocalBind first).ip.isIpv6 = false := by
      rw [isIpv6_pickLocalBind, Bool.or_eq_false_iff]
      exact ⟨by simpa using hne, by simpa using hall⟩
    rcases haddressable _ _ (hbound.first first hfirst) htarget with hdual | hfamily
    · cases hpick.symm.trans hdual
    · rwa [isIpv6_new] at hfamily
  · intro hcondition localBind target hlocal htarget
    obtain ⟨first, hfirst, rfl⟩ := hbound.bound localBind hlocal
    cases hlatch : client.dest.latch with
    | some latch =>
      rw [Destination.currentTarget, hlatch] at htarget
      cases htarget
      exact hbound.latch latch _ hlatch hlocal
    | none =>
      rw [Destination.currentTarget, hlatch] at htarget
      obtain ⟨ip, hip, rfl⟩ := Option.map_eq_some_iff.mp htarget
      rw [Reaches, isIpv6_new, isIpv6_pickLocalBind]
      by_cases hdual : (first.isEmpty || first.any IpAddr.isIpv6) = true
      · exact .inl hdual
      · rw [Bool.not_eq_true, Bool.or_eq_false_iff] at hdual
        refine .inr (hcondition first hfirst (by simpa using hdual.1) ?_ hlatch ip hip)
        simpa using hdual.2

/-- A client whose host has another IPv4 address after a send has failed. -/
theorem addressable_iff_same_family :
    let table : MsgTable := ⟨[], .nil⟩
    let spec : UdpClientSpec := ⟨"host", 14550, ⟨1⟩, 30, {}⟩
    let actions : List Action := [.resolve [.v4 1], .bind true, .receive (.v4 9 9) [] 5 6,
      .access (.push ⟨[0xFD], ⟨7⟩, 0⟩), .pop, .send .failed [.v4 2, .v6 3]]
    ∃ client, execute (step table spec) (start spec 2) actions = some client ∧
      client.dest.currentTarget = some (.v4 2 14550) ∧ client.Addressable := by
  intro table spec actions
  have htarget : (execute (step table spec) (start spec 2) actions).map (fun client =>
      (client.dest.currentTarget, client.dest.resolvedIps)) =
        some (some (.v4 2 14550), [.v4 2, .v6 3]) := by
    decide +kernel
  obtain ⟨client, hrun, hfields⟩ := Option.map_eq_some_iff.mp htarget
  obtain ⟨htarget, hresolved⟩ := Prod.mk.inj hfields
  have harrives : Along (step table spec) ArrivesOn (start spec 2) actions := by
    rintro earlier action before hinit - src data seen now localBind rfl -
    have hmem := hinit.subset (List.mem_append_right earlier List.mem_cons_self)
    obtain ⟨rfl, -⟩ : src = .v4 9 9 ∧ data = [] ∧ seen = 5 ∧ now = 6 := by
      simpa [actions] using hmem
    exact .inr rfl
  refine ⟨client, hrun, htarget, (addressable_iff harrives hrun).mpr ?_⟩
  intro first _ _ _ _ ip hip
  rw [hresolved] at hip
  cases hip
  rfl

/-- The host of a client had an IPv4 address at first and has an IPv6 address later. The client
never sends to it, since its socket is bound to an IPv4 address. -/
theorem target_out_of_reach :
    let table : MsgTable := ⟨[], .nil⟩
    let spec : UdpClientSpec := ⟨"host", 14550, ⟨1⟩, 30, {}⟩
    let actions : List Action := [.resolve [.v4 1], .bind true,
      .access (.push ⟨[0xFD], ⟨7⟩, 0⟩), .pop, .send .failed [.v6 3]]
    ∃ client, execute (step table spec) (start spec 2) actions = some client ∧
      client.localBind = some (.v4 0 0) ∧
      client.dest.currentTarget = some (.v6 3 14550 0 0) ∧ ¬ client.Addressable := by
  intro table spec actions
  have hfields : (execute (step table spec) (start spec 2) actions).map (fun client =>
      (client.localBind, client.dest.currentTarget)) =
        some (some (.v4 0 0), some (.v6 3 14550 0 0)) := by
    decide +kernel
  obtain ⟨client, hrun, hfields⟩ := Option.map_eq_some_iff.mp hfields
  obtain ⟨hbind, htarget⟩ := Prod.mk.inj hfields
  refine ⟨client, hrun, hbind, htarget, fun haddressable => ?_⟩
  exact absurd (haddressable _ _ hbind htarget) (by decide)

end UdpClient

end MavlinkRouter
