import MavlinkRouter.Library.Execution
import MavlinkRouter.Udp.Client

/-!
# The latch of the datagram client

Once a client has accepted a datagram it listens to the sender alone and answers to the address
the datagram came from, until the sender has been silent for long enough. Datagrams from others
are counted and have no further effect.
-/

namespace MavlinkRouter

open Library (execute execute_snoc execute_induction Along along_induction)

namespace UdpClient

variable {table : MsgTable} {spec : UdpClientSpec} {client after : UdpClient}

/-- What a client knows about the network, and what it has exchanged with it. -/
structure View where
  dest : Destination
  localBind : Option SocketAddr
  ingress : Ingress
  accepted : List (SocketAddr × List UInt8)
  forwarded : List RouterFrame
  sends : List (SocketAddr × Bytes)

def view (client : UdpClient) : View where
  dest := client.dest
  localBind := client.localBind
  ingress := client.ingress
  accepted := client.accepted
  forwarded := client.forwarded
  sends := client.sends

/-- The outcome of a read of this client. -/
def Reads (table : MsgTable) (spec : UdpClientSpec) (client : UdpClient) (data : List UInt8)
    (now : Instant) (forwarded : Forwarded) : Prop :=
  ∃ stats, forwarded = client.ingress.read table spec.identity.filters spec.endpointId now
    client.framesOpen data stats

/-- The actions in which the network or the resolver takes part. -/
def Action.isExchange : Action → Bool
  | .access _ => false
  | .cancel => false
  | .closeFrames => false
  | .resolve _ => true
  | .bind _ => false
  | .wait => false
  | .tick _ _ => true
  | .receive _ _ _ _ => true
  | .pop => false
  | .send _ _ => true
  | .stop => false
  | .drain => false

/-- Everything one step can do to the view. -/
inductive Moves (table : MsgTable) (spec : UdpClientSpec) (client : UdpClient) :
    Action → UdpClient → Prop
  | kept {action : Action} {after : UdpClient}
      (haction : action.isExchange = false)
      (hview : after.view = client.view) :
    Moves table spec client action after
  | resolved {fresh : List IpAddr} {after : UdpClient} (hphase : client.phase = .resolving)
      (hview : after.view = { client.view with
        dest := { client.dest with resolvedIps := fresh }
        localBind := some (pickLocalBind fresh) }) :
    Moves table spec client (.resolve fresh) after
  | ticked {now : Instant} {fresh : List IpAddr} {after : UdpClient}
      (hview : after.view = { client.view with
        dest := client.dest.checkLatchIdle (durationFromSecs spec.latchIdleSecs) now fresh }) :
    Moves table spec client (.tick now fresh) after
  | rejected {src : SocketAddr} {data : List UInt8} {seen now : Instant}
      (hreject : client.dest.classifyInbound src.ip = .reject) :
    Moves table spec client (.receive src data seen now)
      (client.setEgress (client.egress.setStats client.egress.port.stats.addInFilterDrop))
  | accepted {src : SocketAddr} {data : List UInt8} {seen now : Instant} {forwarded : Forwarded}
      {after : UdpClient} (hphase : client.phase = .running)
      (haccept : client.dest.classifyInbound src.ip ≠ .reject)
      (hread : client.Reads table spec data now forwarded)
      (hview : after.view = { client.view with
        dest := client.dest.setLatch (some ⟨src, seen⟩)
        ingress := forwarded.ingress
        accepted := client.accepted ++ [(src, data)]
        forwarded := client.forwarded ++ forwarded.sent }) :
    Moves table spec client (.receive src data seen now) after
  | sent {fresh : List IpAddr} {target : SocketAddr} {frames : List Bytes} {after : UdpClient}
      (htarget : client.dest.currentTarget = some target)
      (hview : after.view = { client.view with
        sends := client.sends ++ frames.map (Prod.mk target) }) :
    Moves table spec client (.send .sent fresh) after
  | unsent {outcome : SendOutcome} {fresh : List IpAddr} {after : UdpClient}
      (hview : after.view = { client.view with dest := client.dest.refresh fresh }) :
    Moves table spec client (.send outcome fresh) after

/-- An update of a latch that is set is a new latch. -/
theorem setLatch_update {dest : Destination} {src : SocketAddr} {seen : Instant}
    (h : dest.classifyInbound src.ip = .acceptUpdate) :
    dest.setLatch (dest.latch.map fun _ => ⟨src, seen⟩) = dest.setLatch (some ⟨src, seen⟩) := by
  cases hlatch : dest.latch with
  | none =>
    simp only [Destination.classifyInbound, hlatch] at h
    split at h <;> cases h
  | some latch => rfl

private theorem handleInbound_moves (hphase : client.phase = .running) (src : SocketAddr)
    (data : List UInt8) (seen now : Instant) :
    Moves table spec client (.receive src data seen now)
      (client.handleInbound table spec src data seen now) := by
  unfold handleInbound
  split
  · rename_i hreject
    exact .rejected hreject
  · rename_i hlatch
    exact .accepted hphase (by simp [hlatch]) ⟨_, rfl⟩ rfl
  · rename_i hupdate
    rw [setLatch_update hupdate]
    exact .accepted hphase (by simp [hupdate]) ⟨_, rfl⟩ rfl

private theorem sendFrame_moves {outcome : SendOutcome} {fresh : List IpAddr}
    (h : client.sendFrame outcome fresh = some after) :
    Moves table spec client (.send outcome fresh) after := by
  unfold sendFrame at h
  split at h
  · obtain ⟨egress, -, rfl⟩ := Option.map_eq_some_iff.mp h
    refine .unsent ?_
    dsimp only
    split <;> rfl
  · rename_i target htarget
    cases outcome with
    | sent =>
      obtain ⟨egress, -, rfl⟩ := Option.map_eq_some_iff.mp h
      exact .sent htarget rfl
    | failed =>
      obtain ⟨egress, -, rfl⟩ := Option.map_eq_some_iff.mp h
      exact .unsent rfl

/-- Every step is one of these. -/
theorem step_moves {action : Action} (h : client.step table spec action = some after) :
    Moves table spec client action after := by
  cases action with
  | access access =>
    cases h
    exact .kept rfl rfl
  | cancel =>
    cases h
    exact .kept rfl rfl
  | closeFrames =>
    cases h
    exact .kept rfl rfl
  | resolve fresh =>
    obtain ⟨hphase, h⟩ := Option.ite_none_right_eq_some.mp h
    cases h
    exact .resolved hphase rfl
  | bind bound =>
    obtain ⟨-, h⟩ := Option.ite_none_right_eq_some.mp h
    cases h
    refine .kept rfl ?_
    unfold bind
    split
    · rfl
    · split <;> rfl
  | wait =>
    obtain ⟨-, h⟩ := Option.ite_none_right_eq_some.mp h
    cases h
    exact .kept rfl rfl
  | tick now fresh =>
    obtain ⟨-, h⟩ := Option.ite_none_right_eq_some.mp h
    cases h
    exact .ticked rfl
  | receive src data seen now =>
    obtain ⟨hready, h⟩ := Option.ite_none_right_eq_some.mp h
    cases h
    exact handleInbound_moves hready.1 src data seen now
  | pop =>
    obtain ⟨-, h⟩ := Option.ite_none_right_eq_some.mp h
    obtain ⟨egress, -, rfl⟩ := Option.map_eq_some_iff.mp h
    exact .kept rfl rfl
  | send outcome fresh => exact sendFrame_moves h
  | stop =>
    obtain ⟨-, h⟩ := Option.ite_none_right_eq_some.mp h
    obtain ⟨egress, -, rfl⟩ := Option.map_eq_some_iff.mp h
    exact .kept rfl rfl
  | drain =>
    obtain ⟨egress, -, hafter⟩ := Option.map_eq_some_iff.mp h
    split at hafter <;> cases hafter <;> exact .kept rfl rfl

/-- A refresh keeps the latch. -/
theorem latch_refresh (dest : Destination) (fresh : List IpAddr) :
    (dest.refresh fresh).latch = dest.latch := by
  unfold Destination.refresh
  split <;> rfl

private theorem port_refresh (dest : Destination) (fresh : List IpAddr) :
    (dest.refresh fresh).port = dest.port := by
  unfold Destination.refresh
  split <;> rfl

/-- A tick clears the latch exactly if its peer has been silent for long enough. -/
theorem latch_checkLatchIdle {dest : Destination} {latch : LatchInfo}
    (h : dest.latch = some latch) (idle : ℕ) (now : Instant) (fresh : List IpAddr) :
    (dest.checkLatchIdle idle now fresh).latch =
      if idle ≤ now - latch.lastInbound then none else some latch := by
  simp only [Destination.checkLatchIdle, h]
  by_cases hidle : now - latch.lastInbound < idle
  · rw [if_pos hidle, if_neg (Nat.not_le.mpr hidle), h]
  · rw [if_neg hidle, if_pos (Nat.not_lt.mp hidle)]
    rfl

private theorem port_checkLatchIdle (dest : Destination) (idle : ℕ) (now : Instant)
    (fresh : List IpAddr) : (dest.checkLatchIdle idle now fresh).port = dest.port := by
  unfold Destination.checkLatchIdle
  split
  · rfl
  · split
    · rfl
    · exact port_refresh dest fresh

/-- Only the sender it is latched onto can update the latch. -/
theorem canonicalIp_of_accept {dest : Destination} {latch : LatchInfo} {srcIp : IpAddr}
    (h : dest.latch = some latch) (haccept : dest.classifyInbound srcIp ≠ .reject) :
    srcIp.canonicalIp = latch.addr.ip.canonicalIp := by
  by_contra hne
  simp only [Destination.classifyInbound, h, if_neg (Ne.symm hne)] at haccept
  exact haccept rfl

/-- Only an address of the host can set the latch. -/
theorem mem_resolvedIps_of_accept {dest : Destination} {srcIp : IpAddr} (h : dest.latch = none)
    (haccept : dest.classifyInbound srcIp ≠ .reject) :
    srcIp.canonicalIp ∈ dest.resolvedIps.map IpAddr.canonicalIp := by
  by_contra hmem
  have hnone : dest.resolvedIps.any (fun ip => ip.canonicalIp = srcIp.canonicalIp) = false := by
    rw [List.any_eq_false]
    intro ip hip hsame
    exact hmem (List.mem_map.mpr ⟨ip, hip, of_decide_eq_true hsame⟩)
  simp only [Destination.classifyInbound, h, hnone] at haccept
  exact haccept rfl

/-- What has been accepted since some moment, and whom the latch is set to. -/
structure ListensTo (ip : IpAddr) (accepted : List (SocketAddr × List UInt8)) (view : View) :
    Prop where
  latch : ∀ latch, view.dest.latch = some latch → latch.addr.ip.canonicalIp = ip
  accepted : ∃ datagrams, view.accepted = accepted ++ datagrams ∧
    ∀ datagram ∈ datagrams, datagram.1.ip.canonicalIp = ip

/-- An accepted datagram from the same sender. -/
theorem ListensTo.accept {ip : IpAddr} {accepted : List (SocketAddr × List UInt8)}
    {view view' : View} {src : SocketAddr} {data : List UInt8} {seen : Instant}
    (h : ListensTo ip accepted view) (hsrc : src.ip.canonicalIp = ip)
    (hlatch : view'.dest.latch = some ⟨src, seen⟩)
    (haccepted : view'.accepted = view.accepted ++ [(src, data)]) :
    ListensTo ip accepted view' := by
  refine ⟨fun latch' hlatch' => ?_, ?_⟩
  · rw [hlatch] at hlatch'
    cases hlatch'
    exact hsrc
  · obtain ⟨datagrams, hdatagrams, hall⟩ := h.accepted
    refine ⟨datagrams ++ [(src, data)], ?_, ?_⟩
    · rw [haccepted, hdatagrams, List.append_assoc]
    · intro datagram hdatagram
      rcases List.mem_append.mp hdatagram with hold | hnew
      · exact hall datagram hold
      · cases List.mem_singleton.mp hnew
        exact hsrc

/-- The client stays with its sender while it is latched. -/
theorem ListensTo.step {ip : IpAddr} {accepted : List (SocketAddr × List UInt8)} {action : Action}
    (h : ListensTo ip accepted client.view) (hlatched : client.dest.latch ≠ none)
    (hmoves : Moves table spec client action after) : ListensTo ip accepted after.view := by
  obtain ⟨latch, hlatch⟩ := Option.ne_none_iff_exists'.mp hlatched
  have hip := h.latch latch hlatch
  cases hmoves with
  | kept haction hview => rwa [hview]
  | resolved hphase hview =>
    rw [hview]
    exact ⟨h.latch, h.accepted⟩
  | ticked hview =>
    rw [hview]
    refine ⟨fun latch' hlatch' => ?_, h.accepted⟩
    rw [latch_checkLatchIdle hlatch] at hlatch'
    obtain ⟨-, hsame⟩ := Option.ite_none_left_eq_some.mp hlatch'
    cases hsame
    exact hip
  | rejected hreject => exact ⟨h.latch, h.accepted⟩
  | accepted hphase haccept hread hview =>
    rw [hview]
    exact h.accept ((canonicalIp_of_accept hlatch haccept).trans hip) rfl rfl
  | sent htarget hview =>
    rw [hview]
    exact ⟨h.latch, h.accepted⟩
  | unsent hview =>
    rw [hview]
    refine ⟨?_, h.accepted⟩
    rw [latch_refresh]
    exact h.latch

/-- The step that sets the latch accepts a datagram from an address of the host. -/
theorem listensTo_of_set {action : Action} (hnone : client.dest.latch = none)
    (hset : after.dest.latch ≠ none) (hmoves : Moves table spec client action after) :
    ∃ ip ∈ client.dest.resolvedIps.map IpAddr.canonicalIp,
      ListensTo ip client.accepted after.view := by
  -- Whatever is not an accepted datagram leaves the latch unset.
  have hkept : after.view.dest.latch = client.dest.latch → False := fun hsame =>
    hset (hsame.trans hnone)
  cases hmoves with
  | kept haction hview => exact (hkept (by rw [hview]; rfl)).elim
  | resolved hphase hview => exact (hkept (by rw [hview])).elim
  | ticked hview =>
    refine (hkept ?_).elim
    rw [hview]
    simp only [Destination.checkLatchIdle, hnone]
  | rejected hreject => exact (hkept rfl).elim
  | @accepted src _ _ _ _ _ hphase haccept hread hview =>
    refine ⟨src.ip.canonicalIp, mem_resolvedIps_of_accept hnone haccept, ?_⟩
    have hbefore : ListensTo src.ip.canonicalIp client.accepted client.view := by
      refine ⟨fun latch hlatch => ?_, [], (List.append_nil _).symm, nofun⟩
      cases hnone.symm.trans hlatch
    rw [hview]
    exact hbefore.accept rfl rfl rfl
  | sent htarget hview => exact (hkept (by rw [hview]; rfl)).elim
  | unsent hview =>
    refine (hkept ?_).elim
    rw [hview]
    exact latch_refresh _ _

/-- The last datagram that a run has accepted, with its sender and the time it was seen at. -/
def LastAccepted (table : MsgTable) (spec : UdpClientSpec) (first : UdpClient)
    (actions : List Action) (client : UdpClient) (src : SocketAddr) (seen : Instant) : Prop :=
  ∃ earlier data now later before next,
    actions = earlier ++ .receive src data seen now :: later ∧
      execute (step table spec) first earlier = some before ∧
      before.step table spec (.receive src data seen now) = some next ∧
      next.accepted = before.accepted ++ [(src, data)] ∧ client.accepted = next.accepted

/-- A step that accepts nothing leaves the last accepted datagram what it was. -/
theorem LastAccepted.keep {first : UdpClient} {actions : List Action} {src : SocketAddr}
    {seen : Instant} (h : LastAccepted table spec first actions client src seen) (action : Action)
    (haccepted : after.accepted = client.accepted) :
    LastAccepted table spec first (actions ++ [action]) after src seen := by
  obtain ⟨earlier, data, now, later, before, next, rfl, hearlier, hstep, hnext, hclient⟩ := h
  exact ⟨earlier, data, now, later ++ [action], before, next, by simp, hearlier, hstep, hnext,
    haccepted.trans hclient⟩

/-- Where a run has left the destination: at the port of the specification, and latched onto the
sender of the last accepted datagram. -/
structure Anchored (table : MsgTable) (spec : UdpClientSpec) (first : UdpClient)
    (actions : List Action) (client : UdpClient) : Prop where
  run : execute (UdpClient.step table spec) first actions = some client
  port : client.dest.port = spec.port
  latch : ∀ latch, client.dest.latch = some latch →
    LastAccepted table spec first actions client latch.addr latch.lastInbound

/-- One step keeps what the latch rests on. -/
private theorem Anchored.step {first : UdpClient} {actions : List Action} {action : Action}
    (h : Anchored table spec first actions client)
    (hstep : client.step table spec action = some after) :
    Anchored table spec first (actions ++ [action]) after := by
  have hrun := execute_snoc.mpr ⟨client, h.run, hstep⟩
  cases step_moves hstep with
  | kept haction hview =>
    have hdest : after.dest = client.dest := congrArg View.dest hview
    refine ⟨hrun, hdest ▸ h.port, fun latch hlatch => ?_⟩
    rw [hdest] at hlatch
    exact (h.latch latch hlatch).keep action (congrArg View.accepted hview)
  | resolved hphase hview =>
    have hdest : after.dest = _ := congrArg View.dest hview
    refine ⟨hrun, hdest ▸ h.port, fun latch hlatch => ?_⟩
    rw [hdest] at hlatch
    exact (h.latch latch hlatch).keep _ (congrArg View.accepted hview)
  | @ticked now fresh _ hview =>
    have hdest : after.dest = _ := congrArg View.dest hview
    refine ⟨hrun, ?_, fun latch hlatch => ?_⟩
    · rw [hdest]
      exact (port_checkLatchIdle _ _ _ _).trans h.port
    · rw [hdest] at hlatch
      cases hbefore : client.dest.latch with
      | none =>
        simp only [Destination.checkLatchIdle, hbefore] at hlatch
        cases hlatch
      | some before =>
        rw [latch_checkLatchIdle hbefore] at hlatch
        obtain ⟨-, hsame⟩ := Option.ite_none_left_eq_some.mp hlatch
        cases hsame
        exact (h.latch _ hbefore).keep _ (congrArg View.accepted hview)
  | rejected hreject =>
    exact ⟨hrun, h.port, fun latch hlatch => (h.latch latch hlatch).keep _ rfl⟩
  | @accepted src data seen now forwarded _ hphase haccept hread hview =>
    have hdest : after.dest = _ := congrArg View.dest hview
    refine ⟨hrun, hdest ▸ h.port, fun latch hlatch => ?_⟩
    rw [hdest] at hlatch
    cases hlatch
    exact ⟨actions, data, now, [], client, after, rfl, h.run, hstep,
      congrArg View.accepted hview, rfl⟩
  | sent htarget hview =>
    have hdest : after.dest = client.dest := congrArg View.dest hview
    refine ⟨hrun, hdest ▸ h.port, fun latch hlatch => ?_⟩
    rw [hdest] at hlatch
    exact (h.latch latch hlatch).keep _ (congrArg View.accepted hview)
  | unsent hview =>
    have hdest : after.dest = _ := congrArg View.dest hview
    refine ⟨hrun, ?_, fun latch hlatch => ?_⟩
    · rw [hdest]
      exact (port_refresh _ _).trans h.port
    · rw [hdest, latch_refresh] at hlatch
      exact (h.latch latch hlatch).keep _ (congrArg View.accepted hview)

private theorem anchored {capacity : ℕ} {actions : List Action}
    (h : execute (step table spec) (start spec capacity) actions = some client) :
    Anchored table spec (start spec capacity) actions client := by
  refine execute_induction (motive := Anchored table spec (start spec capacity)) ?_ ?_ h
  · exact ⟨rfl, rfl, nofun⟩
  · exact fun hbefore hstep => hbefore.step hstep

/-- What a step sends goes to the current target. -/
theorem target_of_sends {action : Action} (hmoves : Moves table spec client action after)
    {target : SocketAddr} {frame : Bytes}
    (hsent : (target, frame) ∈ after.sends.drop client.sends.length) :
    client.dest.currentTarget = some target := by
  have hkept : after.view.sends = client.sends → client.dest.currentTarget = some target := by
    intro hsame
    rw [show after.sends = client.sends from hsame, List.drop_length] at hsent
    cases hsent
  cases hmoves with
  | kept haction hview => exact hkept (by rw [hview]; rfl)
  | resolved hphase hview => exact hkept (by rw [hview]; rfl)
  | ticked hview => exact hkept (by rw [hview]; rfl)
  | rejected hreject => exact hkept rfl
  | accepted hphase haccept hread hview => exact hkept (by rw [hview]; rfl)
  | sent htarget hview =>
    rw [show after.sends = _ from congrArg View.sends hview, List.drop_left] at hsent
    obtain ⟨_, -, hsame⟩ := List.mem_map.mp hsent
    rw [htarget, (Prod.mk.inj hsame).1]
  | unsent hview => exact hkept (by rw [hview]; rfl)

/-- The latch is cleared by a tick that finds it idle, and by nothing else. -/
theorem cleared_iff {action : Action} {latch : LatchInfo} (hlatch : client.dest.latch = some latch)
    (hmoves : Moves table spec client action after) :
    after.dest.latch = none ↔
      ∃ now fresh, action = .tick now fresh ∧
        durationFromSecs spec.latchIdleSecs ≤ now - latch.lastInbound := by
  -- Steps other than ticks leave a latch that is set.
  have hset : after.view.dest.latch ≠ none → (∀ now fresh, action ≠ .tick now fresh) →
      (after.dest.latch = none ↔ ∃ now fresh, action = .tick now fresh ∧
        durationFromSecs spec.latchIdleSecs ≤ now - latch.lastInbound) := by
    refine fun hsome hother => iff_of_false hsome ?_
    rintro ⟨now, fresh, htick, -⟩
    exact hother now fresh htick
  cases hmoves with
  | kept haction hview =>
    refine hset (by rw [hview]; simp [view, hlatch]) fun now fresh htick => ?_
    rw [htick] at haction
    cases haction
  | resolved hphase hview => exact hset (by rw [hview]; simp [hlatch]) nofun
  | @ticked now fresh _ hview =>
    rw [show after.dest = _ from congrArg View.dest hview, latch_checkLatchIdle hlatch]
    constructor
    · intro hcleared
      refine ⟨now, fresh, rfl, ?_⟩
      by_contra hidle
      rw [if_neg hidle] at hcleared
      cases hcleared
    · rintro ⟨now', fresh', htick, hidle⟩
      cases htick
      rw [if_pos hidle]
  | rejected hreject => exact hset (by simp [view, setEgress, hlatch]) nofun
  | accepted hphase haccept hread hview => exact hset (by rw [hview]; nofun) nofun
  | sent htarget hview => exact hset (by rw [hview]; simp [view, hlatch]) nofun
  | unsent hview => exact hset (by rw [hview]; simp [latch_refresh, hlatch]) nofun

/-- A datagram that is not accepted is counted. -/
theorem eq_of_not_accepted {src : SocketAddr} {data : List UInt8} {seen now : Instant}
    (hmoves : Moves table spec client (.receive src data seen now) after)
    (hsame : after.accepted = client.accepted) :
    after = client.setEgress (client.egress.setStats
      { client.egress.port.stats with
        inFilterDrops := client.egress.port.stats.inFilterDrops + 1 }) := by
  cases hmoves with
  | kept haction hview => cases haction
  | rejected hreject => rfl
  | accepted hphase haccept hread hview =>
    rw [show after.accepted = _ from congrArg View.accepted hview] at hsame
    simp at hsame

/-- The datagram that an action delivers is from an address the client does not listen to. -/
def Rejects (client : UdpClient) (action : Action) : Prop :=
  ∃ src data seen now, action = .receive src data seen now ∧
    client.dest.classifyInbound src.ip = .reject

/-- Rejected datagrams leave the destination alone, however many they are. -/
theorem dest_of_rejects {actions : List Action}
    (halong : Along (step table spec) Rejects client actions)
    (h : execute (step table spec) client actions = some after) : after.dest = client.dest := by
  refine along_induction (motive := fun _ state => state.dest = client.dest) rfl ?_ halong h
  rintro actions before action next hbefore ⟨src, data, seen, now, rfl, hreject⟩ hstep
  cases step_moves hstep with
  | kept haction hview => cases haction
  | rejected _ => exact hbefore
  | accepted hphase haccept hread hview => exact absurd hreject haccept

/-- What is promised about the latch, for a run and for the steps that may follow it. -/
structure LatchSafe (table : MsgTable) (spec : UdpClientSpec) (first : UdpClient)
    (actions : List Action) (client : UdpClient) : Prop where
  /-- From the step that sets the latch to the one that clears it, all accepted datagrams have one
  canonical address, which the host had when the latch was set. -/
  oneSource : ∀ earlier set later before latched, actions = earlier ++ set :: later →
    execute (step table spec) first earlier = some before → before.dest.latch = none →
    before.step table spec set = some latched → latched.dest.latch ≠ none →
    Along (step table spec) (fun state _ => state.dest.latch ≠ none) latched later →
    ∃ ip ∈ before.dest.resolvedIps.map IpAddr.canonicalIp,
      ∀ datagram ∈ client.accepted.drop before.accepted.length, datagram.1.ip.canonicalIp = ip
  /-- A latched client sends to the sender of the last accepted datagram, and an unlatched one
  to the first address of the host. -/
  target : ∀ action after target frame, client.step table spec action = some after →
    (target, frame) ∈ after.sends.drop client.sends.length →
    (client.dest.latch ≠ none → ∃ seen, LastAccepted table spec first actions client target seen) ∧
      (client.dest.latch = none →
        client.dest.resolvedIps.head?.map (SocketAddr.new spec.port) = some target)
  /-- Only a tick clears the latch, and only if the last accepted datagram is old enough. -/
  cleared : client.dest.latch ≠ none →
    ∃ src seen, LastAccepted table spec first actions client src seen ∧
      ∀ action after, client.step table spec action = some after →
        (after.dest.latch = none ↔ ∃ now fresh, action = .tick now fresh ∧
          durationFromSecs spec.latchIdleSecs ≤ now - seen)
  /-- Rejected datagrams do not keep, move or clear the latch. -/
  unmoved : ∀ later last, Along (step table spec) Rejects client later →
    execute (step table spec) client later = some last → last.dest = client.dest
  /-- A datagram that is not accepted changes one counter. -/
  rejected : ∀ src data seen now after,
    client.step table spec (.receive src data seen now) = some after →
    after.accepted = client.accepted →
    after = client.setEgress (client.egress.setStats
      { client.egress.port.stats with
        inFilterDrops := client.egress.port.stats.inFilterDrops + 1 })

/-- All accepted datagrams come from one address while the client is latched. -/
theorem one_source_while_latched {later : List Action} {action : Action} {latched : UdpClient}
    (hnone : client.dest.latch = none) (hset : client.step table spec action = some latched)
    (hlatched : latched.dest.latch ≠ none)
    (halong : Along (step table spec) (fun state _ => state.dest.latch ≠ none) latched later)
    (hlater : execute (step table spec) latched later = some after) :
    ∃ ip ∈ client.dest.resolvedIps.map IpAddr.canonicalIp,
      ∀ datagram ∈ after.accepted.drop client.accepted.length,
        datagram.1.ip.canonicalIp = ip := by
  obtain ⟨ip, hip, hlistens⟩ := listensTo_of_set hnone hlatched (step_moves hset)
  have hafter : ListensTo ip client.accepted after.view :=
    along_induction (motive := fun _ state => ListensTo ip client.accepted state.view) hlistens
      (fun hbefore hstate hstep => hbefore.step hstate (step_moves hstep)) halong hlater
  obtain ⟨datagrams, haccepted, hall⟩ := hafter.accepted
  refine ⟨ip, hip, ?_⟩
  rw [show after.accepted = client.accepted ++ datagrams from haccepted, List.drop_left]
  exact hall

/-- Every run of a client keeps these promises. -/
theorem latchSafe {capacity : ℕ} {actions : List Action}
    (h : execute (step table spec) (start spec capacity) actions = some client) :
    LatchSafe table spec (start spec capacity) actions client := by
  have hanchored := anchored h
  constructor
  case oneSource =>
    rintro earlier set later before latched rfl hearlier hnone hset hlatched halong
    have hlater : execute (step table spec) latched later = some client := by
      rw [execute, List.foldlM_append] at h
      obtain ⟨before', hbefore', h⟩ := Option.bind_eq_some_iff.mp h
      cases hearlier.symm.trans hbefore'
      obtain ⟨latched', hset', h⟩ := Library.execute_cons.mp h
      cases hset.symm.trans hset'
      exact h
    exact one_source_while_latched hnone hset hlatched halong hlater
  case target =>
    intro action after target frame hstep hsent
    have htarget := target_of_sends (step_moves hstep) hsent
    constructor
    · intro hlatched
      obtain ⟨latch, hlatch⟩ := Option.ne_none_iff_exists'.mp hlatched
      rw [Destination.currentTarget, hlatch] at htarget
      cases htarget
      exact ⟨latch.lastInbound, hanchored.latch latch hlatch⟩
    · intro hnone
      rwa [Destination.currentTarget, hnone, hanchored.port] at htarget
  case cleared =>
    intro hlatched
    obtain ⟨latch, hlatch⟩ := Option.ne_none_iff_exists'.mp hlatched
    exact ⟨latch.addr, latch.lastInbound, hanchored.latch latch hlatch,
      fun action after hstep => cleared_iff hlatch (step_moves hstep)⟩
  case unmoved => exact fun later last halong hlater => dest_of_rejects halong hlater
  case rejected =>
    exact fun src data seen now after hstep hsame => eq_of_not_accepted (step_moves hstep) hsame

/-- A client that has latched onto the only address of its host. -/
theorem latchSafe_latched :
    let table : MsgTable := ⟨[], .nil⟩
    let spec : UdpClientSpec := ⟨"host", 14550, ⟨1⟩, 30, {}⟩
    let src : SocketAddr := .v4 1 4000
    let actions : List Action := [.resolve [.v4 1], .bind true, .receive src [] 5 6]
    ∃ client, execute (step table spec) (start spec 2) actions = some client ∧
      client.dest.latch = some ⟨src, 5⟩ ∧
      LatchSafe table spec (start spec 2) actions client := by
  intro table spec src actions
  have hlatch : (execute (step table spec) (start spec 2) actions).map (fun client =>
      client.dest.latch) = some (some ⟨src, 5⟩) := by
    decide +kernel
  obtain ⟨client, hrun, hlatch⟩ := Option.map_eq_some_iff.mp hlatch
  exact ⟨client, hrun, hlatch, latchSafe hrun⟩

end UdpClient

end MavlinkRouter
