import MavlinkRouter.Config.Startup
import MavlinkRouter.System.Provenance

/-!
# From the configuration to the registry

The router knows every endpoint under the identity and the name that the configuration gives it,
and every peer under those of its listener. As the names of a configuration are unique and its
filters mention no others, a name in a filter stands for one configured endpoint: it matches the
frames of that endpoint and of its peers, and no other ones. The tasks that read from connections
use the filters of the same endpoints.
-/

namespace MavlinkRouter

open Library (execute)

/-- Endpoints that only accept peers. -/
def EndpointKind.isListener : EndpointKind → Bool
  | .udpServer _ => true
  | .tcpServer _ => true
  | _ => false

/-- What is registered for a configured endpoint: the endpoint itself, a listener that neither
sends nor receives, or a peer of a listener. -/
inductive EndpointSpec.Registers (format : AddrFormat) (spec : EndpointSpec) :
    String → Option Routable → Prop
  | leaf (h : spec.kind.isListener = false) :
    Registers format spec spec.name (some ⟨spec.kind.identity, spec.name⟩)
  | listener (h : spec.kind.isListener = true) : Registers format spec spec.name none
  | peer (h : spec.kind.isListener = true) (addr : SocketAddr) :
    Registers format spec (peerEndpointName format spec.name addr)
      (some ⟨spec.kind.identity, spec.name⟩)

/-- A task runs with the settings of a configured endpoint. -/
def Control.Serves (spec : EndpointSpec) : Control → Prop
  | .stream _ filters _ => filters = spec.kind.identity.filters
  | .tcps server _ => spec.kind.isListener = true ∧ server.identity = spec.kind.identity ∧
    server.parentName = spec.name
  | .tcpsChild _ filters _ => filters = spec.kind.identity.filters
  | .udpc filters _ => filters = spec.kind.identity.filters
  | .udps server _ => spec.kind.isListener = true ∧ server.identity = spec.kind.identity ∧
    server.parentName = spec.name
  | .peerWriter _ _ => True

namespace Control

variable {env : TaskEnv} {id : EndpointId} {wiring : Wiring} {control : Control} {step : TaskStep}
  {turn : Turn Control} {spec : EndpointSpec}

/-- A task hands its settings to those it spawns. -/
theorem Serves.spawns {child : Control} (hserves : control.Serves spec)
    (h : control.Spawns child) : child.Serves spec := by
  cases control with
  | tcps server task =>
    cases child with
    | tcpsChild parentId filters session =>
      exact h.trans (congrArg IdentityFlags.filters hserves.2.1)
    | _ => cases h
  | udps server task =>
    cases child with
    | peerWriter parentId writer => trivial
    | _ => cases h
  | _ => cases h

/-- A task keeps its settings. -/
theorem serves_step (hserves : control.Serves spec)
    (h : control.step env id wiring step = some turn) : turn.control.Serves spec := by
  cases control <;> obtain ⟨_, -, rfl⟩ := Option.map_eq_some_iff.mp h <;> exact hserves

/-- A listener announces a peer under its own settings. -/
theorem announces_of_reserved {event : EndpointEvent} (hserves : control.Serves spec)
    (hreserved : control.reserved ≠ []) (h : control.step env id wiring step = some turn)
    (hsend : wiring.events.trySend event = .ok turn.wiring.events) :
    ∃ parentId childId addr, spec.kind.isListener = true ∧
      event = .peerAdded parentId childId (peerEndpointName env.format spec.name addr)
        ⟨spec.kind.identity, spec.name⟩ := by
  have hannounced : ∀ {announced : EndpointEvent} {sent : Bool} {wiring' : Wiring},
      wiring.sendEvent announced = some (sent, wiring') →
        turn.wiring.events = wiring'.events → event = announced := by
    intro announced sent wiring' hsent hevents
    rw [hevents] at hsend
    cases sent with
    | true => exact Library.Channel.trySend_inj hsend (Wiring.sendEvent_true hsent).1
    | false =>
      rw [(Wiring.sendEvent_false hsent).2] at hsend
      exact absurd hsend Library.Channel.trySend_ne_self
  cases control with
  | tcps server task =>
    obtain ⟨hlistener, hidentity, hname⟩ := hserves
    obtain ⟨inner, hinner, rfl⟩ := Option.map_eq_some_iff.mp h
    cases task with
    | announcing childId addr =>
      cases step with
      | announce =>
        obtain ⟨⟨sent, wiring'⟩, hsent, rfl⟩ := Option.map_eq_some_iff.mp hinner
        rw [← hidentity, ← hname]
        exact ⟨_, _, _, hlistener, hannounced hsent rfl⟩
      | _ => cases hinner
    | _ => exact absurd rfl hreserved
  | udps server task =>
    obtain ⟨hlistener, hidentity, hname⟩ := hserves
    obtain ⟨inner, hinner, rfl⟩ := Option.map_eq_some_iff.mp h
    obtain ⟨peers, phase⟩ := task
    cases phase with
    | admitting childId datagram =>
      cases step with
      | visit visit =>
        obtain ⟨⟨sent, wiring'⟩, hsent, rfl⟩ := Option.map_eq_some_iff.mp hinner
        rw [← hidentity, ← hname]
        refine ⟨_, _, _, hlistener, hannounced hsent ?_⟩
        cases sent with
        | false => rfl
        | true =>
          change (UdpServerTask.admitNewPeer _ _ _ _ _ _).wiring.events = wiring'.events
          rcases UdpServerTask.admitNewPeer_eq server visit childId datagram wiring'
              ⟨peers, .admitting childId datagram⟩ with heq | ⟨_, -, heq⟩
          · rw [heq]
            rfl
          · rw [heq]
      | _ => cases hinner
    | _ => exact absurd rfl hreserved
  | _ => exact absurd rfl hreserved

/-- What a task registers is registered for its endpoint. -/
theorem step_registers {event : EndpointEvent} (hsound : control.Sound)
    (hserves : control.Serves spec) (h : control.step env id wiring step = some turn)
    (hsend : wiring.events.trySend event = .ok turn.wiring.events) {registered : EndpointId}
    {name : String} {payload : Option Routable}
    (hregistration : event.registration? = some (registered, name, payload)) :
    spec.Registers env.format name payload := by
  have hchanged : turn.wiring.events ≠ wiring.events := fun hevents =>
    Library.Channel.trySend_ne_self (hevents ▸ hsend)
  cases step_accounts hsound h with
  | quiet _ hevents => exact absurd hevents hchanged
  | reserves _ hevents => exact absurd hevents hchanged
  | discards _ _ hevents => exact absurd hevents hchanged
  | abandons _ _ _ hevents => exact absurd hevents hchanged
  | closes _ hlease hsent =>
    rw [← Library.Channel.trySend_inj hsend hsent,
      EndpointEvent.lease_of_registration hregistration] at hlease
    cases hlease
  | opens _ _ _ _ hreserved =>
    have hne : control.reserved ≠ [] := by
      intro hnil
      have hperm := hreserved
      change control.reserved.Perm _ at hperm
      rw [hnil] at hperm
      exact absurd hperm.symm.eq_nil (List.cons_ne_nil _ _)
    obtain ⟨parentId, childId, addr, hlistener, rfl⟩ := announces_of_reserved hserves hne h hsend
    cases hregistration
    exact .peer hlistener addr

end Control

/-- The event and the task of a configured endpoint have its settings. -/
theorem EndpointSpec.spawn_serves (format : AddrFormat) (spec : EndpointSpec) (id : EndpointId) :
    (spec.spawn id).2.control.Serves spec ∧ ∃ name payload,
      (spec.spawn id).1.registration? = some (id, name, payload) ∧
      spec.Registers format name payload := by
  obtain ⟨kind, name⟩ := spec
  cases kind with
  | serial endpoint => exact ⟨rfl, _, _, rfl, .leaf rfl⟩
  | tcpClient endpoint => exact ⟨rfl, _, _, rfl, .leaf rfl⟩
  | udpClient endpoint => exact ⟨rfl, _, _, rfl, .leaf rfl⟩
  | tcpServer endpoint => exact ⟨⟨rfl, rfl, rfl⟩, _, _, rfl, .listener rfl⟩
  | udpServer endpoint => exact ⟨⟨rfl, rfl, rfl⟩, _, _, rfl, .listener rfl⟩

namespace TaskNet

variable {table : MsgTable} {format : AddrFormat} {oneshot : List UInt8 → UInt64}
  {net after : TaskNet} {wiring : RouterWiring} {specs : List EndpointSpec}
  {actions : List Action}

/-- Everything belongs to an endpoint of the configuration. -/
structure Declared (format : AddrFormat) (specs : List EndpointSpec) (net : TaskNet) : Prop where
  waiting : net.specs ⊆ specs
  tasks : ∀ task ∈ net.tasks, ∃ spec ∈ specs, task.control.Serves spec
  events : ∀ event ∈ net.loop.announced, ∀ id name payload,
    event.registration? = some (id, name, payload) →
      ∃ spec ∈ specs, spec.Registers format name payload

private theorem Declared.setLoop (h : net.Declared format specs) {action : RouterLoop.Action}
    {loop : RouterLoop} (hmoves : RouterLoop.Moves oneshot net.loop action loop)
    (hevent : action.event? = none) : (net.setLoop loop).Declared format specs := by
  refine ⟨h.waiting, h.tasks, ?_⟩
  change ∀ event ∈ loop.announced, _
  rw [hmoves.announced_eq hevent]
  exact h.events

/-- A turn of a task adds nothing that is not configured. -/
private theorem Declared.commit (h : net.Declared format specs) (hkept : net.Kept)
    (hsourced : net.Sourced) {index : ℕ} {task : Task} {taskStep : TaskStep} {turn : Turn Control}
    (htask : net.tasks[index]? = some task)
    (hturn : task.control.step (net.env table format task.id) task.id (net.wiring task.portId)
      taskStep = some turn) : (net.commit index task turn).Declared format specs := by
  have hmem := List.mem_of_getElem? htask
  have hsound := hkept.sound task hmem
  obtain ⟨spec, hspec, hserves⟩ := h.tasks task hmem
  have hprovides := Control.step_provides (hsourced.sends task hmem) hturn
  refine ⟨h.waiting, ?_, ?_⟩
  · intro other hother
    rcases mem_tasks_commit hother with hold | rfl | hnew
    · exact h.tasks other hold
    · exact ⟨spec, hspec, Control.serves_step hserves hturn⟩
    · exact ⟨spec, hspec, hserves.spawns (hprovides.spawned other hnew).1⟩
  · intro event hannounced id name payload hregistration
    have hannounced : event ∈ net.loop.handled.filterMap Input.event? ++
        turn.wiring.events.items := hannounced
    rcases (Control.step_accounts hsound hturn).events with hsame | ⟨sent, hsend⟩
    · rw [hsame] at hannounced
      exact h.events event hannounced id name payload hregistration
    · rw [Library.Channel.items_of_trySend hsend, ← List.append_assoc] at hannounced
      rcases List.mem_append.mp hannounced with hold | hfresh
      · exact h.events event hold id name payload hregistration
      · rw [List.mem_singleton.mp hfresh] at hregistration
        exact ⟨spec, hspec, Control.step_registers hsound hserves hturn hsend hregistration⟩

/-- A spawned endpoint is one of the configuration. -/
private theorem Declared.spawned (h : net.Declared format specs) {spec : EndpointSpec}
    {rest : List EndpointSpec} {sent : Bool} {wiring : Wiring}
    (hspecs : net.specs = spec :: rest)
    (hsend : (net.wiring ⟨net.next⟩).sendEvent (spec.spawn ⟨net.next⟩).1 = some (sent, wiring)) :
    (net.spawned spec rest (sent, wiring)).Declared format specs := by
  have hwaiting : spec ∈ specs ∧ rest ⊆ specs := by
    have hsubset := h.waiting
    rwa [hspecs, List.cons_subset] at hsubset
  obtain ⟨hserves, name, payload, hregistration, hregisters⟩ :=
    EndpointSpec.spawn_serves format spec ⟨net.next⟩
  cases sent with
  | true =>
    obtain ⟨hevents, -⟩ := Wiring.sendEvent_true hsend
    refine ⟨hwaiting.2, ?_, ?_⟩
    · intro task htask
      rcases mem_tasks_spawned htask with hold | rfl
      · exact h.tasks task hold
      · exact ⟨spec, hwaiting.1, hserves⟩
    · intro event hannounced id name' payload' hregistration'
      rw [announced_spawned hevents] at hannounced
      rcases List.mem_append.mp hannounced with hold | hfresh
      · exact h.events event hold id name' payload' hregistration'
      · rw [List.mem_singleton.mp hfresh, hregistration] at hregistration'
        cases hregistration'
        exact ⟨spec, hwaiting.1, hregisters⟩
  | false =>
    obtain ⟨-, rfl⟩ := Wiring.sendEvent_false hsend
    refine ⟨hwaiting.2, ?_, h.events⟩
    rw [tasks_spawned_false]
    exact h.tasks

private theorem Declared.step (h : net.Declared format specs) (hkept : net.Kept)
    (hsourced : net.Sourced)
    {action : Action} (hmoves : Moves table format oneshot net action after) :
    after.Declared format specs := by
  cases hmoves with
  | looped hinner hloop =>
    exact h.setLoop (RouterLoop.step_moves hloop) (Action.sends_nothing hinner).1
  | spawned hspecs hsend => exact h.spawned hspecs hsend
  | turned htask hturn => exact h.commit hkept hsourced htask hturn

end TaskNet

end MavlinkRouter
