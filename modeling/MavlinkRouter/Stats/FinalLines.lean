import MavlinkRouter.Stats.Loop

/-!
# The lines of a run

A run of the stats task together with a record of the lines it creates, of those that
`drain_queue` takes from the queue, and of those that reach the writer. An interval line only
ever meets interval lines in the queue, so a synthetic line is lost only in the drain after the
cancellation, to later synthetic lines.
-/

namespace MavlinkRouter.Stats

namespace Task

variable {queueCapacity created handed : ℕ} {task : Task}

/-- A synthetic line among synthetic lines: the queue keeps the last lines that fit. -/
theorem queue_enqueueSynthetic (line : StatsLine) (hcapacity : 0 < queueCapacity)
    (hlength : task.queue.length ≤ queueCapacity)
    (hsynthetic : ∀ entry ∈ task.queue, entry.synthetic = true) :
    (task.enqueueSynthetic queueCapacity line).queue =
      (task.queue ++ [QueueEntry.mk line true]).rtake queueCapacity := by
  have htotal : (task.queue ++ [QueueEntry.mk line true]).length =
      task.queue.length + 1 := List.length_append
  have hroom : (task.makeRoom queueCapacity).queue =
      task.queue.drop (task.queue.length + 1 - queueCapacity) := by
    unfold makeRoom
    split
    · rename_i hfull
      have hone : task.queue.length + 1 - queueCapacity = 1 := by omega
      have hnone : (task.queue.findIdx? fun entry => !entry.synthetic) = none := by
        rw [List.findIdx?_eq_none_iff]
        intro entry hentry
        rw [hsynthetic entry hentry]
        rfl
      rw [hnone, hone]
      dsimp only
      split
      · rename_i hnil
        rw [hnil]
        rfl
      · rename_i hcons
        rw [hcons]
        rfl
    · rename_i hshort
      have hzero : task.queue.length + 1 - queueCapacity = 0 := by omega
      rw [hzero]
      rfl
  rw [enqueueSynthetic, if_neg hcapacity.ne', List.rtake, htotal,
    List.drop_append_of_le_length (by omega), ← hroom]
  rfl

/-- Every created line has been handed on, is in the queue, or is counted as dropped. -/
def Balanced (created handed : ℕ) (task : Task) : Prop :=
  ∃ lost, task.totalDropped.toNat = min lost u64Max ∧
    created = handed + task.queue.length + lost

/-- One more line is counted as dropped, be it a queued one or a new one. -/
theorem Balanced.drop {created' : ℕ} {queue : List QueueEntry} (h : Balanced created handed task)
    (hline : created' + task.queue.length = created + queue.length + 1) :
    Balanced created' handed (task.drop queue) := by
  obtain ⟨lost, hlost, hcreated⟩ := h
  refine ⟨lost + 1, ?_, ?_⟩
  · rw [Task.drop, toNat_saturatingAdd, hlost]
    omega
  · change created' = handed + queue.length + (lost + 1)
    omega

private theorem Balanced.pushBack (h : Balanced created handed task) (entry : QueueEntry) :
    Balanced (created + 1) handed (task.pushBack entry) := by
  obtain ⟨lost, hlost, hcreated⟩ := h
  refine ⟨lost, hlost, ?_⟩
  rw [Task.pushBack, List.length_append, List.length_singleton]
  omega

private theorem Balanced.enqueueRegular (h : Balanced created handed task) (line : StatsLine) :
    Balanced (created + 1) handed (task.enqueueRegular queueCapacity line) := by
  unfold Task.enqueueRegular
  split
  · exact h.drop (by omega)
  · split
    · refine Balanced.pushBack (h.drop ?_) _
      rw [List.length_tail]
      omega
    · exact h.pushBack _

private theorem Balanced.makeRoom (h : Balanced created handed task) :
    Balanced created handed (task.makeRoom queueCapacity) := by
  unfold Task.makeRoom
  split
  · split
    · rename_i pos hpos
      have hlt := List.findIdx?_eq_some_iff_findIdx_eq.mp hpos
      refine h.drop ?_
      rw [List.length_eraseIdx_of_lt hlt.1]
      omega
    · split
      · exact h
      · rename_i hqueue
        refine h.drop ?_
        rw [hqueue, List.length_cons]
        omega
  · exact h

private theorem Balanced.enqueueSynthetic (h : Balanced created handed task) (line : StatsLine) :
    Balanced (created + 1) handed (task.enqueueSynthetic queueCapacity line) := by
  unfold Task.enqueueSynthetic
  split
  · exact h.drop (by omega)
  · exact h.makeRoom.pushBack _

/-- Every row gives one line. -/
theorem Balanced.queueRows {cfg : StatsRunConfig} (h : Balanced created handed task)
    (ports : Ports) (ts : String) (rows : List (Σ _ : EndpointId, RegisteredEndpoint)) :
    Balanced (created + rows.length) handed (task.queueRows cfg ports ts rows) := by
  induction rows generalizing task created with
  | nil => exact h
  | cons row rows ih =>
    rw [List.length_cons, Nat.add_comm rows.length, ← Nat.add_assoc]
    exact ih (h.enqueueRegular _)

/-- Draining hands the whole queue on. -/
theorem Balanced.drained {drained : Task} (h : Balanced created handed task)
    (hqueue : drained.queue = []) (hdropped : drained.totalDropped = task.totalDropped) :
    Balanced created (handed + task.queue.length) drained := by
  obtain ⟨lost, hlost, hcreated⟩ := h
  refine ⟨lost, hdropped ▸ hlost, ?_⟩
  rw [hqueue]
  exact hcreated

/-- Below saturation the counter is exact. -/
theorem Balanced.exact (h : Balanced created handed task)
    (hcount : task.totalDropped.toNat < u64Max) :
    created = handed + task.queue.length + task.totalDropped.toNat := by
  obtain ⟨lost, hlost, hcreated⟩ := h
  omega

end Task

namespace Loop

variable {cfg : StatsRunConfig} {writer : Writer} {loop after : Loop} {action : Action}

/-- The lines that a round creates. -/
def created (cfg : StatsRunConfig) (loop : Loop) : Action → List QueueEntry
  | .tick visit ports ts =>
    (visit.order loop.task.registry.entries).map fun row => ⟨rowLine ports ts row, false⟩
  | .event (.register _ _ _) _ _ => []
  | .event (.finalize id) ports ts =>
    match loop.task.registry.lookup id with
    | none => []
    | some entry =>
      if cfg.enabled then [⟨buildLine entry.name (ports id).stats ts entry.routable, true⟩]
      else []
  | .stop => []
  | .deadline => []

/-- The state in which a round calls `drain_queue`, if it does. -/
def atDrain (cfg : StatsRunConfig) (loop : Loop) : Action → Option Loop
  | .tick visit ports ts =>
    some { loop with task := loop.task.emitIntervalLines cfg visit ports ts }
  | .event event ports ts =>
    if loop.phase = .serving then
      some { loop with task := loop.task.handleEvent cfg ports ts event }
    else none
  | .stop => none
  | .deadline => some loop

/-- The lines that the writer is called with while a queue is drained. -/
def offers (writer : Writer) (loop : Loop) : List QueueEntry → List StatsLine
  | [] => []
  | entry :: rest =>
    if loop.task.brokenPipeWarned then (loop.writeLine writer entry).offers writer rest
    else entry.line :: (loop.writeLine writer entry).offers writer rest

end Loop

/-- The task and the lines of its run so far. -/
structure Recorded where
  loop : Loop
  /-- The lines created in the main loop. -/
  served : List QueueEntry
  /-- The lines created in the drain after it. -/
  finalized : List QueueEntry
  /-- The lines that `drain_queue` has taken from the queue. -/
  handed : List QueueEntry
  /-- The lines that the writer has been called with. -/
  offered : List StatsLine

namespace Recorded

def start : Recorded where
  loop := .start
  served := []
  finalized := []
  handed := []
  offered := []

/-- The record after a round. -/
def record (cfg : StatsRunConfig) (writer : Writer) (run : Recorded) (action : Loop.Action)
    (after : Loop) : Recorded :=
  let lines := run.loop.created cfg action
  let drained := run.loop.atDrain cfg action
  { loop := after
    served := if run.loop.phase = .serving then run.served ++ lines else run.served
    finalized := if run.loop.phase = .serving then run.finalized else run.finalized ++ lines
    handed := run.handed ++ drained.elim [] fun loop => loop.task.queue
    offered := run.offered ++ drained.elim [] fun loop => loop.offers writer loop.task.queue }

/-- One round of the loop, and its lines. -/
def step (cfg : StatsRunConfig) (writer : Writer) (run : Recorded) (action : Loop.Action) :
    Option Recorded :=
  (run.loop.step cfg writer action).map (run.record cfg writer action)

variable {cfg : StatsRunConfig} {writer : Writer} {run after : Recorded} {loop : Loop}

end Recorded

namespace Loop

variable {cfg : StatsRunConfig} {writer : Writer} {loop after : Loop}

/-- The writer is called with every line until the pipe breaks. -/
theorem offers_spec (writer : Writer) (loop : Loop) (queue : List QueueEntry) :
    loop.offers writer queue <+: queue.map QueueEntry.line ∧
      (loop.task.brokenPipeWarned = true → loop.offers writer queue = []) ∧
      ((queue.foldl (writeLine writer) loop).task.brokenPipeWarned = false →
        loop.task.brokenPipeWarned = false ∧
          loop.offers writer queue = queue.map QueueEntry.line) := by
  induction queue generalizing loop with
  | nil => exact ⟨List.prefix_refl _, fun _ => rfl, fun h => ⟨h, rfl⟩⟩
  | cons entry queue ih =>
    obtain ⟨hinit, hquiet, hall⟩ := ih (loop.writeLine writer entry)
    rw [offers, List.map_cons, List.foldl_cons]
    cases hwarned : loop.task.brokenPipeWarned with
    | true =>
      have hsame : loop.writeLine writer entry = loop := by rw [writeLine, if_pos hwarned]
      rw [hsame] at hquiet ⊢
      rw [if_pos rfl, hquiet hwarned]
      refine ⟨List.nil_prefix, fun _ => rfl, fun hunbroken => ?_⟩
      rw [hsame] at hall
      exact absurd ((hall hunbroken).1.symm.trans hwarned) Bool.false_ne_true
    | false =>
      rw [if_neg Bool.false_ne_true]
      refine ⟨(List.prefix_cons_inj _).mpr hinit, fun h => (Bool.false_ne_true h).elim, ?_⟩
      intro hunbroken
      exact ⟨rfl, congrArg _ (hall hunbroken).2⟩

/-- Of the lines handed on the writer has been called with the first ones, and with all of them
while the pipe is whole. -/
structure Told (loop : Loop) (handed : List QueueEntry) (offered : List StatsLine) : Prop where
  init : offered <+: handed.map QueueEntry.line
  all : loop.task.brokenPipeWarned = false → offered = handed.map QueueEntry.line

/-- A drain hands on the queued lines. -/
private theorem Told.drain {handed : List QueueEntry} {offered : List StatsLine}
    (h : loop.Told handed offered) (writer : Writer) :
    (loop.drainQueue writer).Told (handed ++ loop.task.queue)
      (offered ++ loop.offers writer loop.task.queue) := by
  obtain ⟨hinit, hquiet, hall⟩ := offers_spec writer loop loop.task.queue
  constructor
  case init =>
    rw [List.map_append]
    cases hwarned : loop.task.brokenPipeWarned with
    | true =>
      rw [hquiet hwarned, List.append_nil]
      exact h.init.trans (List.prefix_append _ _)
    | false =>
      rw [h.all hwarned]
      exact (List.prefix_append_right_inj _).mpr hinit
  case all =>
    intro hunbroken
    obtain ⟨hwarned, hoffers⟩ := hall hunbroken
    rw [hoffers, h.all hwarned, List.map_append]

private theorem Told.congr {handed : List QueueEntry} {offered : List StatsLine}
    (h : loop.Told handed offered)
    (hwarned : after.task.brokenPipeWarned = loop.task.brokenPipeWarned) :
    after.Told handed offered :=
  ⟨h.init, fun hunbroken => h.all (hwarned ▸ hunbroken)⟩

/-- An event creates synthetic lines only. -/
theorem synthetic_of_mem_created {event : StatsEvent} {ports : Ports} {ts : String}
    {entry : QueueEntry} (h : entry ∈ loop.created cfg (.event event ports ts)) :
    entry.synthetic = true := by
  cases event with
  | register id name routable => cases h
  | finalize id =>
    rw [created] at h
    split at h
    · cases h
    · split at h
      · rw [List.mem_singleton.mp h]
      · cases h

private theorem length_created_le (loop : Loop) (event : StatsEvent) (ports : Ports) (ts : String) :
    (loop.created cfg (.event event ports ts)).length ≤ 1 := by
  cases event with
  | register id name routable => exact Nat.zero_le _
  | finalize id =>
    rw [created]
    split
    · exact Nat.zero_le _
    · split
      · exact le_rfl
      · exact Nat.zero_le _

/-- An event whose line meets synthetic lines only: the queue keeps the last lines that fit. -/
theorem queue_handleEvent {event : StatsEvent} (ports : Ports) (ts : String)
    (hcapacity : 0 < cfg.queueCapacity) (hlength : loop.task.queue.length ≤ cfg.queueCapacity)
    (hsynthetic : ∀ entry ∈ loop.task.queue, entry.synthetic = true) :
    (loop.task.handleEvent cfg ports ts event).queue =
      (loop.task.queue ++ loop.created cfg (.event event ports ts)).rtake cfg.queueCapacity := by
  have hquiet : (loop.task.queue ++ []).rtake cfg.queueCapacity = loop.task.queue := by
    rw [List.append_nil, Library.rtake_of_length_le hlength]
  cases event with
  | register id name routable => exact hquiet.symm
  | finalize id =>
    rw [Task.handleEvent, created]
    cases hentry : loop.task.registry.lookup id with
    | none => exact hquiet.symm
    | some entry =>
      cases henabled : cfg.enabled with
      | false => exact hquiet.symm
      | true => exact Task.queue_enqueueSynthetic _ hcapacity hlength hsynthetic

private theorem balanced_handleEvent {event : StatsEvent} {total handed : ℕ} (ports : Ports)
    (ts : String) (h : loop.task.Balanced total handed) :
    (loop.task.handleEvent cfg ports ts event).Balanced
      (total + (loop.created cfg (.event event ports ts)).length) handed := by
  cases event with
  | register id name routable => exact h
  | finalize id =>
    rw [Task.handleEvent, created]
    cases hentry : loop.task.registry.lookup id with
    | none => exact h
    | some entry =>
      cases henabled : cfg.enabled with
      | false => exact h
      | true =>
        have hremoved : ({ loop.task with
            registry := loop.task.registry.erase id } : Task).Balanced total handed := h
        exact hremoved.enqueueSynthetic _

end Loop

namespace Recorded

variable {cfg : StatsRunConfig} {writer : Writer} {run after : Recorded}

/-- What holds of the lines after every round. -/
structure Sound (cfg : StatsRunConfig) (run : Recorded) : Prop where
  queue : run.loop.task.queue =
    if run.loop.phase = .finalizing then run.finalized.rtake cfg.queueCapacity else []
  serving : run.loop.phase = .serving → run.finalized = []
  synthetic : ∀ entry ∈ run.finalized, entry.synthetic = true
  handed : ∃ early, early.filter (·.synthetic) = run.served.filter (·.synthetic) ∧
    run.handed = early ++
      if run.loop.phase = .finished then run.finalized.rtake cfg.queueCapacity else []
  balanced : run.loop.task.Balanced (run.served.length + run.finalized.length) run.handed.length
  told : run.loop.Told run.handed run.offered

private theorem sound_start : Sound cfg start where
  queue := rfl
  serving := fun _ => rfl
  synthetic := List.forall_mem_nil _
  handed := ⟨[], rfl, rfl⟩
  balanced := ⟨0, rfl, rfl⟩
  told := ⟨List.prefix_refl _, fun _ => rfl⟩

/-- A round of the main loop. -/
theorem Sound.drained {mid : Loop} {lines : List QueueEntry} (h : Sound cfg run)
    (hserving : run.loop.phase = .serving) (hphase : mid.phase = .serving)
    (hwarned : mid.task.brokenPipeWarned = run.loop.task.brokenPipeWarned)
    (hqueue : mid.task.queue.filter (·.synthetic) = lines.filter (·.synthetic))
    (hbalanced : mid.task.Balanced (run.served.length + run.finalized.length + lines.length)
      run.handed.length) :
    Sound cfg
      { loop := mid.drainQueue writer
        served := run.served ++ lines
        finalized := run.finalized
        handed := run.handed ++ mid.task.queue
        offered := run.offered ++ mid.offers writer mid.task.queue } := by
  obtain ⟨hsame, -, hdropped⟩ := Loop.drainQueue_frame writer mid
  have hphase' : (mid.drainQueue writer).phase = .serving := hsame.trans hphase
  constructor
  case queue =>
    rw [hphase']
    rfl
  case serving => exact fun _ => h.serving hserving
  case synthetic => exact h.synthetic
  case handed =>
    obtain ⟨early, hearly, hhanded⟩ := h.handed
    rw [hserving, if_neg (by decide), List.append_nil] at hhanded
    refine ⟨early ++ mid.task.queue, ?_, ?_⟩
    · rw [List.filter_append, List.filter_append, hearly, hqueue]
    · rw [hphase', if_neg (by decide), List.append_nil, hhanded]
  case balanced =>
    have hlines : run.served.length + run.finalized.length + lines.length =
        (run.served ++ lines).length + run.finalized.length := by
      rw [List.length_append]
      omega
    have hhanded : (run.handed ++ mid.task.queue).length =
        run.handed.length + mid.task.queue.length := List.length_append
    have hdrained := hbalanced.drained (show (mid.drainQueue writer).task.queue = [] from rfl)
      hdropped
    rwa [hlines, ← hhanded] at hdrained
  case told => exact (h.told.congr hwarned).drain writer

/-- A tick: its lines are interval lines, and they meet an empty queue. -/
theorem Sound.tick {reached : Loop} {visit : Visit} {ports : Ports} {ts : String}
    (h : Sound cfg run)
    (hstep : run.loop.step cfg writer (.tick visit ports ts) = some reached) :
    Sound cfg (run.record cfg writer (.tick visit ports ts) reached) := by
  obtain ⟨⟨hserving, -⟩, hafter⟩ := Option.ite_none_right_eq_some.mp hstep
  cases hafter
  have hqueue := h.queue
  rw [hserving, if_neg (by decide)] at hqueue
  have hregular : ∀ entry ∈ run.loop.created cfg (.tick visit ports ts),
      ¬ entry.synthetic = true := by
    intro entry hentry
    obtain ⟨row, -, rfl⟩ := List.mem_map.mp hentry
    exact Bool.false_ne_true
  have hkept : (run.loop.task.emitIntervalLines cfg visit ports ts).queue = _ :=
    Task.queue_emitIntervalLines visit ports ts (by rw [hqueue]; exact Nat.zero_le _)
  rw [hqueue, List.nil_append] at hkept
  have hlines : (run.loop.task.emitIntervalLines cfg visit ports ts).Balanced _ _ :=
    h.balanced.queueRows ports ts (visit.order run.loop.task.registry.entries)
  simp only [record, if_pos hserving]
  refine h.drained hserving hserving (Task.brokenPipeWarned_emitIntervalLines _ _ _ _ _) ?_ ?_
  · rw [hkept, List.filter_eq_nil_iff.mpr hregular, List.filter_eq_nil_iff]
    intro entry hentry
    exact hregular entry ((Library.rtake_suffix _ _).subset hentry)
  · rw [Loop.created, List.length_map]
    exact hlines

/-- An event: its line meets an empty queue in the main loop, and synthetic lines after it. -/
theorem Sound.event {reached : Loop} {event : StatsEvent} {ports : Ports} {ts : String}
    (h : Sound cfg run) (hcapacity : 0 < cfg.queueCapacity)
    (hstep : run.loop.step cfg writer (.event event ports ts) = some reached) :
    Sound cfg (run.record cfg writer (.event event ports ts) reached) := by
  have hqueue := h.queue
  have hfits : run.loop.task.queue.length ≤ cfg.queueCapacity := by
    rw [hqueue]
    split
    · rw [Library.length_rtake]
      exact min_le_left _ _
    · exact Nat.zero_le _
  have hsynthetic : ∀ entry ∈ run.loop.task.queue, entry.synthetic = true := by
    rw [hqueue]
    split
    · exact fun entry hentry => h.synthetic entry ((Library.rtake_suffix _ _).subset hentry)
    · exact List.forall_mem_nil _
  have hkept : (run.loop.task.handleEvent cfg ports ts event).queue = _ :=
    Loop.queue_handleEvent ports ts hcapacity hfits hsynthetic
  have hbalanced : (run.loop.task.handleEvent cfg ports ts event).Balanced _ _ :=
    Loop.balanced_handleEvent ports ts h.balanced
  have hwarned := Task.brokenPipeWarned_handleEvent cfg ports ts run.loop.task event
  cases hphase : run.loop.phase with
  | serving =>
    simp only [Loop.step, hphase] at hstep
    cases hstep
    simp only [record, Loop.atDrain, hphase, if_true]
    refine h.drained hphase rfl hwarned ?_ hbalanced
    rw [hqueue, hphase, if_neg (by decide), List.nil_append] at hkept
    rw [hkept, Library.rtake_of_length_le]
    exact (Loop.length_created_le _ _ _ _).trans hcapacity
  | finalizing =>
    simp only [Loop.step, hphase] at hstep
    cases hstep
    obtain ⟨early, hearly, hhanded⟩ := h.handed
    simp only [record, Loop.atDrain, hphase, reduceCtorEq, if_false, Option.elim_none,
      List.append_nil]
    constructor
    case queue =>
      rw [hqueue, hphase, if_pos rfl, Library.rtake_rtake_append] at hkept
      exact hkept
    case serving =>
      intro hserving
      cases hserving
    case synthetic =>
      intro entry hentry
      rcases List.mem_append.mp hentry with hold | hnew
      · exact h.synthetic entry hold
      · exact Loop.synthetic_of_mem_created hnew
    case handed =>
      rw [hphase, if_neg (by decide)] at hhanded
      exact ⟨early, hearly, hhanded⟩
    case balanced =>
      rw [List.length_append, ← Nat.add_assoc]
      exact hbalanced
    case told => exact h.told.congr hwarned
  | finished =>
    simp only [Loop.step, hphase] at hstep
    cases hstep

/-- The cancellation finds an empty queue. -/
theorem Sound.stop {reached : Loop} (h : Sound cfg run)
    (hstep : run.loop.step cfg writer .stop = some reached) :
    Sound cfg (run.record cfg writer .stop reached) := by
  obtain ⟨hserving, hafter⟩ := Option.ite_none_right_eq_some.mp hstep
  cases hafter
  obtain ⟨early, hearly, hhanded⟩ := h.handed
  simp only [record, Loop.created, Loop.atDrain, if_pos hserving, Option.elim_none,
    List.append_nil]
  constructor
  case queue =>
    have hqueue := h.queue
    rw [hserving, if_neg (by decide)] at hqueue
    rw [if_pos rfl, h.serving hserving, List.rtake_nil]
    exact hqueue
  case serving => exact fun hserving => nomatch hserving
  case synthetic => exact h.synthetic
  case handed =>
    rw [hserving, if_neg (by decide)] at hhanded
    exact ⟨early, hearly, hhanded⟩
  case balanced => exact h.balanced
  case told => exact h.told.congr rfl

/-- The last drain hands on what is left. -/
theorem Sound.deadline {reached : Loop} (h : Sound cfg run)
    (hstep : run.loop.step cfg writer .deadline = some reached) :
    Sound cfg (run.record cfg writer .deadline reached) := by
  obtain ⟨hfinalizing, hafter⟩ := Option.ite_none_right_eq_some.mp hstep
  cases hafter
  obtain ⟨early, hearly, hhanded⟩ := h.handed
  have hqueue := h.queue
  rw [hfinalizing, if_pos rfl] at hqueue
  simp only [record, Loop.created, Loop.atDrain, hfinalizing, reduceCtorEq, if_false,
    Option.elim_some, List.append_nil]
  constructor
  case queue => rfl
  case serving => exact fun hserving => nomatch hserving
  case synthetic => exact h.synthetic
  case handed =>
    rw [hfinalizing, if_neg (by decide), List.append_nil] at hhanded
    refine ⟨early, hearly, ?_⟩
    rw [hhanded, hqueue]
    rfl
  case balanced =>
    rw [List.length_append]
    exact h.balanced.drained rfl (Loop.drainQueue_frame writer run.loop).2.2
  case told => exact (h.told.drain writer).congr rfl

/-- One round of the loop. -/
theorem Sound.step (h : Sound cfg run) (hcapacity : 0 < cfg.queueCapacity)
    {action : Loop.Action} (hstep : run.step cfg writer action = some after) :
    Sound cfg after := by
  obtain ⟨reached, hreached, rfl⟩ := Option.map_eq_some_iff.mp hstep
  cases action with
  | tick visit ports ts => exact h.tick hreached
  | event event ports ts => exact h.event hcapacity hreached
  | stop => exact h.stop hreached
  | deadline => exact h.deadline hreached

end Recorded

end MavlinkRouter.Stats
