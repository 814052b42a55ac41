import MavlinkRouter.Mavlink.Stream
import MavlinkRouter.System.Reading

/-!
# Routers in a chain

What an endpoint writes is what the endpoint at the other end of its connection reads. A
reader frames every session on its own, from its first byte; a writer puts whole frames on
the wire, one after the other. So of two routers that share a connection the second one
reads exactly the frames the first one wrote, and hands on nothing else.
-/

namespace MavlinkRouter

open Library (execute execute_induction)

open Framer (scanner framesOf emissions)

namespace System

variable {table : MsgTable} {filters : EndpointId → Filters} {oneshot : List UInt8 → UInt64}
  {before after : System}

/-- What the reader of an endpoint received: the bytes of its finished sessions, the oldest
first, and those of the present one. -/
structure Receipts where
  past : List (List UInt8)
  current : List UInt8

/-- A read belongs to the present session; a restart begins the next one. -/
def Receipts.read (receipts : Receipts) : ReaderStep → Receipts
  | .receive data _ => ⟨receipts.past, receipts.current ++ data⟩
  | .forward => receipts
  | .send => receipts
  | .restart => ⟨receipts.past ++ [receipts.current], []⟩

/-- What one action adds to the receipts of an endpoint. -/
def Receipts.add (id : EndpointId) (receipts : Receipts) : Action → Receipts
  | .reader other step => if id = other then receipts.read step else receipts
  | _ => receipts

/-- What an endpoint received in a run. -/
def receipts (id : EndpointId) (actions : List Action) : Receipts :=
  actions.foldl (Receipts.add id) ⟨[], []⟩

private theorem receipts_snoc (id : EndpointId) (actions : List Action) (action : Action) :
    receipts id (actions ++ [action]) = (receipts id actions).add id action := by
  simp [receipts, List.foldl_append]

/-- The frames an endpoint emitted before its present session. -/
def Receipts.earlier (table : MsgTable) (receipts : Receipts) : List (ParsedHeader × List UInt8) :=
  receipts.past.flatMap (framesOf table)

/-- The framer of an endpoint has cut `pieces` off the bytes of the present session, and the
endpoint emitted the frames of its past sessions and those among the pieces. -/
structure Framing (table : MsgTable) (receipts : Receipts) (link : Link) (pieces : List Piece) :
    Prop where
  scans : Framer.Scans table (Framer.new.extendFromSlice receipts.current) pieces
    link.reader.framer
  emitted : link.emitted.map Bytes.data =
    (receipts.earlier table ++ emissions pieces).map Prod.snd
  /-- A reader waits for more bytes only when those it has hold no further frame. -/
  settled : link.reader.phase = .reading →
    (scanner table).verdict link.reader.framer.buf = .wait

namespace Framing

variable {receipts : Receipts} {link : Link} {pieces : List Piece}

/-- The frames of the present session are those emitted and those still in the framer. -/
theorem framesOf_current (h : Framing table receipts link pieces) :
    framesOf table receipts.current =
      emissions pieces ++ (Framer.drain table link.reader.framer).1 := by
  obtain ⟨all, hall, hframes, hwait⟩ :=
    Framer.drain_scans table (Framer.new.extendFromSlice receipts.current)
  obtain ⟨later, hlater, hleft, hwait'⟩ := Framer.drain_scans table link.reader.framer
  obtain ⟨rfl, -⟩ := Framer.scans_unique hall hwait (h.scans.trans hlater) hwait'
  rw [framesOf, ← hframes, Framer.emissions_append, hleft]

/-- A reader that waits for bytes has emitted every frame of the present session. -/
theorem framesOf_of_reading (h : Framing table receipts link pieces)
    (hphase : link.reader.phase = .reading) :
    framesOf table receipts.current = emissions pieces := by
  obtain ⟨all, hall, hframes, hwait⟩ :=
    Framer.drain_scans table (Framer.new.extendFromSlice receipts.current)
  obtain ⟨rfl, -⟩ := Framer.scans_unique hall hwait h.scans (h.settled hphase)
  exact hframes.symm

/-- A step of the reader keeps the account of its sessions. -/
theorem reads {id : EndpointId} {step : ReaderStep}
    (h : Framing table receipts (before.links id) pieces)
    (hreads : Reads table filters before id step after) :
    ∃ pieces', Framing table (receipts.read step) (after.links id) pieces' := by
  cases hreads with
  | received data now hphase =>
    rw [links_setLink, if_pos rfl]
    refine ⟨pieces, ?_, h.emitted, ?_⟩
    · have hscans := h.scans.extend data
      simpa [Framer.extendFromSlice, Receipts.read, Link.read] using hscans
    · rintro ⟨⟩
  | forwarded hforwards =>
    rw [links_setLink, if_pos rfl]
    obtain ⟨later, hlater, hnew, hwait⟩ :=
      Framer.tryNextFrame_scans table (before.links id).reader.framer
    cases hforwards with
    | drained hphase hnext =>
      rw [hnext] at hlater hnew hwait
      refine ⟨pieces ++ later, h.scans.trans hlater, ?_, fun _ => hwait rfl⟩
      simp [Framer.emissions_append, hnew, Link.emit, Receipts.read, h.emitted]
    | held hphase hnext hfilter =>
      rw [hnext] at hlater hnew
      refine ⟨pieces ++ later, h.scans.trans hlater, ?_, ?_⟩
      · simp [Framer.emissions_append, hnew, Link.emit, Receipts.read, h.emitted]
      · rintro ⟨⟩
    | blocked hphase hnext hfilter =>
      rw [hnext] at hlater hnew
      refine ⟨pieces ++ later, h.scans.trans hlater, ?_, ?_⟩
      · simp [Framer.emissions_append, hnew, Link.emit, Receipts.read, h.emitted]
      · intro hreading
        cases hphase.symm.trans hreading
  | sent hphase hsend =>
    rw [links_setLink, if_pos rfl]
    refine ⟨pieces, h.scans, h.emitted, ?_⟩
    rintro ⟨⟩
  | stopped hphase =>
    rw [links_setLink, if_pos rfl]
    refine ⟨pieces, h.scans, h.emitted, ?_⟩
    rintro ⟨⟩
  | restarted hphase =>
    rw [links_setLink, if_pos rfl]
    refine ⟨[], Framer.Scans.refl _, ?_, fun _ => rfl⟩
    have hframes := h.framesOf_of_reading hphase
    simpa [Receipts.read, Receipts.earlier, hframes, Link.read] using h.emitted

end Framing

/-- No task but the reader touches the framer of an endpoint. -/
theorem framing_step {id : EndpointId} {receipts : Receipts} {action : Action}
    (h : ∃ pieces, Framing table receipts (before.links id) pieces)
    (hstep : before.step table filters oneshot action = some after) :
    ∃ pieces, Framing table (receipts.add id action) (after.links id) pieces := by
  obtain ⟨pieces, hframing⟩ := h
  have hkept : ∀ system : System, (system.links id).reader = (before.links id).reader →
      (system.links id).emitted = (before.links id).emitted →
      ∃ pieces, Framing table receipts (system.links id) pieces := by
    intro system hreader hemitted
    refine ⟨pieces, ?_, ?_, ?_⟩
    · rw [hreader]
      exact hframing.scans
    · rw [hemitted]
      exact hframing.emitted
    · rw [hreader]
      exact hframing.settled
  have hrouter : ∀ loopAction, before.routerStep oneshot loopAction = some after →
      ∃ pieces, Framing table receipts (after.links id) pieces := by
    intro loopAction hloop
    obtain ⟨loop, -, rfl⟩ := Option.map_eq_some_iff.mp hloop
    exact hkept _ rfl rfl
  cases action with
  | sendEvent event => exact hrouter _ hstep
  | cancel => exact hrouter _ hstep
  | statsTask update => exact hrouter _ hstep
  | poll visit now => exact hrouter _ hstep
  | perform => exact hrouter _ hstep
  | storeState other state =>
    cases hstep
    exact hkept _ rfl rfl
  | reader other readerStep =>
    have hreads := readerStep_reads hstep
    simp only [Receipts.add]
    by_cases hid : id = other
    · subst hid
      rw [if_pos rfl]
      exact hframing.reads hreads
    · rw [if_neg hid, hreads.links_of_ne hid]
      exact ⟨pieces, hframing⟩
  | writer other writerStep =>
    obtain ⟨result, hwrite, rfl⟩ := Option.map_eq_some_iff.mp hstep
    exact hkept _ (reader_write (before.setPort other result.2.1) other _ _ id)
      (emitted_write (before.setPort other result.2.1) other _ _ id)

variable {wiring : RouterWiring} {txQueueFrames : EndpointId → ℕ} {actions : List Action}
  {system : System}

/-- In every run an endpoint's framer works on the bytes of the present session only. -/
theorem framing_run
    (hrun : execute (step table filters oneshot) (start wiring txQueueFrames) actions =
      some system) (id : EndpointId) :
    ∃ pieces, Framing table (receipts id actions) (system.links id) pieces := by
  refine execute_induction (motive := fun done reached => ∃ pieces,
    Framing table (receipts id done) (reached.links id) pieces) ?_ ?_ hrun
  · exact ⟨[], Framer.Scans.refl _, rfl, fun _ => rfl⟩
  · intro done reached action next hreached hstep
    rw [receipts_snoc]
    exact framing_step hreached hstep

/-- In every run the frames an endpoint emitted are those of its sessions, in order, each
session framed from its first byte as if it were the only one: no frame is made of bytes
of two sessions, and a session's frames do not depend on how its bytes were delivered.
Of the present session those frames are still to come that its framer still holds. -/
theorem sessions_framed_apart
    (hrun : execute (step table filters oneshot) (start wiring txQueueFrames) actions =
      some system) (id : EndpointId) :
    (system.links id).emitted.map Bytes.data ++
        (Framer.drain table (system.links id).reader.framer).1.map Prod.snd =
      (((receipts id actions).past ++ [(receipts id actions).current]).flatMap
        (framesOf table)).map Prod.snd ∧
    ((system.links id).reader.phase = .reading →
      (Framer.drain table (system.links id).reader.framer).1 = []) := by
  obtain ⟨pieces, hframing⟩ := framing_run hrun id
  have hcurrent := hframing.framesOf_current
  constructor
  · rw [hframing.emitted, List.flatMap_append, List.flatMap_singleton, hcurrent,
      Receipts.earlier]
    simp only [List.map_append, List.append_assoc]
  · intro hphase
    rw [hframing.framesOf_of_reading hphase] at hcurrent
    exact List.append_right_eq_self.mp hcurrent.symm

/-- A session that breaks off inside a frame leaves nothing behind for the next one. -/
theorem sessions_framed_apart_reconnect :
    let wiring : RouterWiring := ⟨4, 4, .new 4, 0, 4⟩
    let bytes : List UInt8 := [0xFE, 0, 7, 1, 1, 0, 0, 0]
    let actions : List Action :=
      [.reader ⟨0⟩ (.receive [0xFE, 0, 6] 1), .reader ⟨0⟩ .forward, .reader ⟨0⟩ .restart,
        .reader ⟨0⟩ (.receive bytes 2), .reader ⟨0⟩ .forward]
    (receipts ⟨0⟩ actions).past = [[0xFE, 0, 6]] ∧ (receipts ⟨0⟩ actions).current = bytes ∧
    ∃ system, execute (step ⟨[], .nil⟩ (fun _ => {}) fun _ => 0) (start wiring fun _ => 4)
        actions = some system ∧
      (system.links ⟨0⟩).emitted.map Bytes.data = [bytes] ∧
      (system.links ⟨0⟩).emitted.map Bytes.data ++
          (Framer.drain ⟨[], .nil⟩ (system.links ⟨0⟩).reader.framer).1.map Prod.snd =
        (((receipts ⟨0⟩ actions).past ++ [(receipts ⟨0⟩ actions).current]).flatMap
          (framesOf ⟨[], .nil⟩)).map Prod.snd := by
  intro wiring bytes actions
  refine ⟨by decide, by decide, ?_⟩
  have hemitted : (execute (step ⟨[], .nil⟩ (fun _ => {}) fun _ => 0) (start wiring fun _ => 4)
      actions).map (fun system => (system.links ⟨0⟩).emitted.map Bytes.data) = some [bytes] := by
    decide +kernel
  obtain ⟨system, hrun, hframes⟩ := Option.map_eq_some_iff.mp hemitted
  exact ⟨system, hrun, hframes, (sessions_framed_apart hrun ⟨0⟩).1⟩

/-- Every frame an endpoint emitted is a frame on its own. -/
theorem emits_of_emitted
    (hrun : execute (step table filters oneshot) (start wiring txQueueFrames) actions =
      some system) {id : EndpointId} {frame : Bytes}
    (hmem : frame ∈ (system.links id).emitted) :
    ∃ header, (scanner table).Emits frame.data header := by
  obtain ⟨pieces, hframing⟩ := framing_run hrun id
  have hdata : frame.data ∈ (system.links id).emitted.map Bytes.data := List.mem_map_of_mem hmem
  rw [hframing.emitted] at hdata
  obtain ⟨⟨header, data⟩, hout, hframe⟩ := List.mem_map.mp hdata
  rw [← hframe]
  refine ⟨header, ?_⟩
  rcases List.mem_append.mp hout with hpast | hcurrent
  · obtain ⟨stream, -, hstream⟩ := List.mem_flatMap.mp hpast
    obtain ⟨all, hscans, hemitted, -⟩ :=
      Framer.drain_scans table (Framer.new.extendFromSlice stream)
    rw [framesOf, ← hemitted] at hstream
    exact Framer.emits_of_mem_emissions hscans.run hstream
  · exact Framer.emits_of_mem_emissions hframing.scans.run hcurrent

/-- So is every frame on its way to an endpoint or on its wire. -/
theorem emits_of_downstream
    (hrun : execute (step table filters oneshot) (start wiring txQueueFrames) actions =
      some system) {dest : EndpointId} {frame : Bytes} (hmem : frame ∈ system.downstream dest) :
    ∃ header, (scanner table).Emits frame.data header := by
  have hpipe : frame ∈ system.pipe frame.origin dest := by
    refine List.mem_filter.mpr ⟨?_, by simp⟩
    exact List.mem_append_left _ (List.mem_append_left _ hmem)
  exact emits_of_emitted hrun (((faithful_run hrun).ordered frame.origin dest).subset hpipe)

end System

namespace Writer

/-- The bytes of the frame at hand that are on the wire. -/
def sent : Writer → List UInt8
  | .idle => []
  | .writing write => write.sent
  | .draining _ => []

/-- The frame at hand, if all its bytes are on the wire. -/
def completed : Writer → List Bytes
  | .idle => []
  | .writing write => if write.rest = [] then [write.frame] else []
  | .draining _ => []

/-- The bytes of the frame at hand, if only part of it is on the wire. -/
def begun : Writer → List UInt8
  | .idle => []
  | .writing write => if write.rest = [] then [] else write.sent
  | .draining _ => []

private theorem sent_eq (writer : Writer) :
    writer.sent = writer.completed.flatMap Bytes.data ++ writer.begun := by
  cases writer with
  | idle => rfl
  | writing write =>
    have hsplit := write.split
    simp only [sent, completed, begun]
    split
    · rename_i hrest
      rw [hrest, List.append_nil] at hsplit
      simpa using hsplit
    · rfl
  | draining count => rfl

private theorem completed_sublist (writer : Writer) : writer.completed.Sublist writer.frames := by
  cases writer with
  | idle => exact List.Sublist.refl _
  | writing write =>
    simp only [completed, frames]
    split
    · exact List.Sublist.refl _
    · exact List.nil_sublist _
  | draining count => exact List.Sublist.refl _

/-- What is on the wire only in part is a proper part of the frame at hand. -/
theorem begun_cases (writer : Writer) :
    writer.begun = [] ∨ ∃ frame ∈ writer.frames,
      writer.begun <+: frame.data ∧ writer.begun ≠ frame.data := by
  cases writer with
  | idle => exact .inl rfl
  | writing write =>
    have hsplit := write.split
    by_cases hrest : write.rest = []
    · exact .inl (if_pos hrest)
    · refine .inr ⟨write.frame, List.mem_singleton_self _, ?_⟩
      rw [begun, if_neg hrest, ← hsplit]
      exact ⟨List.prefix_append _ _, fun hsame => hrest (List.append_right_eq_self.mp hsame.symm)⟩
  | draining count => exact .inl rfl

end Writer

namespace Link

/-- The bytes on the wire of a connection on which the writer completed the frames of
`session`. -/
def wire (link : Link) (session : List Written) : List UInt8 :=
  session.flatMap Written.bytes ++ link.writer.sent

/-- The frames of which the wire carries every byte. -/
def carried (link : Link) (session : List Written) : List Bytes :=
  session.map Written.frame ++ link.writer.completed

/-- On the wire are whole frames, and perhaps part of one more. -/
theorem wire_eq (link : Link) (session : List Written) :
    link.wire session = (link.carried session).flatMap Bytes.data ++ link.writer.begun := by
  have hbytes : ∀ written : List Written,
      written.flatMap Written.bytes = (written.map Written.frame).flatMap Bytes.data := by
    intro written
    induction written with
    | nil => rfl
    | cons first rest ih => simp [first.complete, ih]
  rw [wire, carried, Writer.sent_eq, hbytes, List.flatMap_append, List.append_assoc]

end Link

namespace System

variable {table : MsgTable} {filters : EndpointId → Filters} {oneshot : List UInt8 → UInt64}
  {wiring : RouterWiring} {txQueueFrames : EndpointId → ℕ} {actions : List Action}
  {system : System} {dest : EndpointId} {session : List Written}

/-- What a connection carries is downstream of the router, in this order. -/
theorem carried_sublist (hsession : session <:+ (system.links dest).written) :
    ((system.links dest).carried session).Sublist (system.downstream dest) := by
  have hwriter := (hsession.sublist.map Written.frame).append
    (system.links dest).writer.completed_sublist
  exact hwriter.trans (List.sublist_append_left _ _)

/-- A framer reads the frames off the wire of an endpoint, and waits for the rest of the frame
that is not yet complete. -/
theorem drain_wire
    (hrun : execute (step table filters oneshot) (start wiring txQueueFrames) actions =
      some system) (hsession : session <:+ (system.links dest).written) :
    ∃ frames, frames.map Prod.snd = ((system.links dest).carried session).map Bytes.data ∧
      Framer.drain table (Framer.new.extendFromSlice ((system.links dest).wire session)) =
        (frames, Framer.new.extendFromSlice (system.links dest).writer.begun) := by
  have hwait : (scanner table).verdict (system.links dest).writer.begun = .wait := by
    rcases (system.links dest).writer.begun_cases with hnone | ⟨frame, hmem, hpart, hproper⟩
    · rw [hnone]
      rfl
    · obtain ⟨header, hemits⟩ := emits_of_downstream hrun
        (List.mem_append_left _ (List.mem_append_right _ hmem))
      exact Framer.wait_of_part hemits hpart hproper
  have hheaders : ∀ carried : List Bytes, carried ⊆ system.downstream dest →
      ∃ frames : List (ParsedHeader × List UInt8), frames.map Prod.snd = carried.map Bytes.data ∧
        ∀ out ∈ frames, (scanner table).Emits out.2 out.1 := by
    intro carried hcarried
    induction carried with
    | nil => exact ⟨[], rfl, List.forall_mem_nil _⟩
    | cons frame carried ih =>
      obtain ⟨header, hemits⟩ := emits_of_downstream hrun (hcarried List.mem_cons_self)
      obtain ⟨frames, hdata, hframes⟩ := ih fun _ hmem => hcarried (List.mem_cons_of_mem _ hmem)
      refine ⟨(header, frame.data) :: frames, ?_, List.forall_mem_cons.mpr ⟨hemits, hframes⟩⟩
      rw [List.map_cons, List.map_cons, hdata]
  obtain ⟨frames, hdata, hframes⟩ := hheaders _ (carried_sublist hsession).subset
  refine ⟨frames, hdata, ?_⟩
  have hbytes : frames.flatMap Prod.snd =
      ((system.links dest).carried session).flatMap Bytes.data := by
    rw [List.flatMap_def, hdata, ← List.flatMap_def]
  rw [Link.wire_eq, ← hbytes]
  exact Framer.drain_frames hframes hwait

/-- In every run, what an endpoint has put on the wire of a connection is read back by any
framer with the same table, in whatever chunks it arrives: exactly the frames written, in
order, with no byte discarded and no CRC error, and with the part of the frame being
written left in the buffer. -/
theorem wire_reframed
    (hrun : execute (step table filters oneshot) (start wiring txQueueFrames) actions =
      some system) (hsession : session <:+ (system.links dest).written)
    (policy : Framer.DrainPolicy) {chunks : List (List UInt8)}
    (hchunks : chunks.flatten = (system.links dest).wire session) :
    (Framer.feed table .new policy chunks).1.map Prod.snd =
        ((system.links dest).carried session).map Bytes.data ∧
      (Framer.feed table .new policy chunks).2.crcErrors = 0 ∧
      (Framer.feed table .new policy chunks).2.resyncBytes = 0 ∧
      (Framer.feed table .new policy chunks).2.buf = (system.links dest).writer.begun := by
  obtain ⟨frames, hdata, hdrain⟩ := drain_wire hrun hsession
  rw [Framer.feed_new, hchunks, hdrain]
  exact ⟨hdata, rfl, rfl, rfl⟩

/-- While a frame is on its way the next router has read what went before it. -/
theorem wire_reframed_relay :
    let wiring : RouterWiring := ⟨4, 4, .new 4, 0, 4⟩
    let visit : Visit := .inOrder
    let bytes : List UInt8 := [0xFE, 0, 7, 1, 1, 0, 0, 0]
    let actions : List Action :=
      [.sendEvent (.endpointAdded ⟨0⟩ "vehicle" (some ⟨{}, "vehicle"⟩)),
        .sendEvent (.endpointAdded ⟨1⟩ "ground" (some ⟨{}, "ground"⟩)),
        .poll visit 0, .poll visit 0, .poll visit 0, .poll visit 0,
        .reader ⟨0⟩ (.receive (bytes ++ bytes) 1), .reader ⟨0⟩ .forward, .reader ⟨0⟩ .send,
        .reader ⟨0⟩ .forward, .reader ⟨0⟩ .send,
        .poll visit 1, .poll visit 1, .poll visit 1, .perform, .perform,
        .poll visit 1, .poll visit 1, .poll visit 1, .perform, .perform,
        .writer ⟨1⟩ .pop, .writer ⟨1⟩ (.write 8), .writer ⟨1⟩ .finish, .writer ⟨1⟩ .pop,
        .writer ⟨1⟩ (.write 3)]
    ∃ system, execute (step ⟨[], .nil⟩ (fun _ => {}) fun _ => 0) (start wiring fun _ => 4)
        actions = some system ∧
      (system.links ⟨1⟩).wire (system.links ⟨1⟩).written = bytes ++ [0xFE, 0, 7] ∧
      (Framer.feed ⟨[], .nil⟩ .new .afterEveryChunk [[0xFE, 0], [7, 1, 1, 0, 0, 0, 0xFE],
        [0, 7]]).1.map Prod.snd =
        ((system.links ⟨1⟩).carried (system.links ⟨1⟩).written).map Bytes.data := by
  intro wiring visit bytes actions
  have hwire : (execute (step ⟨[], .nil⟩ (fun _ => {}) fun _ => 0) (start wiring fun _ => 4)
      actions).map (fun system => (system.links ⟨1⟩).wire (system.links ⟨1⟩).written) =
      some (bytes ++ [0xFE, 0, 7]) := by
    decide +kernel
  obtain ⟨system, hrun, hsent⟩ := Option.map_eq_some_iff.mp hwire
  refine ⟨system, hrun, hsent, ?_⟩
  exact (wire_reframed hrun (List.suffix_refl _) .afterEveryChunk (by rw [hsent]; rfl)).1

/-- The frames an endpoint numbered from `count` on come after its first `count` frames. -/
theorem filter_index_sublist (h : Faithful system) (id : EndpointId) (count : ℕ) :
    ((system.links id).emitted.filter fun frame => count ≤ frame.index).Sublist
      ((system.links id).emitted.drop count) := by
  have hnone : ((system.links id).emitted.take count).filter
      (fun frame => count ≤ frame.index) = [] := by
    refine List.filter_eq_nil_iff.mpr fun frame hmem hindex => ?_
    have hnumbers : frame.index ∈ ((system.links id).emitted.take count).map Bytes.index :=
      List.mem_map_of_mem hmem
    rw [List.map_take, h.numbered, List.take_range, List.mem_range] at hnumbers
    have hcount : count ≤ frame.index := of_decide_eq_true hindex
    omega
  nth_rewrite 1 [← List.take_append_drop count (system.links id).emitted]
  rw [List.filter_append, hnone, List.nil_append]
  exact List.filter_sublist

variable {upFilters downFilters : EndpointId → Filters}
  {upOneshot downOneshot : List UInt8 → UInt64} {upWiring downWiring : RouterWiring}
  {upQueues downQueues : EndpointId → ℕ} {upActions downActions : List Action} {up down : System}
  {outlet inlet : EndpointId}

/-- Two routers share a connection: what the endpoint `inlet` of the second one received in its
present session is what the endpoint `outlet` of the first one put on the wire, or the
beginning of it. Whatever either of them does besides, the second one takes from the
session the frames the first one wrote, in order and byte for byte; all of them, once it
has received and handled everything. What it writes on any of its endpoints from that
session is a subsequence of them, and they are, for each endpoint of the first router, a
subsequence of what that endpoint emitted; the outlet's own frames are not among them. -/
theorem chain_transparent
    (hup : execute (step table upFilters upOneshot) (start upWiring upQueues) upActions = some up)
    (hdown : execute (step table downFilters downOneshot) (start downWiring downQueues)
      downActions = some down)
    (hsession : session <:+ (up.links outlet).written)
    (hreceived : (receipts inlet downActions).current <+: (up.links outlet).wire session) :
    let earlier := ((receipts inlet downActions).earlier table).length
    let carried := (up.links outlet).carried session
    ((down.links inlet).emitted.drop earlier).map Bytes.data <+: carried.map Bytes.data ∧
    ((receipts inlet downActions).current = (up.links outlet).wire session →
      (down.links inlet).reader.phase = .reading →
      ((down.links inlet).emitted.drop earlier).map Bytes.data = carried.map Bytes.data) ∧
    (∀ dest, ((((down.links dest).written.map Written.frame).filter fun frame =>
      frame.origin = inlet ∧ earlier ≤ frame.index).map Bytes.data).Sublist
        (carried.map Bytes.data)) ∧
    ∀ src, (carried.filter fun frame => frame.origin = src).Sublist (up.links src).emitted ∧
      (src = outlet → carried.filter (fun frame => frame.origin = src) = []) := by
  intro earlier carried
  obtain ⟨pieces, hframing⟩ := framing_run hdown inlet
  obtain ⟨frames, hdata, hdrain⟩ := drain_wire hup hsession
  have hwire : (framesOf table ((up.links outlet).wire session)).map Prod.snd =
      carried.map Bytes.data := by
    rw [framesOf, hdrain, hdata]
  have hdropped : ((down.links inlet).emitted.drop earlier).map Bytes.data =
      (emissions pieces).map Prod.snd := by
    rw [List.map_drop, hframing.emitted, List.map_append]
    exact List.drop_left' (List.length_map _)
  have htaken : ((down.links inlet).emitted.drop earlier).map Bytes.data <+:
      carried.map Bytes.data := by
    obtain ⟨more, hmore⟩ := hreceived
    have hprefix : emissions pieces <+: framesOf table ((up.links outlet).wire session) := by
      rw [← hmore]
      refine List.IsPrefix.trans ?_ (Framer.framesOf_append table _ more)
      rw [hframing.framesOf_current]
      exact List.prefix_append _ _
    rw [hdropped, ← hwire]
    exact hprefix.map Prod.snd
  refine ⟨htaken, ?_, ?_, ?_⟩
  · intro hall hphase
    rw [hdropped, ← hwire, ← hall, hframing.framesOf_of_reading hphase]
  · intro dest
    have hfaithful := faithful_run hdown
    have hwritten : (((down.links dest).written.map Written.frame).filter
        fun frame => frame.origin = inlet).Sublist (down.links inlet).emitted := by
      refine List.Sublist.trans (List.Sublist.filter _ ?_) (hfaithful.ordered inlet dest)
      simp only [downstream, List.append_assoc]
      exact List.sublist_append_left _ _
    have hlater := (hwritten.filter fun frame : Bytes => earlier ≤ frame.index).trans
      (filter_index_sublist hfaithful inlet earlier)
    rw [List.filter_filter] at hlater
    refine List.Sublist.trans ?_ htaken.sublist
    refine List.Sublist.map Bytes.data ?_
    simpa [Bool.and_comm] using hlater
  · intro src
    have hfaithful := faithful_run hup
    constructor
    · refine List.Sublist.trans (List.Sublist.filter _ ?_) (hfaithful.ordered src outlet)
      refine (carried_sublist hsession).trans ?_
      rw [List.append_assoc]
      exact List.sublist_append_left _ _
    · rintro rfl
      refine List.filter_eq_nil_iff.mpr fun frame hmem horigin => ?_
      exact hfaithful.foreign src frame ((carried_sublist hsession).subset hmem)
        (of_decide_eq_true horigin)

/-- The first router relays a frame of its vehicle to the second one, which relays it to its
ground station. -/
theorem chain_transparent_pair :
    let wiring : RouterWiring := ⟨4, 4, .new 4, 0, 4⟩
    let visit : Visit := .inOrder
    let bytes : List UInt8 := [0xFE, 0, 7, 1, 1, 0, 0, 0]
    let relay : List Action :=
      [.sendEvent (.endpointAdded ⟨0⟩ "south" (some ⟨{}, "south"⟩)),
        .sendEvent (.endpointAdded ⟨1⟩ "north" (some ⟨{}, "north"⟩)),
        .poll visit 0, .poll visit 0, .poll visit 0, .poll visit 0,
        .reader ⟨0⟩ (.receive bytes 1), .reader ⟨0⟩ .forward, .reader ⟨0⟩ .send,
        .poll visit 1, .poll visit 1, .poll visit 1, .perform, .perform,
        .writer ⟨1⟩ .pop, .writer ⟨1⟩ (.write 8), .writer ⟨1⟩ .finish]
    ∃ system, execute (step ⟨[], .nil⟩ (fun _ => {}) fun _ => 0) (start wiring fun _ => 4)
        relay = some system ∧
      (receipts ⟨0⟩ relay).current = (system.links ⟨1⟩).wire (system.links ⟨1⟩).written ∧
      ((((system.links ⟨1⟩).written.map Written.frame).filter fun frame =>
        frame.origin = ⟨0⟩ ∧ ((receipts ⟨0⟩ relay).earlier ⟨[], .nil⟩).length ≤
          frame.index).map Bytes.data).Sublist
        (((system.links ⟨1⟩).carried (system.links ⟨1⟩).written).map Bytes.data) := by
  intro wiring visit bytes relay
  have hwire : (execute (step ⟨[], .nil⟩ (fun _ => {}) fun _ => 0) (start wiring fun _ => 4)
      relay).map (fun system => (system.links ⟨1⟩).wire (system.links ⟨1⟩).written) =
      some bytes := by
    decide +kernel
  obtain ⟨system, hrun, hsent⟩ := Option.map_eq_some_iff.mp hwire
  have hreceived : (receipts ⟨0⟩ relay).current =
      (system.links ⟨1⟩).wire (system.links ⟨1⟩).written := by
    rw [hsent]
    rfl
  have hchain := chain_transparent hrun hrun (List.suffix_refl _)
    (by rw [hreceived] : (receipts ⟨0⟩ relay).current <+: _)
  exact ⟨system, hrun, hreceived, hchain.2.2.1 ⟨1⟩⟩

end System

end MavlinkRouter
