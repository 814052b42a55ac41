import MavlinkRouter.Udp.Latch

/-!
# The sources of a frame

The datagrams that a client accepts make up a stream of bytes, and the frames it forwards are cut
from this stream. A frame that begins in one datagram may end in another one. The framer keeps
the bytes of an unfinished frame when the client turns to another sender, so that a frame can be
put together from bytes of both.
-/

namespace MavlinkRouter

open Library (execute execute_induction Along along_induction Segment)
open Framer (Scans emissions emissions_append tryNextFrame_scans)

/-- A frame is one of the pieces that have been cut from a stream. Its number is that of the
frames before it, counted from `first` on, and its place that of the bytes before it. -/
def IsPiece (first : ℕ) (pieces : List Piece) (frame : Bytes) (offset : ℕ) : Prop :=
  ∃ before header after, pieces = before ++ .emitted frame.data header :: after ∧
    frame.index = first + (emissions before).length ∧
    offset = (before.flatMap Segment.symbols).length

section Pieces

variable {first offset : ℕ} {pieces earlier : List Piece} {frame : Bytes}

/-- The pieces before some pieces count towards the number and the place of a frame. -/
theorem IsPiece.after (h : IsPiece (first + (emissions earlier).length) pieces frame offset) :
    IsPiece first (earlier ++ pieces) frame
      ((earlier.flatMap Segment.symbols).length + offset) := by
  obtain ⟨before, header, after, rfl, hindex, rfl⟩ := h
  refine ⟨earlier ++ before, header, after, by simp, ?_, by simp⟩
  rw [hindex, emissions_append, List.length_append, Nat.add_assoc]

private theorem IsPiece.append (h : IsPiece first pieces frame offset) (later : List Piece) :
    IsPiece first (pieces ++ later) frame offset := by
  obtain ⟨before, header, after, rfl, hindex, hoffset⟩ := h
  exact ⟨before, header, after ++ later, by simp, hindex, hoffset⟩

/-- A frame lies within the bytes of the pieces. -/
theorem IsPiece.add_length_le (h : IsPiece first pieces frame offset) :
    offset + frame.data.length ≤ (pieces.flatMap Segment.symbols).length := by
  obtain ⟨before, header, after, rfl, -, rfl⟩ := h
  simp

/-- The first of the emitted frames. -/
theorem isPiece_of_emissions {header : ParsedHeader} {data : List UInt8}
    (h : emissions pieces = [(header, data)]) (id : EndpointId) (first : ℕ) :
    ∃ offset, IsPiece first pieces ⟨data, id, first⟩ offset := by
  obtain ⟨before, piece, after, rfl, hbefore, hpiece, -⟩ := List.filterMap_eq_cons_iff.mp h
  have hnone : emissions before = [] := List.filterMap_eq_nil_iff.mpr hbefore
  cases piece with
  | discarded byte why => cases hpiece
  | emitted frame header' =>
    cases hpiece
    exact ⟨_, before, header, after, rfl, by rw [hnone]; rfl, rfl⟩

end Pieces

namespace Ingress

variable {table : MsgTable} {filters : Filters} {id : EndpointId} {now : Instant}
  {ingress after : Ingress} {sent : List RouterFrame}

/-- A reader has cut pieces from its buffer, and has sent some of the frames among them. -/
structure Cuts (table : MsgTable) (ingress : Ingress) (pieces : List Piece) (after : Ingress)
    (sent : List RouterFrame) : Prop where
  scans : Scans table ingress.framer pieces after.framer
  emitted : after.emitted = ingress.emitted + (emissions pieces).length
  sent : ∀ routerFrame ∈ sent,
    ∃ offset, IsPiece ingress.emitted pieces routerFrame.frame offset

/-- One frame is taken from the framer and may be sent, and then the others. -/
theorem Cuts.next (id : EndpointId) {header : ParsedHeader} {data : List UInt8} {framer : Framer}
    {pieces : List Piece} {routerFrames : List RouterFrame}
    (hnext : ingress.framer.tryNextFrame table = (some (header, data), framer))
    (h : Cuts table (ingress.take framer header now) pieces after sent)
    (hsent : ∀ routerFrame ∈ routerFrames,
      routerFrame.frame = ⟨data, id, ingress.emitted⟩ ∨ routerFrame ∈ sent) :
    ∃ pieces', Cuts table ingress pieces' after routerFrames := by
  obtain ⟨found, hscan, hemit, -⟩ := tryNextFrame_scans table ingress.framer
  rw [hnext] at hscan hemit
  have hcount : (ingress.take framer header now).emitted =
      ingress.emitted + (emissions found).length := by
    rw [hemit]
    rfl
  refine ⟨found ++ pieces, hscan.trans h.scans, ?_, fun routerFrame hmem => ?_⟩
  · rw [h.emitted, hcount, emissions_append, List.length_append, Nat.add_assoc]
  · rcases hsent routerFrame hmem with hframe | hlater
    · obtain ⟨offset, hpiece⟩ := isPiece_of_emissions hemit id ingress.emitted
      rw [hframe]
      exact ⟨offset, hpiece.append pieces⟩
    · obtain ⟨offset, hpiece⟩ := h.sent routerFrame hlater
      rw [hcount] at hpiece
      exact ⟨_, hpiece.after⟩

/-- The loop sends frames that it has cut from the buffer. -/
theorem cuts_forwardInboundFrames (framesOpen : Bool) (ingress : Ingress)
    (stats : EndpointStats) :
    ∃ pieces, Cuts table ingress pieces
      (ingress.forwardInboundFrames table filters id now framesOpen stats).ingress
      (ingress.forwardInboundFrames table filters id now framesOpen stats).sent := by
  fun_induction forwardInboundFrames table filters id now framesOpen ingress stats with
  | case1 ingress stats framer hnext =>
    obtain ⟨pieces, hscan, hemit, -⟩ := tryNextFrame_scans table ingress.framer
    rw [hnext] at hscan hemit
    exact ⟨pieces, hscan, by rw [hemit]; rfl, List.forall_mem_nil _⟩
  | case2 ingress stats header data framer hnext hpass hframes rest ih =>
    obtain ⟨pieces, hrest⟩ := ih
    refine Cuts.next id hnext hrest fun routerFrame hmem => ?_
    rcases List.mem_cons.mp hmem with rfl | hmem
    · exact .inl rfl
    · exact .inr hmem
  | case3 ingress stats header data framer hnext hpass hframes =>
    have hlast : Cuts table (ingress.take framer header now) []
        (ingress.take framer header now) [] := ⟨.refl _, rfl, List.forall_mem_nil _⟩
    exact Cuts.next id hnext hlast (List.forall_mem_nil _)
  | case4 ingress stats header data framer hnext hdrop ih =>
    obtain ⟨pieces, hrest⟩ := ih
    exact Cuts.next id hnext hrest fun routerFrame hmem => .inr hmem

/-- A whole read sends frames from what was left and what has arrived. -/
theorem cuts_read (framesOpen : Bool) (data : List UInt8) (ingress : Ingress)
    (stats : EndpointStats) :
    ∃ pieces, Cuts table (ingress.receive data) pieces
      (ingress.read table filters id now framesOpen data stats).ingress
      (ingress.read table filters id now framesOpen data stats).sent := by
  obtain ⟨pieces, h⟩ := cuts_forwardInboundFrames framesOpen (ingress.receive data) stats
  refine ⟨pieces, ?_⟩
  rw [read]
  split
  · exact h
  · exact ⟨h.scans, h.emitted, h.sent⟩

end Ingress

namespace UdpClient

variable {table : MsgTable} {spec : UdpClientSpec} {client after : UdpClient}

/-- The bytes of datagrams, one after the other. -/
def stream (datagrams : List (SocketAddr × List UInt8)) : List UInt8 :=
  datagrams.flatMap Prod.snd

/-- The canonical address that each of these bytes came from. -/
def origins (datagrams : List (SocketAddr × List UInt8)) : List IpAddr :=
  datagrams.flatMap fun datagram => datagram.2.map fun _ => datagram.1.ip.canonicalIp

/-- A frame has been cut from the bytes of datagrams at a place where all of them came from one
address. -/
def SingleSource (table : MsgTable) (datagrams : List (SocketAddr × List UInt8))
    (frame : Bytes) : Prop :=
  ∃ pieces rest offset, (Framer.scanner table).Run (stream datagrams) pieces rest ∧
    IsPiece 0 pieces frame offset ∧
    ∃ ip, ∀ origin ∈ ((origins datagrams).drop offset).take frame.data.length, origin = ip

/-- If an accepted datagram is from another address than the one before it, nothing is left in
the framer. -/
def StartsClean (client : UdpClient) : Action → Prop
  | .receive src _ _ _ => client.dest.classifyInbound src.ip ≠ .reject →
    ∀ last ∈ client.accepted.getLast?, last.1.ip.canonicalIp ≠ src.ip.canonicalIp →
      client.ingress.framer.buf = []
  | _ => True

instance (client : UdpClient) : ∀ action, Decidable (client.StartsClean action)
  | .receive src _ _ _ => inferInstanceAs (Decidable (client.dest.classifyInbound src.ip ≠ .reject →
      ∀ last ∈ client.accepted.getLast?, last.1.ip.canonicalIp ≠ src.ip.canonicalIp →
        client.ingress.framer.buf = []))
  | .access _ | .cancel | .closeFrames | .resolve _ | .bind _ | .wait | .tick _ _ | .pop
  | .send _ _ | .stop | .drain => .isTrue trivial

variable {datagrams : List (SocketAddr × List UInt8)} {src : SocketAddr} {data : List UInt8}

private theorem stream_snoc : stream (datagrams ++ [(src, data)]) = stream datagrams ++ data := by
  simp [stream]

private theorem origins_snoc :
    origins (datagrams ++ [(src, data)]) =
      origins datagrams ++ data.map fun _ => src.ip.canonicalIp := by
  simp [origins]

private theorem length_origins (datagrams : List (SocketAddr × List UInt8)) :
    (origins datagrams).length = (stream datagrams).length := by
  induction datagrams with
  | nil => rfl
  | cons datagram datagrams ih =>
    simp only [origins, stream, List.flatMap_cons, List.length_append, List.length_map] at ih ⊢
    rw [ih]

/-- The frames that have been forwarded are pieces of the stream with one source each, and what is
left in the framer is from the last datagram's source. -/
structure Assembled (table : MsgTable) (pieces : List Piece) (view : View) : Prop where
  run : (Framer.scanner table).Run (stream view.accepted) pieces view.ingress.framer.buf
  emitted : view.ingress.emitted = (emissions pieces).length
  forwarded : ∀ routerFrame ∈ view.forwarded, ∃ offset ip,
    IsPiece 0 pieces routerFrame.frame offset ∧
      ∀ origin ∈ ((origins view.accepted).drop offset).take routerFrame.frame.data.length,
        origin = ip
  pending : ∀ last ∈ view.accepted.getLast?,
    ∀ origin ∈ (origins view.accepted).drop (pieces.flatMap Segment.symbols).length,
      origin = last.1.ip.canonicalIp

variable {pieces : List Piece} {view : View}

/-- The pieces are part of the stream. -/
theorem Assembled.length_le (h : Assembled table pieces view) :
    (pieces.flatMap Segment.symbols).length ≤ (origins view.accepted).length := by
  rw [length_origins, h.run.eq_append, List.length_append]
  omega

/-- If nothing of another source is left, all bytes that have not been cut yet are from the
source of the new datagram. -/
theorem Assembled.origins_eq (h : Assembled table pieces view)
    (hclean : ∀ last ∈ view.accepted.getLast?, last.1.ip.canonicalIp ≠ src.ip.canonicalIp →
      view.ingress.framer.buf = []) :
    ∀ origin ∈ (origins (view.accepted ++ [(src, data)])).drop
      (pieces.flatMap Segment.symbols).length, origin = src.ip.canonicalIp := by
  intro origin horigin
  rw [origins_snoc, List.drop_append_of_le_length h.length_le] at horigin
  rcases List.mem_append.mp horigin with hleft | hnew
  · cases hlast : view.accepted.getLast? with
    | none =>
      rw [List.getLast?_eq_none_iff.mp hlast] at hleft
      simp [origins] at hleft
    | some last =>
      by_cases hsame : last.1.ip.canonicalIp = src.ip.canonicalIp
      · exact (h.pending last hlast origin hleft).trans hsame
      · have hbuf := hclean last hlast hsame
        have hall := h.run.eq_append
        rw [hbuf, List.append_nil] at hall
        rw [← hall, ← length_origins, List.drop_length] at hleft
        cases hleft
  · obtain ⟨_, -, rfl⟩ := List.mem_map.mp hnew
    rfl

/-- A datagram that begins cleanly is accepted. -/
theorem Assembled.accept {pieces' : List Piece} {ingress : Ingress} {sent : List RouterFrame}
    {view' : View} (h : Assembled table pieces view)
    (hclean : ∀ last ∈ view.accepted.getLast?, last.1.ip.canonicalIp ≠ src.ip.canonicalIp →
      view.ingress.framer.buf = [])
    (hcuts : (view.ingress.receive data).Cuts table pieces' ingress sent)
    (hview : view'.accepted = view.accepted ++ [(src, data)] ∧ view'.ingress = ingress ∧
      view'.forwarded = view.forwarded ++ sent) :
    Assembled table (pieces ++ pieces') view' := by
  have hlength := h.length_le
  have hdrop (count : ℕ) : ∀ origin ∈ (origins view'.accepted).drop
      ((pieces.flatMap Segment.symbols).length + count), origin = src.ip.canonicalIp := by
    intro origin horigin
    rw [hview.1, ← List.drop_drop] at horigin
    exact h.origins_eq hclean origin (List.mem_of_mem_drop horigin)
  constructor
  case run =>
    rw [hview.1, hview.2.1, stream_snoc]
    exact (h.run.extend data).append hcuts.scans.run
  case emitted =>
    rw [hview.2.1, hcuts.emitted, emissions_append, List.length_append, ← h.emitted]
    rfl
  case forwarded =>
    intro routerFrame hmem
    rw [hview.2.2] at hmem
    rcases List.mem_append.mp hmem with hold | hsent
    · obtain ⟨offset, ip, hpiece, hsource⟩ := h.forwarded routerFrame hold
      have hend := hpiece.add_length_le
      refine ⟨offset, ip, hpiece.append pieces', ?_⟩
      rw [hview.1, origins_snoc, List.drop_append_of_le_length (by omega),
        List.take_append_of_le_length (by rw [List.length_drop]; omega)]
      exact hsource
    · obtain ⟨offset, hpiece⟩ := hcuts.sent routerFrame hsent
      have hfirst : (view.ingress.receive data).emitted = 0 + (emissions pieces).length := by
        rw [Nat.zero_add]
        exact h.emitted
      rw [hfirst] at hpiece
      refine ⟨_, src.ip.canonicalIp, hpiece.after, fun origin horigin => ?_⟩
      exact hdrop offset origin (List.mem_of_mem_take horigin)
  case pending =>
    intro last hlast origin horigin
    rw [hview.1, List.getLast?_concat] at hlast
    cases hlast
    rw [List.flatMap_append, List.length_append] at horigin
    exact hdrop _ origin horigin

/-- One step from a clean start assembles no frame from two senders. -/
private theorem Assembled.step {action : Action} (h : Assembled table pieces client.view)
    (hclean : client.StartsClean action) (hmoves : Moves table spec client action after) :
    ∃ pieces', Assembled table pieces' after.view := by
  cases hmoves with
  | kept haction hview => exact ⟨pieces, by rwa [hview]⟩
  | resolved hphase hview => exact ⟨pieces, by rw [hview]; exact ⟨h.1, h.2, h.3, h.4⟩⟩
  | ticked hview => exact ⟨pieces, by rw [hview]; exact ⟨h.1, h.2, h.3, h.4⟩⟩
  | rejected hreject => exact ⟨pieces, h⟩
  | @accepted src data seen now forwarded _ hphase haccept hread hview =>
    obtain ⟨stats, rfl⟩ := hread
    obtain ⟨pieces', hcuts⟩ := Ingress.cuts_read client.framesOpen data client.ingress stats
    rw [hview]
    exact ⟨pieces ++ pieces',
      h.accept (hclean haccept) hcuts ⟨rfl, rfl, rfl⟩⟩
  | sent htarget hview => exact ⟨pieces, by rw [hview]; exact ⟨h.1, h.2, h.3, h.4⟩⟩
  | unsent hview => exact ⟨pieces, by rw [hview]; exact ⟨h.1, h.2, h.3, h.4⟩⟩

private theorem assembled_start (spec : UdpClientSpec) (capacity : ℕ) :
    Assembled table [] (start spec capacity).view where
  run := .nil _
  emitted := rfl
  forwarded := by simp [UdpClient.view, start]
  pending := by simp [UdpClient.view, start]

/-- If the framer is empty whenever the client turns to another sender, every frame that it
forwards is made up of bytes from one address. -/
theorem singleSource_of_startsClean {capacity : ℕ} {actions : List Action}
    (hclean : Along (step table spec) StartsClean (start spec capacity) actions)
    (h : execute (step table spec) (start spec capacity) actions = some client) :
    ∀ routerFrame ∈ client.forwarded, SingleSource table client.accepted routerFrame.frame := by
  have hassembled : ∃ pieces, Assembled table pieces client.view := by
    refine along_induction (motive := fun _ state => ∃ pieces, Assembled table pieces state.view)
      ⟨[], assembled_start spec capacity⟩ ?_ hclean h
    rintro actions before action next ⟨pieces, hbefore⟩ hstarts hstep
    exact hbefore.step hstarts (step_moves hstep)
  obtain ⟨pieces, hassembled⟩ := hassembled
  intro routerFrame hmem
  obtain ⟨offset, ip, hpiece, hsource⟩ := hassembled.forwarded routerFrame hmem
  exact ⟨pieces, _, offset, hassembled.run, hpiece, ip, hsource⟩

/-- A frame that arrives in two datagrams of one sender, the second one from another port, and then
a frame of another sender, when nothing is left of the first one. -/
theorem singleSource_of_startsClean_split :
    let table : MsgTable := ⟨[(0, ⟨50, none, none⟩)], List.pairwise_singleton _ _⟩
    let spec : UdpClientSpec := ⟨"host", 14550, ⟨1⟩, 30, {}⟩
    let first : Bytes := ⟨[0xFE, 0, 0, 1, 1, 1, 0, 0], ⟨1⟩, 0⟩
    let second : Bytes := ⟨[0xFE, 0, 1, 2, 2, 1, 0, 0], ⟨1⟩, 1⟩
    let actions : List Action := [.resolve [.v4 1, .v4 2], .bind true,
      .receive (.v4 1 14550) [0xFE, 0, 0, 1] 0 0, .receive (.v4 1 4000) [1, 1, 0, 0] 1 1,
      .tick 31000000000 [.v4 1, .v4 2],
      .receive (.v4 2 14550) [0xFE, 0, 1, 2, 2, 1, 0, 0] 32000000000 32000000000]
    ∃ client, execute (step table spec) (start spec 2) actions = some client ∧
      client.forwarded.map RouterFrame.frame = [first, second] ∧
      ∀ frame ∈ [first, second], SingleSource table client.accepted frame := by
  intro table spec first second actions
  have hforwarded : (execute (step table spec) (start spec 2) actions).map (fun client =>
      client.forwarded.map RouterFrame.frame) = some [first, second] := by
    decide +kernel
  obtain ⟨client, hrun, hforwarded⟩ := Option.map_eq_some_iff.mp hforwarded
  have hclean : Along (step table spec) StartsClean (start spec 2) actions := by
    decide +kernel
  refine ⟨client, hrun, hforwarded, fun frame hframe => ?_⟩
  rw [← hforwarded] at hframe
  obtain ⟨routerFrame, hmem, rfl⟩ := List.mem_map.mp hframe
  exact singleSource_of_startsClean hclean hrun routerFrame hmem

/-- The host of a client has two addresses. The first one sends half a frame and falls silent, and
the second one sends the other half. The table does not know the message, so that nothing is
checked. -/
theorem frame_from_two_sources :
    let table : MsgTable := ⟨[(0, ⟨50, none, none⟩)], List.pairwise_singleton _ _⟩
    let spec : UdpClientSpec := ⟨"host", 14550, ⟨1⟩, 30, {}⟩
    let frame : Bytes := ⟨[0xFE, 0, 0, 1, 1, 1, 0, 0], ⟨1⟩, 0⟩
    let actions : List Action := [.resolve [.v4 1, .v4 2], .bind true,
      .receive (.v4 1 14550) [0xFE, 0, 0, 1] 0 0, .tick 30000000000 [.v4 1, .v4 2],
      .receive (.v4 2 14550) [1, 1, 0, 0] 31000000000 31000000000]
    ∃ client, execute (step table spec) (start spec 2) actions = some client ∧
      client.forwarded.map RouterFrame.frame = [frame] ∧
      ¬ SingleSource table client.accepted frame := by
  intro table spec frame actions
  have hfields : (execute (step table spec) (start spec 2) actions).map (fun client =>
      (client.forwarded.map RouterFrame.frame, client.accepted)) =
        some ([frame], [(.v4 1 14550, [0xFE, 0, 0, 1]), (.v4 2 14550, [1, 1, 0, 0])]) := by
    decide +kernel
  obtain ⟨client, hrun, hfields⟩ := Option.map_eq_some_iff.mp hfields
  obtain ⟨hforwarded, haccepted⟩ := Prod.mk.inj hfields
  refine ⟨client, hrun, hforwarded, ?_⟩
  rw [haccepted]
  rintro ⟨pieces, rest, offset, hscan, hpiece, ip, hsource⟩
  -- The frame is as long as the stream, so it starts at the first byte.
  have hend := hpiece.add_length_le
  have hlength := congrArg List.length hscan.eq_append
  rw [List.length_append] at hlength
  have hstream : (stream [(SocketAddr.v4 1 14550, [0xFE, 0, 0, 1]),
      (SocketAddr.v4 2 14550, [1, 1, 0, 0])]).length = 8 := rfl
  have hframe : frame.data.length = 8 := rfl
  obtain rfl : offset = 0 := by omega
  have hfirst := hsource (.v4 1) (by decide)
  have hsecond := hsource (.v4 2) (by decide)
  exact absurd (hfirst.trans hsecond.symm) (by decide)

end UdpClient

end MavlinkRouter
