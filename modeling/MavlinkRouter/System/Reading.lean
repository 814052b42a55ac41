import MavlinkRouter.System.Transparency

/-!
# What a reader's step does

Every step of a reader, with the state it leaves behind: the reader, the counters it
publishes, and the frame its framer emitted.
-/

namespace MavlinkRouter

namespace Reader

/-- The counters of an endpoint after one more frame. -/
def counted (reader : Reader) (header : ParsedHeader) (data : List UInt8) (now : Instant)
    (stats : EndpointStats) : EndpointStats :=
  { stats.addRxFrame data.length with
    rxLostEst := (stats.addRxFrame data.length).rxLostEst +
      (reader.seqTracker.observe header.source header.seq now).1.toUInt64 }

/-- Everything one step of `forward` can do. -/
inductive Forwards (table : MsgTable) (filters : Filters) (id : EndpointId) (index : ℕ)
    (reader : Reader) (stats : EndpointStats) : Reader × EndpointStats × Option Bytes → Prop
  | drained {now : Instant} {framer : Framer} (hphase : reader.phase = .forwarding now)
      (hnext : reader.framer.tryNextFrame table = (none, framer)) :
    Forwards table filters id index reader stats
      ({ reader with
          framer := framer
          framerCounters := (reader.framerCounters.sync framer stats).1
          phase := .reading },
        (reader.framerCounters.sync framer stats).2, none)
  | held {now : Instant} {header : ParsedHeader} {data : List UInt8} {framer : Framer}
      (hphase : reader.phase = .forwarding now)
      (hnext : reader.framer.tryNextFrame table = (some (header, data), framer))
      (hfilter : filters.passesInFilter header.msgid header.source = true) :
    Forwards table filters id index reader stats
      ({ reader with
          framer := framer
          seqTracker := (reader.seqTracker.observe header.source header.seq now).2
          phase := .sending ⟨id, ⟨data, id, index⟩, header⟩ now },
        reader.counted header data now stats, some ⟨data, id, index⟩)
  | blocked {now : Instant} {header : ParsedHeader} {data : List UInt8} {framer : Framer}
      (hphase : reader.phase = .forwarding now)
      (hnext : reader.framer.tryNextFrame table = (some (header, data), framer))
      (hfilter : ¬ filters.passesInFilter header.msgid header.source = true) :
    Forwards table filters id index reader stats
      ({ reader with
          framer := framer
          seqTracker := (reader.seqTracker.observe header.source header.seq now).2 },
        { reader.counted header data now stats with
          inFilterDrops := (reader.counted header data now stats).inFilterDrops + 1 },
        some ⟨data, id, index⟩)

private theorem forward_forwards {table : MsgTable} {filters : Filters} {id : EndpointId}
    {index : ℕ}
    {reader : Reader} {stats : EndpointStats} {result : Reader × EndpointStats × Option Bytes}
    (h : reader.forward table filters id index stats = some result) :
    Forwards table filters id index reader stats result := by
  unfold forward at h
  split at h
  · rename_i now hphase
    split at h
    · rename_i framer hnext
      cases h
      exact .drained hphase hnext
    · rename_i header data framer hnext
      dsimp only at h
      split at h
      · rename_i hfilter
        cases h
        exact .held hphase hnext hfilter
      · rename_i hfilter
        cases h
        exact .blocked hphase hnext hfilter
  · cases h
  · cases h
  · cases h

end Reader

namespace System

variable {table : MsgTable} {filters : EndpointId → Filters} {before after : System}

/-- Everything one step of a reader can do. -/
inductive Reads (table : MsgTable) (filters : EndpointId → Filters) (before : System)
    (id : EndpointId) : ReaderStep → System → Prop
  | received (data : List UInt8) (now : Instant)
      (hphase : (before.links id).reader.phase = .reading) :
    Reads table filters before id (.receive data now)
      (before.setLink id ((before.links id).read { (before.links id).reader with
        framer := (before.links id).reader.framer.extendFromSlice data
        phase := .forwarding now }))
  | forwarded {result : Reader × EndpointStats × Option Bytes}
      (hforwards : Reader.Forwards table (filters id) id (before.links id).emitted.length
        (before.links id).reader (before.loop.ports id).stats result) :
    Reads table filters before id .forward
      ((before.setStats id result.2.1).setLink id ((before.links id).emit result.1 result.2.2))
  | sent {routerFrame : RouterFrame} {now : Instant} {frames : Library.Channel RouterFrame}
      (hphase : (before.links id).reader.phase = .sending routerFrame now)
      (hsend : before.loop.frames.trySend routerFrame = .ok frames) :
    Reads table filters before id .send
      ((before.setFrames frames).setLink id
        ((before.links id).read ((before.links id).reader.setPhase (.forwarding now))))
  | stopped {routerFrame : RouterFrame} {now : Instant}
      (hphase : (before.links id).reader.phase = .sending routerFrame now) :
    Reads table filters before id .send
      (before.setLink id ((before.links id).read ((before.links id).reader.setPhase .stopped)))
  | restarted (hphase : (before.links id).reader.phase = .reading) :
    Reads table filters before id .restart
      (before.setLink id ((before.links id).read .new))

/-- Every step of a reader is one of these. -/
theorem readerStep_reads {id : EndpointId} {step : ReaderStep}
    (h : before.readerStep table filters id step = some after) :
    Reads table filters before id step after := by
  cases step with
  | receive data now =>
    obtain ⟨reader, hreceive, rfl⟩ := Option.map_eq_some_iff.mp h
    unfold Reader.receive at hreceive
    split at hreceive
    · rename_i hphase
      cases hreceive
      exact .received data now hphase
    · cases hreceive
    · cases hreceive
    · cases hreceive
  | forward =>
    obtain ⟨result, hforward, rfl⟩ := Option.map_eq_some_iff.mp h
    exact .forwarded (Reader.forward_forwards hforward)
  | send =>
    simp only [readerStep] at h
    split at h
    · rename_i hphase
      split at h
      · rename_i hsend
        cases h
        exact .sent hphase hsend
      · cases h
      · cases h
        exact .stopped hphase
    · cases h
    · cases h
    · cases h
  | restart =>
    simp only [readerStep] at h
    split at h
    · rename_i hphase
      cases h
      exact .restarted hphase
    · cases h
    · cases h
    · cases h

/-- A writer's step leaves every reader alone. -/
theorem reader_write (system : System) (id : EndpointId) (writer : Writer)
    (frame : Option Written) (other : EndpointId) :
    ((system.setLink id ((system.links id).write writer frame)).links other).reader =
      (system.links other).reader := by
  rw [links_setLink]
  by_cases hid : other = id
  · rw [if_pos hid, hid]
    rfl
  · rw [if_neg hid]

/-- A reader's step leaves the tasks of the other endpoints alone. -/
theorem Reads.links_of_ne {id other : EndpointId} {step : ReaderStep}
    (h : Reads table filters before id step after) (hother : other ≠ id) :
    after.links other = before.links other := by
  cases h <;> rw [links_setLink, if_neg hother] <;> rfl

end System

end MavlinkRouter
