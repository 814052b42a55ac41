import MavlinkRouter.Endpoint.SeqTracker

/-!
# What the loss estimate counts

While all sources fit in the table, the tracker keeps the sources apart and reports for each of
them what a tracker of its own would report. For a source that loses fewer than 64 frames in a
row the reports add up to the number of frames it has lost.
-/

namespace MavlinkRouter

namespace SeqTracker

/-- One observed frame. -/
structure Observation where
  node : NodeId
  seq : UInt8
  now : Instant
  deriving DecidableEq, Repr

/-- What the tracker returns for a sequence of frames, each with its source. -/
def reports (tracker : SeqTracker) : List Observation → List (NodeId × UInt32)
  | [] => []
  | seen :: rest =>
    let observed := tracker.observe seen.node seen.seq seen.now
    (seen.node, observed.1) :: observed.2.reports rest

/-- What the tracker returns for the frames of one source. -/
def reportsFor (node : NodeId) (tracker : SeqTracker) (frames : List Observation) : List UInt32 :=
  ((tracker.reports frames).filter (·.1 = node)).map Prod.snd

/-- The sequence numbers of one source. -/
def seqsOf (node : NodeId) (frames : List Observation) : List UInt8 :=
  (frames.filter (·.node = node)).map Observation.seq

/-- The last sequence number the tracker knows of a source. -/
def lastOf (tracker : SeqTracker) (node : NodeId) : Option UInt8 :=
  (tracker.entries.find? (isFor node)).map SeqEntry.lastSeq

/-- What is reported for a frame, given the last sequence number of its source. -/
def lossAfter (threshold : UInt8) (seq : UInt8) : Option UInt8 → UInt32
  | none => 0
  | some last =>
    if 0 < seq - last - 1 ∧ seq - last - 1 < threshold then (seq - last - 1).toUInt32 else 0

/-- What is reported for the frames of one source. -/
def losses (threshold : UInt8) (last : Option UInt8) : List UInt8 → List UInt32
  | [] => []
  | seq :: rest => lossAfter threshold seq last :: losses threshold (some seq) rest

variable {tracker : SeqTracker} {node : NodeId} {seq : UInt8} {now : Instant}
  {sources : Finset NodeId}

/-- An entry stays the entry of its source when its other fields change. -/
theorem find?_modify {f : SeqEntry → SeqEntry} (hf : ∀ entry, (f entry).node = entry.node)
    (entries : List SeqEntry) (other : NodeId) :
    (entries.modify (entries.findIdx (isFor node)) f).find? (isFor other) =
      (entries.find? (isFor other)).map fun entry => if other = node then f entry else entry := by
  induction entries with
  | nil => simp
  | cons entry entries ih =>
    by_cases hnode : entry.node = node
    · have hfor : isFor node entry = true := by simpa [isFor] using hnode
      rw [List.findIdx_cons, hfor, cond_true, List.modify_zero_cons]
      by_cases hother : other = node
      · simp [isFor, hf, hnode, hother]
      · have hne : ¬ entry.node = other := fun h => hother (h.symm.trans hnode)
        simp [isFor, hf, hne, hother]
    · have hfor : isFor node entry = false := by simpa [isFor] using hnode
      rw [List.findIdx_cons, hfor, cond_false, List.modify_succ_cons, List.find?_cons,
        List.find?_cons, ih]
      by_cases hother : entry.node = other
      · have hne : ¬ other = node := fun h => hnode (hother.trans h)
        simp [isFor, hother, hne]
      · simp [isFor, hother]

/-- Every tracked source has one entry and is one of `sources`, all of which fit. -/
structure Tracks (sources : Finset NodeId) (tracker : SeqTracker) : Prop where
  nodup : (tracker.entries.map SeqEntry.node).Nodup
  mem : ∀ entry ∈ tracker.entries, entry.node ∈ sources
  fits : sources.card ≤ tracker.capacity

private theorem tracks_new {capacity : ℕ} (hfits : sources.card ≤ max capacity 1) :
    (new capacity).Tracks sources :=
  ⟨List.nodup_nil, List.forall_mem_nil _, hfits⟩

private theorem not_mem_of_find?_eq_none (hnew : tracker.entries.find? (isFor node) = none) :
    node ∉ tracker.entries.map SeqEntry.node := by
  intro hmem
  obtain ⟨entry, hentry, hfor⟩ := List.mem_map.mp hmem
  exact List.find?_eq_none.mp hnew entry hentry (by simpa [isFor] using hfor)

/-- There is room for a new source. -/
theorem Tracks.length_lt (h : tracker.Tracks sources) (hnode : node ∈ sources)
    (hnew : tracker.entries.find? (isFor node) = none) :
    tracker.entries.length < tracker.capacity := by
  have hnodup : (node :: tracker.entries.map SeqEntry.node).Nodup :=
    List.nodup_cons.mpr ⟨not_mem_of_find?_eq_none hnew, h.nodup⟩
  have hsubset : (node :: tracker.entries.map SeqEntry.node).toFinset ⊆ sources := by
    intro other hother
    rcases List.mem_cons.mp (List.mem_toFinset.mp hother) with rfl | hother
    · exact hnode
    · obtain ⟨entry, hentry, rfl⟩ := List.mem_map.mp hother
      exact h.mem entry hentry
  have hcard := (Finset.card_le_card hsubset).trans h.fits
  rw [List.toFinset_card_of_nodup hnodup, List.length_cons, List.length_map] at hcard
  exact hcard

/-- A known source keeps its entry. -/
theorem Tracks.update (h : tracker.Tracks sources) (node : NodeId) (seq : UInt8) (now : Instant) :
    (tracker.update node seq now).Tracks sources := by
  have hnodes : (tracker.update node seq now).entries.map SeqEntry.node =
      tracker.entries.map SeqEntry.node := by
    refine List.ext_getElem? fun i => ?_
    rw [SeqTracker.update, List.getElem?_map, List.getElem?_map, List.getElem?_modify]
    cases tracker.entries[i]? with
    | none => rfl
    | some entry =>
      simp only [Option.map_some, Option.map_eq_map]
      split <;> rfl
  refine ⟨hnodes ▸ h.nodup, fun entry hentry => ?_, h.fits⟩
  have hmem : entry.node ∈ (tracker.update node seq now).entries.map SeqEntry.node :=
    List.mem_map_of_mem hentry
  rw [hnodes] at hmem
  obtain ⟨old, hold, hsame⟩ := List.mem_map.mp hmem
  exact hsame ▸ h.mem old hold

/-- The entries after the first frame of a source for which there is room. -/
theorem Tracks.entries_insert (h : tracker.Tracks sources) (hnode : node ∈ sources)
    (hnew : tracker.entries.find? (isFor node) = none) (seq : UInt8) (now : Instant) :
    (tracker.insert node seq now).entries = tracker.entries ++ [⟨node, seq, now⟩] := by
  have hroom := Library.makeRoom_of_length_lt SeqEntry.lastSeen (h.length_lt hnode hnew)
  exact congrArg (· ++ [SeqEntry.mk node seq now]) hroom

/-- A new source gets an entry. -/
private theorem Tracks.insert (h : tracker.Tracks sources) (hnode : node ∈ sources)
    (hnew : tracker.entries.find? (isFor node) = none) (seq : UInt8) (now : Instant) :
    (tracker.insert node seq now).Tracks sources := by
  have hentries := h.entries_insert hnode hnew seq now
  constructor
  case nodup =>
    rw [hentries, List.map_append]
    refine List.nodup_append.mpr ⟨h.nodup, List.nodup_singleton _, ?_⟩
    rintro other hother _ hself rfl
    have hsame : other = node := List.mem_singleton.mp hself
    exact not_mem_of_find?_eq_none hnew (hsame ▸ hother)
  case mem =>
    intro entry hentry
    rw [hentries] at hentry
    rcases List.mem_append.mp hentry with hold | hself
    · exact h.mem entry hold
    · rw [List.mem_singleton.mp hself]
      exact hnode
  case fits => exact h.fits

/-- One frame: the report depends on the last frame of its source only, and of all sources only
its own is affected. -/
theorem Tracks.observe (h : tracker.Tracks sources) (hnode : node ∈ sources) (seq : UInt8)
    (now : Instant) :
    (tracker.observe node seq now).1 = lossAfter tracker.threshold seq (tracker.lastOf node) ∧
      (tracker.observe node seq now).2.Tracks sources ∧
      (tracker.observe node seq now).2.threshold = tracker.threshold ∧
      ∀ other, (tracker.observe node seq now).2.lastOf other =
        if other = node then some seq else tracker.lastOf other := by
  rw [SeqTracker.observe]
  cases hfind : tracker.entries.find? (isFor node) with
  | some entry =>
    refine ⟨?_, h.update node seq now, rfl, fun other => ?_⟩
    · rw [lastOf, hfind]
      rfl
    · have hsame : ∀ entry : SeqEntry,
          ({ entry with lastSeq := seq, lastSeen := now } : SeqEntry).node = entry.node :=
        fun _ => rfl
      change (List.find? (isFor other) (List.modify _ _ _)).map SeqEntry.lastSeq = _
      rw [find?_modify hsame]
      by_cases hother : other = node
      · simp [hother, hfind]
      · rw [if_neg hother, lastOf]
        simp only [if_neg hother]
        rw [Option.map_id']
  | none =>
    refine ⟨?_, h.insert hnode hfind seq now, rfl, fun other => ?_⟩
    · rw [lastOf, hfind]
      rfl
    · change (List.find? (isFor other) (tracker.insert node seq now).entries).map _ = _
      rw [h.entries_insert hnode hfind seq now, List.find?_append, List.find?_singleton]
      by_cases hother : other = node
      · rw [hother, hfind, if_pos rfl]
        simp [isFor]
      · have hne : ¬ node = other := fun hsame => hother hsame.symm
        simp [isFor, hne, hother, lastOf]

/-- The reports for a source are those of its own sequence numbers. -/
theorem Tracks.reportsFor (h : tracker.Tracks sources) {frames : List Observation}
    (hframes : ∀ seen ∈ frames, seen.node ∈ sources) (node : NodeId) :
    tracker.reportsFor node frames =
      losses tracker.threshold (tracker.lastOf node) (seqsOf node frames) := by
  induction frames generalizing tracker with
  | nil => rfl
  | cons seen rest ih =>
    obtain ⟨hseen, hrest⟩ := List.forall_mem_cons.mp hframes
    obtain ⟨hloss, htracks, hthreshold, hlast⟩ := h.observe hseen seen.seq seen.now
    have hlater := ih htracks hrest
    rw [hthreshold, hlast] at hlater
    simp only [SeqTracker.reportsFor, reports, seqsOf] at hlater ⊢
    by_cases hnode : seen.node = node
    · subst hnode
      rw [List.filter_cons_of_pos (by simp), List.filter_cons_of_pos (by simp), List.map_cons,
        List.map_cons, losses, hlater, if_pos rfl, hloss]
    · rw [List.filter_cons_of_neg (by simpa using hnode),
        List.filter_cons_of_neg (by simpa using hnode), hlater, if_neg (Ne.symm hnode)]

/-- A gap of fewer than 64 frames is reported exactly, also when the numbers wrap around. -/
theorem toNat_lossAfter {i j : ℕ} (hlt : i < j) (hgap : j - i - 1 < 64) :
    (lossAfter defaultSeqGapThreshold (UInt8.ofNat j) (some (UInt8.ofNat i))).toNat =
      j - i - 1 := by
  obtain ⟨gap, rfl⟩ : ∃ gap, j = i + 1 + gap := ⟨j - i - 1, by omega⟩
  have hsub : i + 1 + gap - i - 1 = gap := by omega
  rw [hsub] at hgap ⊢
  have hdiff : UInt8.ofNat (i + 1 + gap) - UInt8.ofNat i - 1 = UInt8.ofNat gap := by
    rw [UInt8.ofNat_add, UInt8.ofNat_add]
    grind
  have hnat : (UInt8.ofNat gap).toNat = gap := UInt8.toNat_ofNat_of_lt' (hgap.trans (by decide))
  rw [lossAfter, hdiff]
  split
  · rw [UInt8.toNat_toUInt32, hnat]
  · rename_i hzero
    have hthreshold : UInt8.ofNat gap < defaultSeqGapThreshold := by
      rw [UInt8.lt_iff_toNat_lt, hnat]
      exact hgap
    have hnot : ¬ 0 < UInt8.ofNat gap := fun hpos => hzero ⟨hpos, hthreshold⟩
    rw [UInt8.lt_iff_toNat_lt, hnat] at hnot
    exact (Nat.eq_zero_of_not_pos hnot).symm

/-- Frames of one source, given by their numbers: each is later than the one before, and fewer
than 64 frames are missing between the two. -/
def FewMissing (i j : ℕ) : Prop :=
  i < j ∧ j - i - 1 < 64

/-- The reports after one frame of a source add up. -/
theorem sum_losses {first : ℕ} {rest : List ℕ} (hchain : (first :: rest).IsChain FewMissing) :
    ((losses defaultSeqGapThreshold (some (UInt8.ofNat first))
        (rest.map UInt8.ofNat)).map UInt32.toNat).sum + rest.length + first =
      (first :: rest).getLast (List.cons_ne_nil _ _) := by
  induction rest generalizing first with
  | nil => simp [losses]
  | cons next rest ih =>
    obtain ⟨⟨hlt, hgap⟩, hrest⟩ := List.isChain_cons_cons.mp hchain
    have hsum := ih hrest
    rw [List.getLast_cons (List.cons_ne_nil _ _), ← hsum, List.map_cons, losses, List.map_cons,
      List.sum_cons, toNat_lossAfter hlt hgap, List.length_cons]
    omega

/-- The numbers between the first and the last frame that no frame has. -/
def missing (indices : List ℕ) (first last : ℕ) : Finset ℕ :=
  (Finset.Icc first last).filter (· ∉ indices)

/-- The numbers that are missing from an increasing list. -/
private theorem card_missing {first : ℕ} {rest : List ℕ}
    (hsorted : (first :: rest).Pairwise (· < ·)) :
    (missing (first :: rest) first ((first :: rest).getLast (List.cons_ne_nil _ _))).card +
        rest.length + first =
      (first :: rest).getLast (List.cons_ne_nil _ _) := by
  have hle : (first :: rest).Pairwise (· ≤ ·) := hsorted.imp le_of_lt
  have hlast : ∀ i ∈ first :: rest, i ≤ (first :: rest).getLast (List.cons_ne_nil _ _) :=
    fun i hi => hle.rel_getLast hi
  generalize (first :: rest).getLast (List.cons_ne_nil _ _) = last at hlast ⊢
  have hsubset : (first :: rest).toFinset ⊆ Finset.Icc first last := by
    intro i hi
    have hmem := List.mem_toFinset.mp hi
    exact Finset.mem_Icc.mpr ⟨hle.rel_head hmem, hlast i hmem⟩
  have hmissing : missing (first :: rest) first last =
      Finset.Icc first last \ (first :: rest).toFinset := by
    ext i
    simp only [missing, Finset.mem_filter, Finset.mem_sdiff, List.mem_toFinset]
  have hcard : (first :: rest).toFinset.card = rest.length + 1 :=
    List.toFinset_card_of_nodup (hsorted.imp fun h => h.ne)
  have htotal := Finset.card_sdiff_add_card_eq_card hsubset
  have hfirst : first ≤ last := hlast first List.mem_cons_self
  rw [Nat.card_Icc, hcard, ← hmissing] at htotal
  omega

/-- For at most as many sources as the table has places, at any times and in any interleaving, the
tracker reports for each source what a tracker reports that is fed the frames of this source
alone, at whatever times. If the frames of a source have consecutive numbers modulo 256 and never
64 or more of them are missing in a row, the reports add up to the number of frames that are
missing between the first and the last one received. -/
theorem loss_estimate_exact {capacity : ℕ} {sources : Finset NodeId} {frames : List Observation}
    (hcapacity : sources.card ≤ max capacity 1) (hframes : ∀ seen ∈ frames, seen.node ∈ sources)
    (node : NodeId) :
    (∀ capacity' alone, (∀ seen ∈ alone, seen.node = node) →
      alone.map Observation.seq = seqsOf node frames →
      (new capacity').reportsFor node alone = (new capacity).reportsFor node frames) ∧
    ∀ first rest, seqsOf node frames = (first :: rest).map UInt8.ofNat →
      (first :: rest).IsChain FewMissing →
      (((new capacity).reportsFor node frames).map UInt32.toNat).sum =
        (missing (first :: rest) first
          ((first :: rest).getLast (List.cons_ne_nil _ _))).card := by
  have hshared : (new capacity).reportsFor node frames =
      losses defaultSeqGapThreshold none (seqsOf node frames) :=
    (tracks_new hcapacity).reportsFor hframes node
  rw [hshared]
  constructor
  · intro capacity' alone halone hseqs
    have hone : ({node} : Finset NodeId).card ≤ max capacity' 1 := by
      rw [Finset.card_singleton]
      exact le_max_right _ _
    have hprivate : (new capacity').reportsFor node alone =
        losses defaultSeqGapThreshold none (seqsOf node alone) :=
      (tracks_new hone).reportsFor
        (fun seen hseen => Finset.mem_singleton.mpr (halone seen hseen)) node
    have hall : seqsOf node alone = alone.map Observation.seq := by
      rw [seqsOf, List.filter_eq_self.mpr fun seen hseen => by simpa using halone seen hseen]
    rw [hprivate, hall, hseqs]
  · intro first rest hseqs hchain
    have hsorted : (first :: rest).Pairwise (· < ·) :=
      List.isChain_iff_pairwise.mp (hchain.imp fun _ _ h => h.1)
    have hsum := sum_losses hchain
    have hcard := card_missing hsorted
    rw [hseqs, List.map_cons, losses, List.map_cons, List.sum_cons]
    change 0 + _ = _
    omega

/-- Two vehicles, one of which loses the frames 255 and 256. -/
theorem loss_estimate_exact_wraparound :
    let frames : List Observation := [⟨⟨1, 1⟩, 254, 0⟩, ⟨⟨2, 1⟩, 7, 5⟩, ⟨⟨1, 1⟩, 1, 5⟩]
    seqsOf ⟨1, 1⟩ frames = [254, 257].map UInt8.ofNat ∧
      (((new seqTrackerCapacity).reportsFor ⟨1, 1⟩ frames).map UInt32.toNat).sum = 2 := by
  intro frames
  have hcapacity : ({⟨1, 1⟩, ⟨2, 1⟩} : Finset NodeId).card ≤ max seqTrackerCapacity 1 := by decide
  have hframes : ∀ seen ∈ frames, seen.node ∈ ({⟨1, 1⟩, ⟨2, 1⟩} : Finset NodeId) := by decide
  have hchain : [254, 257].IsChain FewMissing :=
    List.isChain_cons_cons.mpr ⟨⟨by decide, by decide⟩, List.isChain_singleton _⟩
  have hmissing : (missing [254, 257] 254 257).card = 2 := by decide
  have hlost := (loss_estimate_exact hcapacity hframes ⟨1, 1⟩).2 254 [257] rfl hchain
  exact ⟨rfl, hlost.trans hmissing⟩

end SeqTracker

end MavlinkRouter
