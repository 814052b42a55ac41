import MavlinkRouter.Library.Scanner
import MavlinkRouter.Mavlink.Framer

/-!
# The framer as a resumable scanner

What the framer decides at one position of the stream depends only on bytes that
have all arrived. The decision is stated here as a `Library.Scanner`, and every
call of the framer is shown to be a run of that scanner with matching counters.
Delivery in chunks then makes no difference.
-/

namespace MavlinkRouter

open Library

/-- Why the framer discards a byte. -/
inductive Discard where
  /-- The byte is not a start byte. -/
  | noStx
  /-- A v2 start byte whose header has an incompat flag other than SIGNED. -/
  | unknownFlag
  /-- The start byte of a complete frame of a known msgid with a wrong CRC. -/
  | badCrc
  deriving DecidableEq, Repr

/-- A part of the byte stream that the framer has consumed. -/
abbrev Piece := Segment UInt8 ParsedHeader Discard

namespace Framer

/-- The decision at the front of a buffer that starts with a start byte. -/
def verdictAtStx (table : MsgTable) (buf : List UInt8) (stx : Stx) :
    Verdict ParsedHeader Discard :=
  if buf.length < stx.headerLen then .wait
  else
    match decideFrameLen buf stx with
    | .unknownIncompatFlag => .discard .unknownFlag
    | .ready frameLen =>
      if buf.length < frameLen then .wait
      else if acceptsCrc table (buf.take frameLen) stx then
        .emit frameLen (fullHeader table (buf.take frameLen) stx)
      else .discard .badCrc

/-- The decision at the front of any buffer. -/
def verdict (table : MsgTable) : List UInt8 → Verdict ParsedHeader Discard
  | [] => .wait
  | byte :: rest =>
    match Stx.fromByte byte with
    | none => .discard .noStx
    | some stx => verdictAtStx table (byte :: rest) stx

/-- The announced length is read from the header bytes alone. -/
theorem decideFrameLen_append {buf : List UInt8} {stx : Stx} (h : stx.headerLen ≤ buf.length)
    (more : List UInt8) : decideFrameLen (buf ++ more) stx = decideFrameLen buf stx := by
  have hget (i : ℕ) (hi : i < buf.length) : (buf ++ more).getD i 0 = buf.getD i 0 := by
    simp [List.getD, List.getElem?_append_left hi]
  cases stx with
  | v1 =>
    have hlen : 6 ≤ buf.length := h
    simp only [decideFrameLen, hget 1 (by omega)]
  | v2 =>
    have hlen : 10 ≤ buf.length := h
    simp only [decideFrameLen, hget 1 (by omega), hget 2 (by omega)]

/-- A decision at a start byte is final. -/
theorem verdictAtStx_append {table : MsgTable} {buf : List UInt8} {stx : Stx}
    (h : verdictAtStx table buf stx ≠ .wait) (more : List UInt8) :
    verdictAtStx table (buf ++ more) stx = verdictAtStx table buf stx := by
  unfold verdictAtStx at h ⊢
  by_cases hheader : buf.length < stx.headerLen
  · simp [hheader] at h
  · have hheader' : ¬ (buf ++ more).length < stx.headerLen := by
      simp only [List.length_append]
      omega
    rw [if_neg hheader] at h ⊢
    rw [if_neg hheader', decideFrameLen_append (by omega)]
    cases hframe : decideFrameLen buf stx with
    | unknownIncompatFlag => rfl
    | ready frameLen =>
      simp only [hframe] at h
      by_cases hlen : buf.length < frameLen
      · simp [hlen] at h
      · have hlen' : ¬ (buf ++ more).length < frameLen := by
          simp only [List.length_append]
          omega
        have htake : (buf ++ more).take frameLen = buf.take frameLen :=
          List.take_append_of_le_length (by omega)
        simp only [if_neg hlen, if_neg hlen', htake]

/-- The scanner that the framer implements. -/
def scanner (table : MsgTable) : Scanner UInt8 ParsedHeader Discard where
  verdict := verdict table
  stable {buf} h more := by
    cases buf with
    | nil => simp [verdict] at h
    | cons byte rest =>
      simp only [verdict, List.cons_append] at h ⊢
      cases hstx : Stx.fromByte byte with
      | none => rfl
      | some stx =>
        simp only [hstx] at h
        exact verdictAtStx_append h more

/-- Number of bytes discarded among the pieces. -/
def discards (pieces : List Piece) : ℕ := pieces.countP (·.reason?.isSome)

/-- Number of positions discarded for a wrong CRC. -/
def crcDiscards (pieces : List Piece) : ℕ := pieces.countP (·.reason? == some .badCrc)

/-- The frames emitted among the pieces, in order. -/
def emissions (pieces : List Piece) : List (ParsedHeader × List UInt8) :=
  pieces.filterMap Segment.output?

@[simp] private theorem emissions_nil : emissions [] = [] := rfl

/-- The frames of two lists of pieces. -/
@[simp] theorem emissions_append (pieces pieces' : List Piece) :
    emissions (pieces ++ pieces') = emissions pieces ++ emissions pieces' := by
  simp [emissions]

@[simp] private theorem emissions_discarded (byte : UInt8) (why : Discard) (pieces : List Piece) :
    emissions (.discarded byte why :: pieces) = emissions pieces := rfl

/-- A frame before other pieces. -/
@[simp] theorem emissions_emitted (frame : List UInt8) (header : ParsedHeader)
    (pieces : List Piece) :
    emissions (.emitted frame header :: pieces) = (header, frame) :: emissions pieces := rfl

/-- The discarded bytes of two lists of pieces. -/
@[simp] theorem discards_append (pieces pieces' : List Piece) :
    discards (pieces ++ pieces') = discards pieces + discards pieces' := by
  simp [discards]

/-- The bytes discarded for a checksum in two lists of pieces. -/
@[simp] theorem crcDiscards_append (pieces pieces' : List Piece) :
    crcDiscards (pieces ++ pieces') = crcDiscards pieces + crcDiscards pieces' := by
  simp [crcDiscards]

/-- The framer has gone from one state to another by consuming these pieces. -/
structure Scans (table : MsgTable) (framer : Framer) (pieces : List Piece) (framer' : Framer) :
    Prop where
  run : (scanner table).Run framer.buf pieces framer'.buf
  resync : framer'.resyncBytes = saturatingAdd framer.resyncBytes (discards pieces)
  crc : framer'.crcErrors = saturatingAdd framer.crcErrors (crcDiscards pieces)

variable {table : MsgTable} {framer framer' framer'' : Framer} {pieces pieces' : List Piece}

/-- Nothing cut off. -/
theorem Scans.refl (framer : Framer) : Scans table framer [] framer where
  run := .nil _
  resync := by simp [discards]
  crc := by simp [crcDiscards]

/-- One scan after another. -/
theorem Scans.trans (h : Scans table framer pieces framer')
    (h' : Scans table framer' pieces' framer'') :
    Scans table framer (pieces ++ pieces') framer'' where
  run := h.run.append h'.run
  resync := by rw [h'.resync, h.resync, saturatingAdd_add, discards_append]
  crc := by rw [h'.crc, h.crc, saturatingAdd_add, crcDiscards_append]

/-- Where the code finds the first start byte. -/
theorem findStx_some {buf : List UInt8} {pos : ℕ} {stx : Stx}
    (h : findStx buf = some (pos, stx)) :
    ∃ garbage byte rest, buf = garbage ++ byte :: rest ∧ garbage.length = pos ∧
      (∀ b ∈ garbage, Stx.fromByte b = none) ∧ Stx.fromByte byte = some stx := by
  have hgen : ∀ (buf : List UInt8) (start : ℕ),
      ((buf.zipIdx start).findSome? fun entry =>
        (Stx.fromByte entry.1).map fun stx => (entry.2, stx)) = some (pos, stx) →
      ∃ garbage byte rest, buf = garbage ++ byte :: rest ∧ start + garbage.length = pos ∧
        (∀ b ∈ garbage, Stx.fromByte b = none) ∧ Stx.fromByte byte = some stx := by
    intro buf
    induction buf with
    | nil => intro start h; simp at h
    | cons byte rest ih =>
      intro start h
      rw [List.zipIdx_cons, List.findSome?_cons] at h
      cases hbyte : Stx.fromByte byte with
      | some found =>
        simp only [hbyte, Option.map_some, Option.some.injEq, Prod.mk.injEq] at h
        obtain ⟨rfl, rfl⟩ := h
        exact ⟨[], byte, rest, rfl, rfl, by simp, hbyte⟩
      | none =>
        simp only [hbyte, Option.map_none] at h
        obtain ⟨garbage, b, rest', hbuf, hlen, hnone, hb⟩ := ih (start + 1) h
        refine ⟨byte :: garbage, b, rest', by simp [hbuf], ?_, ?_, hb⟩
        · simp only [List.length_cons]
          omega
        · simpa [hbyte] using hnone
  obtain ⟨garbage, byte, rest, hbuf, hlen, hnone, hbyte⟩ := hgen buf 0 h
  exact ⟨garbage, byte, rest, hbuf, by omega, hnone, hbyte⟩

/-- The code finds no start byte only where there is none. -/
theorem findStx_none {buf : List UInt8} (h : findStx buf = none) :
    ∀ b ∈ buf, Stx.fromByte b = none := by
  intro b hb
  obtain ⟨i, hi, rfl⟩ := List.getElem_of_mem hb
  have hmem : (buf[i], i) ∈ buf.zipIdx :=
    List.mk_mem_zipIdx_iff_getElem?.mpr (List.getElem?_eq_getElem hi)
  simpa using List.findSome?_eq_none_iff.mp h _ hmem

/-- A prefix without start bytes is discarded byte by byte. -/
theorem run_garbage {garbage : List UInt8} (h : ∀ b ∈ garbage, Stx.fromByte b = none)
    (rest : List UInt8) :
    (scanner table).Run (garbage ++ rest) (garbage.map (.discarded · .noStx)) rest := by
  induction garbage with
  | nil => exact .nil rest
  | cons byte garbage ih =>
    have hbyte : Stx.fromByte byte = none := h byte (by simp)
    refine .cons ⟨rfl, ?_⟩ (ih fun b hb => h b (by simp [hb]))
    simp [scanner, verdict, hbyte, Segment.verdict]

/-- Every discarded byte counts. -/
@[simp] theorem discards_map_discarded (bytes : List UInt8) (why : Discard) :
    discards (bytes.map (.discarded · why)) = bytes.length := by
  simp [discards, List.countP_map, Function.comp_def]

/-- Discarded bytes count as checksum errors if that is the reason. -/
@[simp] theorem crcDiscards_map_discarded (bytes : List UInt8) (why : Discard) :
    crcDiscards (bytes.map (.discarded · why)) = if why = .badCrc then bytes.length else 0 := by
  by_cases hwhy : why = .badCrc <;>
    simp [crcDiscards, List.countP_map, Function.comp_def, hwhy]

/-- Discarded bytes emit nothing. -/
@[simp] theorem emissions_map_discarded (bytes : List UInt8) (why : Discard) :
    emissions (bytes.map (.discarded · why)) = [] := by
  simp [emissions, List.filterMap_map, Function.comp_def]

/-- Alignment that finds no start byte discards the whole buffer. -/
theorem alignToStx_none (table : MsgTable) (h : framer.alignToStx = (none, framer')) :
    ∃ pieces, Scans table framer pieces framer' ∧ emissions pieces = [] ∧ framer'.buf = [] := by
  unfold alignToStx at h
  split at h <;> rename_i hfind
  · split at h <;> simp at h
  · obtain rfl := (Prod.mk.inj h).2
    refine ⟨framer.buf.map (.discarded · .noStx), ⟨?_, ?_, ?_⟩, by simp, rfl⟩
    · simpa using run_garbage (findStx_none hfind) []
    · simp [addResync]
    · simp [addResync]

/-- Alignment discards the bytes before the first start byte, and the verdict is then
the one at that byte. -/
theorem alignToStx_some (table : MsgTable) {stx : Stx}
    (h : framer.alignToStx = (some stx, framer')) :
    ∃ pieces byte rest, Scans table framer pieces framer' ∧ emissions pieces = [] ∧
      framer'.buf = byte :: rest ∧
      (scanner table).verdict framer'.buf = verdictAtStx table framer'.buf stx := by
  have hverdict {byte : UInt8} {rest : List UInt8} (hbyte : Stx.fromByte byte = some stx) :
      (scanner table).verdict (byte :: rest) = verdictAtStx table (byte :: rest) stx := by
    simp [scanner, verdict, hbyte]
  unfold alignToStx at h
  split at h <;> rename_i hfind
  · rename_i pos found
    obtain ⟨garbage, byte, rest, hbuf, rfl, hnone, hbyte⟩ := findStx_some hfind
    have hdrop : framer.buf.drop garbage.length = byte :: rest := by simp [hbuf]
    split at h
    · obtain ⟨hstx, rfl⟩ := Prod.mk.inj h
      obtain rfl := Option.some.inj hstx
      refine ⟨garbage.map (.discarded · .noStx), byte, rest, ⟨?_, ?_, ?_⟩, by simp, hdrop, ?_⟩
      · simpa [hdrop, hbuf] using run_garbage hnone (byte :: rest)
      · simp [addResync]
      · simp [addResync]
      · simpa only [hdrop] using hverdict hbyte
    · obtain ⟨hstx, rfl⟩ := Prod.mk.inj h
      obtain rfl := Option.some.inj hstx
      obtain rfl : garbage = [] := List.eq_nil_of_length_eq_zero (by omega)
      have hbuf' : framer.buf = byte :: rest := by simpa using hbuf
      exact ⟨[], byte, rest, .refl framer, rfl, hbuf', by rw [hbuf']; exact hverdict hbyte⟩
  · simp at h

/-- Discarding one byte for a reason other than a CRC failure is one scanner step. -/
theorem discardByte_scans (table : MsgTable) {byte : UInt8} {rest : List UInt8} {why : Discard}
    (hbuf : framer.buf = byte :: rest)
    (hverdict : (scanner table).verdict framer.buf = .discard why) (hwhy : why ≠ .badCrc) :
    Scans table framer [.discarded byte why] framer.discardByte where
  run := Scanner.Step.run ⟨by simp [hbuf, discardByte, addResync], hverdict⟩
  resync := by simp [discards, discardByte, addResync]
  crc := by simp [crcDiscards, hwhy, discardByte, addResync]

/-- A frame with a wrong CRC costs one byte and one CRC error. -/
theorem badCrc_scans {byte : UInt8} {rest : List UInt8} (hbuf : framer.buf = byte :: rest)
    (hverdict : (scanner table).verdict framer.buf = .discard .badCrc) :
    Scans table framer [.discarded byte .badCrc]
      { framer with crcErrors := saturatingAdd framer.crcErrors 1 }.discardByte where
  run := Scanner.Step.run ⟨by simp [hbuf, discardByte, addResync], hverdict⟩
  resync := by simp [discards, discardByte, addResync]
  crc := by simp [crcDiscards, discardByte, addResync]

/-- Emitting a frame is one scanner step. -/
theorem emit_scans {frameLen : ℕ} {header : ParsedHeader}
    (hverdict : (scanner table).verdict framer.buf = .emit frameLen header)
    (hlen : frameLen ≤ framer.buf.length) :
    Scans table framer [.emitted (framer.buf.take frameLen) header]
      { framer with buf := framer.buf.drop frameLen } where
  run := Scanner.Step.run ⟨by simp, by simpa [Segment.verdict, hlen] using hverdict⟩
  resync := by simp [discards]
  crc := by simp [crcDiscards]

/-- One call of `try_next_frame` is a run of the scanner that ends with the returned
frame, or with a buffer on which the scanner waits. -/
theorem tryNextFrame_scans (table : MsgTable) (framer : Framer) :
    ∃ pieces, Scans table framer pieces (tryNextFrame table framer).2 ∧
      emissions pieces = (tryNextFrame table framer).1.toList ∧
      ((tryNextFrame table framer).1 = none →
        (scanner table).verdict (tryNextFrame table framer).2.buf = .wait) := by
  fun_induction tryNextFrame table framer with
  | case1 framer aligned halign =>
    obtain ⟨pieces, hscan, hemit, hnil⟩ := alignToStx_none table halign
    exact ⟨pieces, hscan, hemit, fun _ => by simp [hnil, scanner, verdict]⟩
  | case2 framer stx aligned halign hheader =>
    obtain ⟨pieces, byte, rest, hscan, hemit, hbuf, hverdict⟩ :=
      alignToStx_some table halign
    refine ⟨pieces, hscan, hemit, fun _ => ?_⟩
    rw [hverdict, verdictAtStx, if_pos hheader]
  | case3 framer stx aligned halign hheader hflag ih =>
    obtain ⟨pieces, byte, rest, hscan, hemit, hbuf, hverdict⟩ :=
      alignToStx_some table halign
    obtain ⟨pieces', hscan', hemit', hwait⟩ := ih
    have hdrop := discardByte_scans table hbuf
      (by rw [hverdict, verdictAtStx, if_neg hheader, hflag]) (by decide)
    refine ⟨_, (hscan.trans hdrop).trans hscan', ?_, hwait⟩
    simp [hemit, hemit']
  | case4 framer stx aligned halign hheader frameLen hready hlen =>
    obtain ⟨pieces, byte, rest, hscan, hemit, hbuf, hverdict⟩ :=
      alignToStx_some table halign
    refine ⟨pieces, hscan, hemit, fun _ => ?_⟩
    rw [hverdict, verdictAtStx, if_neg hheader, hready]
    simp only [if_pos hlen]
  | case5 framer stx aligned halign hheader frameLen hready hlen frame rest hvalid =>
    obtain ⟨pieces, byte, tail, hscan, hemit, hbuf, hverdict⟩ :=
      alignToStx_some table halign
    obtain ⟨hcrc, rfl, rfl⟩ := tryValidateAndEmit_some hvalid
    rw [verdictAtStx, if_neg hheader, hready] at hverdict
    simp only [if_neg hlen, if_pos hcrc] at hverdict
    refine ⟨_, hscan.trans (emit_scans hverdict (by omega)), ?_, by simp⟩
    simp [hemit]
  | case6 framer stx aligned halign hheader frameLen hready hlen rest hvalid ih =>
    obtain ⟨pieces, byte, tail, hscan, hemit, hbuf, hverdict⟩ :=
      alignToStx_some table halign
    obtain ⟨hcrc, rfl⟩ := tryValidateAndEmit_none hvalid
    obtain ⟨pieces', hscan', hemit', hwait⟩ := ih
    rw [verdictAtStx, if_neg hheader, hready] at hverdict
    simp only [if_neg hlen, hcrc, Bool.false_eq_true, if_false] at hverdict
    refine ⟨_, (hscan.trans (badCrc_scans hbuf hverdict)).trans hscan', ?_, hwait⟩
    simp [hemit, hemit']

/-- Draining the framer is a run of the scanner to a buffer on which it waits. -/
theorem drain_scans (table : MsgTable) (framer : Framer) :
    ∃ pieces, Scans table framer pieces (drain table framer).2 ∧
      emissions pieces = (drain table framer).1 ∧
      (scanner table).verdict (drain table framer).2.buf = .wait := by
  fun_induction drain table framer with
  | case1 framer rest hnext =>
    obtain ⟨pieces, hscan, hemit, hwait⟩ := tryNextFrame_scans table framer
    simp only [hnext, forall_const] at hscan hemit hwait
    exact ⟨pieces, hscan, by simpa using hemit, hwait⟩
  | case2 framer frame rest hnext frames last hdrain ih =>
    obtain ⟨pieces, hscan, hemit, -⟩ := tryNextFrame_scans table framer
    obtain ⟨pieces', hscan', hemit', hwait⟩ := ih
    simp only [hnext] at hscan hemit
    simp only [hdrain] at hscan' hemit' hwait
    refine ⟨pieces ++ pieces', hscan.trans hscan', ?_, hwait⟩
    rw [emissions_append, hemit, hemit']
    rfl

/-- A drained result is determined by the stream that was scanned. -/
theorem scans_unique {start f₁ f₂ : Framer} (h₁ : Scans table start pieces f₁)
    (hw₁ : (scanner table).verdict f₁.buf = .wait) (h₂ : Scans table start pieces' f₂)
    (hw₂ : (scanner table).verdict f₂.buf = .wait) : pieces = pieces' ∧ f₁ = f₂ := by
  obtain ⟨rfl, hbuf⟩ := h₁.run.unique hw₁ h₂.run hw₂
  have hresync := h₁.resync.trans h₂.resync.symm
  have hcrc := h₁.crc.trans h₂.crc.symm
  cases f₁
  cases f₂
  simp_all

/-- Bytes that arrive later are scanned after the ones before. -/
theorem Scans.extend (h : Scans table framer pieces framer') (data : List UInt8) :
    Scans table (framer.extendFromSlice data) pieces (framer'.extendFromSlice data) where
  run := h.run.extend data
  resync := h.resync
  crc := h.crc

/-- When the caller drains the framer: `try_next_frame` until it returns `None`. -/
inductive DrainPolicy where
  | afterEveryChunk
  | afterLastChunk

/-- Append the chunks one by one to a framer and drain it according to the policy. -/
def feed (table : MsgTable) (framer : Framer) :
    DrainPolicy → List (List UInt8) → List (ParsedHeader × List UInt8) × Framer
  | .afterEveryChunk, [] => ([], framer)
  | .afterEveryChunk, chunk :: chunks =>
    let (frames, rest) := drain table (framer.extendFromSlice chunk)
    let (later, last) := feed table rest .afterEveryChunk chunks
    (frames ++ later, last)
  | .afterLastChunk, chunks => drain table (chunks.foldl extendFromSlice framer)

/-- Chunks that are only appended amount to their concatenation. -/
theorem foldl_extendFromSlice (chunks : List (List UInt8)) (framer : Framer) :
    chunks.foldl extendFromSlice framer = framer.extendFromSlice chunks.flatten := by
  induction chunks generalizing framer with
  | nil => simp [extendFromSlice]
  | cons chunk chunks ih => simp [ih, extendFromSlice]

/-- One more chunk. -/
theorem feed_snoc (table : MsgTable) (framer : Framer) (chunks : List (List UInt8))
    (chunk : List UInt8) :
    feed table framer .afterEveryChunk (chunks ++ [chunk]) =
      ((feed table framer .afterEveryChunk chunks).1 ++
          (drain table ((feed table framer .afterEveryChunk chunks).2.extendFromSlice chunk)).1,
        (drain table ((feed table framer .afterEveryChunk chunks).2.extendFromSlice chunk)).2) := by
  induction chunks generalizing framer with
  | nil => simp [feed]
  | cons first chunks ih => simp [feed, ih]

/-- Draining after every chunk scans the concatenation of the chunks. -/
theorem feed_afterEveryChunk_scans (table : MsgTable) (chunks : List (List UInt8)) (framer : Framer)
    (hwait : (scanner table).verdict framer.buf = .wait) :
    ∃ pieces, Scans table (framer.extendFromSlice chunks.flatten) pieces
        (feed table framer .afterEveryChunk chunks).2 ∧
      emissions pieces = (feed table framer .afterEveryChunk chunks).1 ∧
      (scanner table).verdict (feed table framer .afterEveryChunk chunks).2.buf = .wait := by
  induction chunks generalizing framer with
  | nil => exact ⟨[], by simpa [feed, extendFromSlice] using Scans.refl framer, rfl, hwait⟩
  | cons chunk chunks ih =>
    obtain ⟨pieces, hscan, hemit, hwait'⟩ := drain_scans table (framer.extendFromSlice chunk)
    obtain ⟨pieces', hscan', hemit', hlast⟩ := ih _ hwait'
    have hjoin : framer.extendFromSlice (chunk :: chunks).flatten =
        (framer.extendFromSlice chunk).extendFromSlice chunks.flatten := by
      simp [extendFromSlice]
    refine ⟨pieces ++ pieces', ?_, ?_, hlast⟩
    · rw [hjoin]
      exact (hscan.extend chunks.flatten).trans hscan'
    · rw [emissions_append, hemit, hemit']
      rfl

/-- Whatever the policy, feeding a fresh framer drains the concatenation of the chunks. -/
theorem feed_new (table : MsgTable) (policy : DrainPolicy) (chunks : List (List UInt8)) :
    feed table new policy chunks = drain table (new.extendFromSlice chunks.flatten) := by
  cases policy with
  | afterLastChunk => simp only [feed, foldl_extendFromSlice]
  | afterEveryChunk =>
    obtain ⟨pieces, hscan, hemit, hwait⟩ :=
      feed_afterEveryChunk_scans table chunks new rfl
    obtain ⟨pieces', hscan', hemit', hwait'⟩ :=
      drain_scans table (new.extendFromSlice chunks.flatten)
    obtain ⟨rfl, hlast⟩ := scans_unique hscan hwait hscan' hwait'
    exact Prod.ext (hemit.symm.trans hemit') hlast

/-- Chunk invariance: two ways of cutting a stream into chunks give the same frames,
the same totals and the same bytes left, whenever the framer is drained. -/
theorem feed_chunk_invariant (table : MsgTable) (policy policy' : DrainPolicy)
    {chunks chunks' : List (List UInt8)} (h : chunks.flatten = chunks'.flatten) :
    feed table new policy chunks = feed table new policy' chunks' := by
  rw [feed_new, feed_new, h]

/-- A nine-byte stream, delivered in two chunks or byte by byte. -/
theorem feed_chunk_invariant_heartbeat :
    [[0xFE, 0, 7, 1], [1, 0, 0, 0, 5]].flatten =
      ([[0xFE], [0], [7], [1], [1], [0], [0], [0], [5]] : List (List UInt8)).flatten ∧
    feed ⟨[], .nil⟩ new .afterLastChunk [[0xFE, 0, 7, 1], [1, 0, 0, 0, 5]] =
      feed ⟨[], .nil⟩ new .afterEveryChunk
        [[0xFE], [0], [7], [1], [1], [0], [0], [0], [5]] :=
  ⟨rfl, feed_chunk_invariant _ _ _ rfl⟩

end Framer

end MavlinkRouter
