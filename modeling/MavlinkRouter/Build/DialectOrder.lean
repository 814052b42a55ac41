import MavlinkRouter.Build.Offsets

/-!
# The order of the dialects

Messages that are defined more than once must agree in their name and in their `crc_extra` byte,
and the first definition makes the row of the table. The byte is a digest of the fields, so that
two definitions may agree in it and still have their target fields at different offsets; then the
table depends on the order in which the dialects are loaded.
-/

namespace MavlinkRouter.Build

open Library (foldlM_induction foldlM_snoc_eq_ok)

attribute [ext] MsgEntryGen

/-- Some message is defined under two names or with two `crc_extra` bytes. -/
def Conflicting (messages : List ParsedMessage) : Prop :=
  ∃ msg ∈ messages, ∃ msg' ∈ messages, msg.id = msg'.id ∧
    (msg.name ≠ msg'.name ∨ msg.crcExtra ≠ msg'.crcExtra)

/-- All definitions of a message have their target fields at the same offsets. -/
def OffsetsAgree (messages : List ParsedMessage) : Prop :=
  ∀ msg ∈ messages, ∀ msg' ∈ messages, msg.id = msg'.id →
    computeOffsets msg.fields = computeOffsets msg'.fields

section Rows

variable {messages messages' : List ParsedMessage} {msg : ParsedMessage} {id : UInt32}
  {row : MsgEntryGen} {entries entries' merged : Entries}

/-- What the table has recorded of some messages: every row is that of one of them, and agrees
with all those of its id. -/
structure Recorded (messages : List ParsedMessage) (entries : Entries) : Prop where
  origin : ∀ {id row}, entries.lookup id = some row →
    ∃ msg ∈ messages, msg.id = id ∧ rowOf msg = .ok row
  agrees : ∀ msg ∈ messages, ∃ row prev, rowOf msg = .ok row ∧
    entries.lookup msg.id = some prev ∧ prev.crcExtra = row.crcExtra ∧ prev.name = row.name

/-- Ingesting one more message. -/
theorem Recorded.ingest (h : Recorded messages entries)
    (hingest : ingestMessage entries msg = .ok merged) : Recorded (messages ++ [msg]) merged := by
  obtain ⟨row, hrow, hmerge⟩ := ingestMessage_eq_ok_iff.mp hingest
  rcases mergeEntry_eq_ok_iff.mp hmerge with ⟨hnone, rfl⟩ | ⟨prev, hprev, hcrc, hname, rfl⟩
  · constructor
    · intro id found hfound
      by_cases hid : id = msg.id
      · rw [hid, AList.lookup_insert] at hfound
        cases hfound
        exact ⟨msg, by simp, hid.symm, hrow⟩
      · rw [AList.lookup_insert_ne hid] at hfound
        obtain ⟨other, hother, hsame⟩ := h.origin hfound
        exact ⟨other, List.mem_append_left _ hother, hsame⟩
    · intro other hother
      rcases List.mem_append.mp hother with hother | hother
      · obtain ⟨found, prev, hfound, hprev, hagree⟩ := h.agrees other hother
        have hid : other.id ≠ msg.id := by
          intro hid
          rw [hid, hnone] at hprev
          cases hprev
        exact ⟨found, prev, hfound, by rwa [AList.lookup_insert_ne hid], hagree⟩
      · rw [List.mem_singleton.mp hother]
        exact ⟨row, row, hrow, AList.lookup_insert _, rfl, rfl⟩
  · constructor
    · intro id found hfound
      obtain ⟨other, hother, hsame⟩ := h.origin hfound
      exact ⟨other, List.mem_append_left _ hother, hsame⟩
    · intro other hother
      rcases List.mem_append.mp hother with hother | hother
      · exact h.agrees other hother
      · rw [List.mem_singleton.mp hother]
        exact ⟨row, prev, hrow, hprev, hcrc, hname⟩

/-- The build records what it ingests. -/
theorem recorded_of_ingestAll (h : ingestAll messages = .ok entries) :
    Recorded messages entries := by
  refine foldlM_induction (motive := Recorded) ⟨fun hrow => ?_, List.forall_mem_nil _⟩ ?_ h
  · rw [AList.lookup_empty] at hrow
    cases hrow
  · intro done before item after _ hbefore hingest
    exact hbefore.ingest hingest

/-- Messages are accepted if no two definitions of one id are in conflict. -/
theorem exists_ingestAll_iff (hrows : ∀ msg ∈ messages, ∃ row, rowOf msg = .ok row) :
    (∃ entries, ingestAll messages = .ok entries) ↔ ¬ Conflicting messages := by
  constructor
  · rintro ⟨entries, hentries⟩ ⟨msg, hmsg, msg', hmsg', hid, hconflict⟩
    have hrecorded := recorded_of_ingestAll hentries
    obtain ⟨row, prev, hrow, hprev, hcrc, hname⟩ := hrecorded.agrees msg hmsg
    obtain ⟨row', prev', hrow', hprev', hcrc', hname'⟩ := hrecorded.agrees msg' hmsg'
    rw [hid, hprev'] at hprev
    cases hprev
    obtain ⟨hrowName, hrowCrc, -⟩ := rowOf_eq_ok_iff.mp hrow
    obtain ⟨hrowName', hrowCrc', -⟩ := rowOf_eq_ok_iff.mp hrow'
    rcases hconflict with hnames | hcrcs
    · exact hnames (by rw [← hrowName, ← hrowName', ← hname, ← hname'])
    · exact hcrcs (by rw [hrowCrc, hrowCrc', ← hcrc, ← hcrc'])
  · intro hconflict
    induction messages using List.reverseRecOn with
    | nil => exact ⟨∅, rfl⟩
    | append_singleton done msg ih =>
      have hdone : ∀ other ∈ done, other ∈ done ++ [msg] := fun other => List.mem_append_left _
      have hmsg : msg ∈ done ++ [msg] := by simp
      obtain ⟨entries, hentries⟩ := ih (fun other hother => hrows other (hdone other hother)) (by
        rintro ⟨first, hfirst, second, hsecond, hboth⟩
        exact hconflict ⟨first, hdone first hfirst, second, hdone second hsecond, hboth⟩)
      obtain ⟨row, hrow⟩ := hrows msg hmsg
      have hmerge : ∃ merged, mergeEntry msg.id row entries = .ok merged := by
        cases hprev : entries.lookup msg.id with
        | none => exact ⟨_, mergeEntry_eq_ok_iff.mpr (.inl ⟨hprev, rfl⟩)⟩
        | some prev =>
          obtain ⟨other, hother, hid, hother'⟩ := (recorded_of_ingestAll hentries).origin hprev
          obtain ⟨hname, hcrc, -⟩ := rowOf_eq_ok_iff.mp hrow
          obtain ⟨hname', hcrc', -⟩ := rowOf_eq_ok_iff.mp hother'
          have hagree : other.name = msg.name ∧ other.crcExtra = msg.crcExtra := by
            by_contra hdiffer
            refine hconflict ⟨other, hdone other hother, msg, hmsg, hid, ?_⟩
            rwa [not_and_or] at hdiffer
          refine ⟨entries, mergeEntry_eq_ok_iff.mpr (.inr ⟨prev, hprev, ?_, ?_, rfl⟩)⟩
          · rw [hcrc', hcrc] at hagree
            exact Except.ok.inj hagree.2
          · rw [hname', hname, hagree.1]
      obtain ⟨merged, hmerged⟩ := hmerge
      refine ⟨merged, foldlM_snoc_eq_ok.mpr ⟨entries, hentries, ?_⟩⟩
      exact ingestMessage_eq_ok_iff.mpr ⟨row, hrow, hmerged⟩

/-- Where the definitions of a message agree, its row is that of any of them. -/
theorem lookup_eq_some_iff_of_agree (hagree : OffsetsAgree messages)
    (hentries : ingestAll messages = .ok entries) :
    entries.lookup id = some row ↔ ∃ msg ∈ messages, msg.id = id ∧ rowOf msg = .ok row := by
  have hrecorded := recorded_of_ingestAll hentries
  refine ⟨hrecorded.origin, ?_⟩
  rintro ⟨msg, hmsg, rfl, hrow⟩
  obtain ⟨row', prev, hrow', hprev, hcrc, hname⟩ := hrecorded.agrees msg hmsg
  cases hrow.symm.trans hrow'
  obtain ⟨other, hother, hid, hother'⟩ := hrecorded.origin hprev
  obtain ⟨-, -, hoffsets⟩ := rowOf_eq_ok_iff.mp hrow
  obtain ⟨-, -, hoffsets'⟩ := rowOf_eq_ok_iff.mp hother'
  have hsame := hagree other hother msg hmsg hid
  rw [hoffsets, hoffsets', Except.ok.injEq, Prod.mk.injEq] at hsame
  rw [hprev, Option.some.injEq]
  exact MsgEntryGen.ext hname hcrc hsame.1 hsame.2

/-- Where the definitions of every message agree, their order does not matter. -/
theorem ingestAll_perm (hperm : messages.Perm messages')
    (hrows : ∀ msg ∈ messages, ∃ row, rowOf msg = .ok row) (hagree : OffsetsAgree messages)
    (hentries : ingestAll messages = .ok entries) :
    ∃ entries', ingestAll messages' = .ok entries' ∧
      ∀ id, entries'.lookup id = entries.lookup id := by
  have hrows' : ∀ msg ∈ messages', ∃ row, rowOf msg = .ok row :=
    fun msg hmsg => hrows msg (hperm.mem_iff.mpr hmsg)
  have hagree' : OffsetsAgree messages' := fun msg hmsg msg' hmsg' =>
    hagree msg (hperm.mem_iff.mpr hmsg) msg' (hperm.mem_iff.mpr hmsg')
  have hconflict : ¬ Conflicting messages := (exists_ingestAll_iff hrows).mp ⟨entries, hentries⟩
  have hconflict' : ¬ Conflicting messages' := by
    simpa only [Conflicting, hperm.mem_iff] using hconflict
  obtain ⟨entries', hentries'⟩ := (exists_ingestAll_iff hrows').mpr hconflict'
  refine ⟨entries', hentries', fun id => Option.ext fun row => ?_⟩
  rw [lookup_eq_some_iff_of_agree hagree' hentries', lookup_eq_some_iff_of_agree hagree hentries]
  simp only [hperm.mem_iff]

/-- The generated table is given by its rows. -/
theorem generate_congr (h : ∀ id, entries.lookup id = entries'.lookup id) :
    generate entries = generate entries' := by
  have hperm : entries.entries.Perm entries'.entries :=
    AList.toFinmap_eq.mp (Finmap.ext_lookup h)
  have hrows : (sortedRows entries).Perm (sortedRows entries') :=
    (sortedRows_perm entries).trans ((hperm.map toRow).trans (sortedRows_perm entries').symm)
  have hsame : sortedRows entries = sortedRows entries' := by
    refine hrows.eq_of_pairwise ?_ (pairwise_sortedRows entries) (pairwise_sortedRows entries')
    intro first second _ _ hlt hgt
    exact absurd (UInt32.lt_trans hlt hgt) (UInt32.lt_irrefl _)
  simp only [generate, hsame]

end Rows

/-- The table does not depend on the order of the messages, and definitions of one message that
would make different rows of the table are refused, if and only if some two definitions of one id
differ in name or `crc_extra`, so that no order is accepted, or all definitions of one id have the
same target offsets. -/
theorem dialect_order_iff {messages : List ParsedMessage}
    (hrows : ∀ msg ∈ messages, ∃ row, rowOf msg = .ok row) :
    ((∀ messages', messages.Perm messages' → ∀ entries, ingestAll messages = .ok entries →
        ∃ entries', ingestAll messages' = .ok entries' ∧ generate entries' = generate entries) ∧
      ∀ msg ∈ messages, ∀ msg' ∈ messages, msg.id = msg'.id → ∀ row row',
        rowOf msg = .ok row → rowOf msg' = .ok row' →
        (toRow ⟨msg.id, row⟩).2 ≠ (toRow ⟨msg'.id, row'⟩).2 →
          ∃ panic, ingestAll messages = .error panic) ↔
    Conflicting messages ∨ OffsetsAgree messages := by
  constructor
  · rintro ⟨-, hrejects⟩
    by_cases hconflict : Conflicting messages
    · exact .inl hconflict
    · refine .inr fun msg hmsg msg' hmsg' hid => ?_
      obtain ⟨entries, hentries⟩ := (exists_ingestAll_iff hrows).mpr hconflict
      obtain ⟨row, hrow⟩ := hrows msg hmsg
      obtain ⟨row', hrow'⟩ := hrows msg' hmsg'
      obtain ⟨-, -, hoffsets⟩ := rowOf_eq_ok_iff.mp hrow
      obtain ⟨-, -, hoffsets'⟩ := rowOf_eq_ok_iff.mp hrow'
      by_contra hdiffer
      obtain ⟨panic, hpanic⟩ := hrejects msg hmsg msg' hmsg' hid row row' hrow hrow' fun hsame => by
        obtain ⟨-, hsys, hcomp⟩ := MsgEntry.mk.inj hsame
        rw [hoffsets, hoffsets', hsys, hcomp] at hdiffer
        exact hdiffer rfl
      cases hentries.symm.trans hpanic
  · intro hcondition
    constructor
    · intro messages' hperm entries hentries
      have hconflict := (exists_ingestAll_iff hrows).mp ⟨entries, hentries⟩
      obtain ⟨entries', hentries', hlookup⟩ :=
        ingestAll_perm hperm hrows (hcondition.resolve_left hconflict) hentries
      exact ⟨entries', hentries', generate_congr hlookup⟩
    · intro msg hmsg msg' hmsg' hid row row' hrow hrow' hdiffer
      cases hentries : ingestAll messages with
      | error panic => exact ⟨panic, rfl⟩
      | ok entries =>
        have hconflict := (exists_ingestAll_iff hrows).mp ⟨entries, hentries⟩
        have hagree := hcondition.resolve_left hconflict
        have hfirst : entries.lookup msg'.id = some row :=
          (lookup_eq_some_iff_of_agree hagree hentries).mpr ⟨msg, hmsg, hid, hrow⟩
        have hsecond : entries.lookup msg'.id = some row' :=
          (lookup_eq_some_iff_of_agree hagree hentries).mpr ⟨msg', hmsg', rfl, hrow'⟩
        cases hfirst.symm.trans hsecond
        rw [hid] at hdiffer
        exact absurd rfl hdiffer

/-- The order of HEARTBEAT and PING does not matter. -/
theorem dialect_order_iff_heartbeat_ping :
    ∃ entries entries', ingestAll [heartbeat, ping] = .ok entries ∧
      ingestAll [ping, heartbeat] = .ok entries' ∧ generate entries' = generate entries := by
  have hrows : ∀ msg ∈ [heartbeat, ping], ∃ row, rowOf msg = .ok row := by
    refine List.forall_mem_cons.mpr ⟨⟨⟨"HEARTBEAT", 50, none, none⟩, by decide +kernel⟩, ?_⟩
    exact List.forall_mem_singleton.mpr ⟨⟨"PING", 237, some 12, some 13⟩, by decide +kernel⟩
  have hagree : OffsetsAgree [heartbeat, ping] := by
    unfold OffsetsAgree
    decide +kernel
  have hconflict : ¬ Conflicting [heartbeat, ping] := by
    unfold Conflicting
    decide +kernel
  obtain ⟨entries, hentries⟩ := (exists_ingestAll_iff hrows).mpr hconflict
  obtain ⟨entries', hentries', htable⟩ := ((dialect_order_iff hrows).mpr (.inr hagree)).1
    [ping, heartbeat] (List.Perm.swap _ _ _) entries hentries
  exact ⟨entries, entries', hentries, hentries', htable⟩

/-- The message of the documentation's example. -/
def exampleTargeted : ParsedMessage :=
  ⟨60000, "EXAMPLE_TARGETED", [⟨"target_system", "uint8_t", 0, false⟩,
    ⟨"target_component", "uint8_t", 0, false⟩, ⟨"command_arg", "uint32_t", 0, false⟩]⟩

/-- Another definition of the message, with a larger argument, that has the same `crc_extra`. -/
def examplePayload : ParsedMessage :=
  ⟨60000, "EXAMPLE_TARGETED", [⟨"target_system", "uint8_t", 0, false⟩,
    ⟨"target_component", "uint8_t", 0, false⟩, ⟨"payload", "uint64_t", 0, false⟩]⟩

/-- Both orders of the two definitions are accepted, and the first definition decides where the
router looks for the target. -/
theorem first_definition_wins :
    (buildTable [heartbeat, exampleTargeted, examplePayload]).map (fun table =>
        table.lookup 60000) = .ok (some ⟨36, some 4, some 5⟩) ∧
      (buildTable [heartbeat, examplePayload, exampleTargeted]).map (fun table =>
        table.lookup 60000) = .ok (some ⟨36, some 8, some 9⟩) := by
  decide +kernel

end MavlinkRouter.Build
