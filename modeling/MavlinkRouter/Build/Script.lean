import MavlinkRouter.Build.DialectOrder
import MavlinkRouter.Build.Includes
import MavlinkRouter.Build.Xml

/-!
# The build script

The script walks the includes of each dialect, ingests the messages of every file when it loads
it, and generates the table from all of them. A build that succeeds has a row for exactly the
messages of the files that can be reached from the dialects.
-/

namespace MavlinkRouter.Build

open Library (bind_eq_ok foldlM_append_of_ok forall₂_iff_map)
open Relation (ReflTransGen TransGen)

/-- The dialects that the router is built with. -/
def dialects : List String := ["common.xml", "ardupilotmega.xml"]

/-- The file system, with canonical paths as keys: the events of a file, the path of a file that
another one includes, and the paths of the dialects. -/
structure Files (K : Type*) where
  read : K → Except String (List XmlEvent)
  canonicalize : K → String → Except String K
  dialect : String → Except String K

/-- What the loader changes: the rows of the table. A panic ends the whole script. -/
structure Loading where
  entries : Entries
  panic : Option LoadPanic

/-- The ways in which the script may fail. -/
inductive ScriptPanic (K : Type*) where
  | dialectNotFound (dialect reason : String)
  | load (panic : LoadPanic)
  | cycle (path : K)
  | loadFailed (path : K) (reason : String)
  | table (panic : BuildPanic)

namespace Files

variable {K : Type*}

/-- Loading a file. The walk does not go on after a panic, so for the walk it is a file that could
not be loaded. -/
def load (files : Files K) : Loader K Loading := fun path loading =>
  match files.read path with
  | .error reason => (.error reason, loading)
  | .ok events =>
    match parseXml events with
    | .error panic => (.error "", { loading with panic := some panic })
    | .ok (includes, messages) =>
      match messages.foldlM ingestMessage loading.entries with
      | .error panic => (.error "", { loading with panic := some (.message panic) })
      | .ok entries => (includes.mapM (files.canonicalize path), { loading with entries })

variable [DecidableEq K]

/-- One dialect with all that it includes. -/
def walkDialect (files : Files K) (fuel : ℕ) (dialect : String) (entries : Entries) :
    Option (Except (ScriptPanic K) Entries) :=
  match files.dialect dialect with
  | .error reason => some (.error (.dialectNotFound dialect reason))
  | .ok root =>
    match walkIncludes files.load fuel root ⟨entries, none⟩ with
    | none => none
    | some (_, ⟨_, some panic⟩) => some (.error (.load panic))
    | some (.ok (), ⟨entries, none⟩) => some (.ok entries)
    | some (.error (.cycle path), _) => some (.error (.cycle path))
    | some (.error (.loadFailed path reason), _) => some (.error (.loadFailed path reason))

/-- Every dialect is walked anew, with the rows of those before it. -/
def walkDialects (files : Files K) (fuel : ℕ) : List String → Entries →
    Option (Except (ScriptPanic K) Entries)
  | [], entries => some (.ok entries)
  | dialect :: dialects, entries =>
    match files.walkDialect fuel dialect entries with
    | some (.ok entries) => files.walkDialects fuel dialects entries
    | stopped => stopped

end Files

/-- The script from beginning to end. -/
def main {K : Type*} [DecidableEq K] (files : Files K) (fuel : ℕ) :
    Option (Except (ScriptPanic K) MsgTable) :=
  match files.walkDialects fuel dialects ∅ with
  | none => none
  | some (.error panic) => some (.error panic)
  | some (.ok entries) => some ((writeTable entries).mapError .table)

namespace Files

variable {K : Type*} {files : Files K}

/-- What a file includes, whatever has been loaded before it. -/
def answer (files : Files K) (path : K) : Except String (List K) :=
  match files.read path with
  | .error reason => .error reason
  | .ok events =>
    match parseXml events with
    | .error _ => .error ""
    | .ok (includes, _) => includes.mapM (files.canonicalize path)

/-- The messages that a file defines. -/
def messages (files : Files K) (path : K) : List ParsedMessage :=
  match files.read path with
  | .error _ => []
  | .ok events =>
    match parseXml events with
    | .error _ => []
    | .ok (_, messages) => messages

/-- A well-formed file has the includes and the messages that it means to have. -/
theorem answer_messages_eq {path : K} {events : List XmlEvent} {includes : List String}
    {messages : List ParsedMessage} (hread : files.read path = .ok events)
    (hfile : DialectFile includes messages events) :
    files.answer path = includes.mapM (files.canonicalize path) ∧
      files.messages path = messages := by
  have hparse := parseXml_dialectFile hfile
  constructor
  · simp only [answer, hread, hparse]
  · simp only [Files.messages, hread, hparse]

/-- A file is loaded if it can be and if its messages agree with the rows that are there. -/
theorem load_eq_ok_iff {path : K} {loading after : Loading} {includes : List K} :
    files.load path loading = (.ok includes, after) ↔
      files.answer path = .ok includes ∧ after.panic = loading.panic ∧
        (files.messages path).foldlM ingestMessage loading.entries = .ok after.entries := by
  obtain ⟨entries, panic⟩ := loading
  obtain ⟨entries', panic'⟩ := after
  unfold load answer messages
  cases hread : files.read path with
  | error reason => simp
  | ok events =>
    dsimp only
    cases hparse : parseXml events with
    | error panic => simp
    | ok parsed =>
      obtain ⟨names, messages⟩ := parsed
      dsimp only
      cases hingest : messages.foldlM ingestMessage entries with
      | error panic => simp
      | ok merged =>
        rw [Prod.mk.injEq, Loading.mk.injEq, Except.ok.injEq, eq_comm (a := panic'),
          and_comm (a := merged = entries')]

/-- The messages of the files have been ingested, in this order. -/
def Ingested (files : Files K) (start : Entries) (calls : List K) (loading : Loading) : Prop :=
  (calls.flatMap files.messages).foldlM ingestMessage start = .ok loading.entries ∧
    loading.panic = none

private theorem ingested_snoc {start : Entries} {calls : List K} {path : K}
    {loading after : Loading} {includes : List K} (h : files.Ingested start calls loading) :
    files.load path loading = (.ok includes, after) ↔
      files.answer path = .ok includes ∧ files.Ingested start (calls ++ [path]) after := by
  rw [load_eq_ok_iff, Ingested, List.flatMap_append, List.flatMap_singleton,
    foldlM_append_of_ok h.1, h.2, and_comm (a := after.panic = none)]

private theorem follows_recording (files : Files K) (start : Entries) :
    Follows files.load (recording files.answer)
      (fun loading calls => files.Ingested start calls loading) (fun _ => True) where
  good_of_load := fun _ => trivial
  step := by
    intro path loading calls includes hingested _ hload
    exact (ingested_snoc hingested).mp (Prod.ext hload rfl)

/-- The other way round, the messages of all files have to be ingested without a panic. -/
theorem follows_load (files : Files K) (start : Entries) :
    Follows (recording files.answer) files.load (files.Ingested start)
      (fun calls => ∃ loading, files.Ingested start calls loading) where
  good_of_load := by
    rintro path calls ⟨loading, hingest, -⟩
    simp only [recording, List.flatMap_append, List.foldlM_append] at hingest
    obtain ⟨entries, hentries, -⟩ := bind_eq_ok.mp hingest
    exact ⟨⟨entries, none⟩, hentries, rfl⟩
  step := by
    rintro path calls loading includes hingested ⟨after, hafter⟩ hload
    have hloaded := (ingested_snoc hingested).mpr ⟨hload, hafter⟩
    rw [hloaded]
    exact ⟨rfl, hafter⟩

variable [DecidableEq K] {fuel : ℕ} {entries merged : Entries}

/-- The walk of the script loads the files in the order in which a walk without messages would, and
ingests their messages. -/
theorem walkIncludes_load_eq_ok_iff {root : K} {loading : Loading} :
    walkIncludes files.load fuel root ⟨entries, none⟩ = some (.ok (), loading) ↔
      ∃ calls, walkIncludes (recording files.answer) fuel root [] = some (.ok (), calls) ∧
        files.Ingested entries calls loading := by
  have hstart : files.Ingested entries [] ⟨entries, none⟩ := ⟨rfl, rfl⟩
  constructor
  · intro h
    exact (files.follows_recording entries).walkIncludes h trivial hstart
  · rintro ⟨calls, hwalk, hingested⟩
    obtain ⟨last, hlast, hsame⟩ :=
      (files.follows_load entries).walkIncludes hwalk ⟨loading, hingested⟩ hstart
    obtain ⟨rows, panic⟩ := loading
    obtain ⟨rows', panic'⟩ := last
    obtain rfl : rows = rows' := Except.ok.inj (hingested.1.symm.trans hsame.1)
    obtain rfl : panic = panic' := hingested.2.trans hsame.2.symm
    exact hlast

/-- The walk over a dialect ingests the messages in the order of the calls. -/
private theorem walkDialect_eq_ok_iff {dialect : String} :
    files.walkDialect fuel dialect entries = some (.ok merged) ↔
      ∃ root calls, files.dialect dialect = .ok root ∧
        walkIncludes (recording files.answer) fuel root [] = some (.ok (), calls) ∧
        (calls.flatMap files.messages).foldlM ingestMessage entries = .ok merged := by
  have hwalk : files.walkDialect fuel dialect entries = some (.ok merged) ↔
      ∃ root, files.dialect dialect = .ok root ∧
        walkIncludes files.load fuel root ⟨entries, none⟩ = some (.ok (), ⟨merged, none⟩) := by
    unfold walkDialect
    cases hdialect : files.dialect dialect with
    | error reason => simp
    | ok root =>
      dsimp only
      rcases hrun : walkIncludes files.load fuel root ⟨entries, none⟩ with
        _ | ⟨(path | ⟨path, reason⟩) | ⟨⟩, rows, _ | panic⟩ <;> simp [hrun]
  rw [hwalk]
  simp only [walkIncludes_load_eq_ok_iff, Ingested, and_true]
  constructor
  · rintro ⟨root, hroot, calls, hcalls, hingest⟩
    exact ⟨root, calls, hroot, hcalls, hingest⟩
  · rintro ⟨root, calls, hroot, hcalls, hingest⟩
    exact ⟨root, hroot, calls, hcalls, hingest⟩

/-- All dialects are ingested, each in the order of its own walk. -/
theorem walkDialects_eq_ok_iff {names : List String} :
    files.walkDialects fuel names entries = some (.ok merged) ↔
      ∃ orders, List.Forall₂ (fun name calls => ∃ root, files.dialect name = .ok root ∧
          walkIncludes (recording files.answer) fuel root [] = some (.ok (), calls)) names orders ∧
        (orders.flatten.flatMap files.messages).foldlM ingestMessage entries = .ok merged := by
  induction names generalizing entries with
  | nil =>
    constructor
    · intro h
      exact ⟨[], .nil, congrArg Except.ok (Except.ok.inj (Option.some.inj h))⟩
    · rintro ⟨orders, ⟨⟩, hingest⟩
      exact congrArg (some ∘ Except.ok) (Except.ok.inj hingest)
  | cons name names ih =>
    have hcons : files.walkDialects fuel (name :: names) entries = some (.ok merged) ↔
        ∃ rows, files.walkDialect fuel name entries = some (.ok rows) ∧
          files.walkDialects fuel names rows = some (.ok merged) := by
      rw [walkDialects]
      rcases files.walkDialect fuel name entries with _ | panic | rows <;> simp
    rw [hcons]
    constructor
    · rintro ⟨rows, hfirst, hrest⟩
      obtain ⟨root, calls, hroot, hwalk, hingest⟩ := walkDialect_eq_ok_iff.mp hfirst
      obtain ⟨orders, horders, hmerged⟩ := ih.mp hrest
      refine ⟨calls :: orders, .cons ⟨root, hroot, hwalk⟩ horders, ?_⟩
      rw [List.flatten_cons, List.flatMap_append, foldlM_append_of_ok hingest]
      exact hmerged
    · rintro ⟨orders, hall, hmerged⟩
      cases hall with
      | @cons _ calls _ orders hfirst horders =>
        obtain ⟨root, hroot, hwalk⟩ := hfirst
        rw [List.flatten_cons, List.flatMap_append, List.foldlM_append] at hmerged
        obtain ⟨rows, hrows, hmerged⟩ := bind_eq_ok.mp hmerged
        exact ⟨rows, walkDialect_eq_ok_iff.mpr ⟨root, calls, hroot, hwalk, hrows⟩,
          ih.mpr ⟨orders, horders, hmerged⟩⟩

end Files

section Clean

variable {K : Type*} {files : Files K}

/-- The file can be reached from a dialect. -/
def Reached (files : Files K) (path : K) : Prop :=
  ∃ name ∈ dialects, ∃ root, files.dialect name = .ok root ∧
    ReflTransGen (Includes files.answer) root path

/-- The dialects are there, and every file that can be reached can be loaded and lies on no cycle
of includes. -/
structure CleanFiles (files : Files K) : Prop where
  dialect : ∀ name ∈ dialects, ∃ root, files.dialect name = .ok root
  answer : ∀ path, Reached files path → ∃ includes, files.answer path = .ok includes
  acyclic : ∀ path, Reached files path → ¬ TransGen (Includes files.answer) path path

private theorem cleanFiles_iff : CleanFiles files ↔
    ∀ name ∈ dialects, ∃ root, files.dialect name = .ok root ∧ Clean files.answer root := by
  constructor
  · intro h name hname
    obtain ⟨root, hroot⟩ := h.dialect name hname
    refine ⟨root, hroot, fun path hpath => ?_⟩
    have hreached : Reached files path := ⟨name, hname, root, hroot, hpath⟩
    exact ⟨h.answer path hreached, h.acyclic path hreached⟩
  · intro h
    have hclean : ∀ path, Reached files path → (∃ includes, files.answer path = .ok includes) ∧
        ¬ TransGen (Includes files.answer) path path := by
      rintro path ⟨name, hname, root, hroot, hpath⟩
      obtain ⟨root', hroot', hclean⟩ := h name hname
      obtain rfl : root = root' := Except.ok.inj (hroot.symm.trans hroot')
      exact hclean path hpath
    refine ⟨fun name hname => ?_, fun path hpath => (hclean path hpath).1,
      fun path hpath => (hclean path hpath).2⟩
    obtain ⟨root, hroot, -⟩ := h name hname
    exact ⟨root, hroot⟩

end Clean

section Main

variable {K : Type*} [DecidableEq K] {files : Files K} {fuel : ℕ} {table : MsgTable}

/-- The build succeeds if every walk does and the rows agree. -/
private theorem main_eq_ok_iff : main files fuel = some (.ok table) ↔
    ∃ orders, List.Forall₂ (fun name calls => ∃ root, files.dialect name = .ok root ∧
        walkIncludes (recording files.answer) fuel root [] = some (.ok (), calls))
        dialects orders ∧
      buildTable (orders.flatten.flatMap files.messages) = .ok table := by
  have hmain : main files fuel = some (.ok table) ↔
      ∃ entries, files.walkDialects fuel dialects ∅ = some (.ok entries) ∧
        writeTable entries = .ok table := by
    unfold main
    rcases files.walkDialects fuel dialects ∅ with _ | panic | entries
    · simp
    · simp
    · cases hwrite : writeTable entries <;> simp [hwrite, Except.mapError]
  simp only [hmain, Files.walkDialects_eq_ok_iff, buildTable, bind_eq_ok, ingestAll]
  constructor
  · rintro ⟨entries, ⟨orders, horders, hingest⟩, htable⟩
    exact ⟨orders, horders, entries, hingest, htable⟩
  · rintro ⟨orders, horders, entries, hingest, htable⟩
    exact ⟨entries, ⟨orders, horders, hingest⟩, htable⟩

/-- The order in which the files of one dialect are loaded. -/
theorem exists_dialect_order (hfinite : {path | Reached files path}.Finite) (name : String)
    (hname : name ∈ dialects) :
    ∃ order : List K,
      (∀ root, files.dialect name = .ok root → Clean files.answer root →
        ∀ path, path ∈ order ↔ ReflTransGen (Includes files.answer) root path) ∧
      ∀ fuel, hfinite.toFinset.card < fuel → ∀ calls,
        (∃ root, files.dialect name = .ok root ∧
          walkIncludes (recording files.answer) fuel root [] = some (.ok (), calls)) ↔
        (∃ root, files.dialect name = .ok root ∧ Clean files.answer root) ∧ calls = order := by
  cases hdialect : files.dialect name with
  | error reason => exact ⟨[], by simp⟩
  | ok root =>
    have hsubset : {path | ReflTransGen (Includes files.answer) root path} ⊆
        {path | Reached files path} :=
      fun path hpath => ⟨name, hname, root, hdialect, hpath⟩
    have hcard : (hfinite.subset hsubset).toFinset.card ≤ hfinite.toFinset.card :=
      Finset.card_le_card (Set.Finite.toFinset_subset_toFinset.mpr hsubset)
    obtain ⟨order, horder, hwalk⟩ := exists_order (hfinite.subset hsubset)
    refine ⟨order, ?_, fun fuel hfuel calls => ?_⟩
    · rintro root' ⟨⟩ hclean
      exact horder hclean
    · simpa using hwalk fuel (hcard.trans_lt hfuel) calls

/-- The whole build. If only finitely many files can be reached, it succeeds if and only if the
files are clean and their messages, in a fixed order of the files, make a table. -/
theorem main_spec (hfinite : {path | Reached files path}.Finite) :
    ∃ order : List K, (CleanFiles files → ∀ path, path ∈ order ↔ Reached files path) ∧
      ∀ fuel, hfinite.toFinset.card < fuel → ∀ table,
        main files fuel = some (.ok table) ↔
          CleanFiles files ∧ buildTable (order.flatMap files.messages) = .ok table := by
  choose! order horder hwalk using exists_dialect_order hfinite
  refine ⟨(dialects.map order).flatten, fun hclean path => ?_, fun fuel hfuel table => ?_⟩
  · rw [List.mem_flatten]
    constructor
    · rintro ⟨calls, hcalls, hpath⟩
      obtain ⟨name, hname, rfl⟩ := List.mem_map.mp hcalls
      obtain ⟨root, hroot, hbelow⟩ := cleanFiles_iff.mp hclean name hname
      exact ⟨name, hname, root, hroot, (horder name hname root hroot hbelow path).mp hpath⟩
    · rintro ⟨name, hname, root, hroot, hpath⟩
      obtain ⟨root', hroot', hbelow⟩ := cleanFiles_iff.mp hclean name hname
      obtain rfl : root = root' := Except.ok.inj (hroot.symm.trans hroot')
      exact ⟨order name, List.mem_map_of_mem hname,
        (horder name hname root hroot hbelow path).mpr hpath⟩
  · have horders : ∀ {orders}, List.Forall₂ (fun name calls => ∃ root,
        files.dialect name = .ok root ∧
          walkIncludes (recording files.answer) fuel root [] = some (.ok (), calls))
        dialects orders ↔ CleanFiles files ∧ orders = dialects.map order := by
      intro orders
      rw [forall₂_iff_map fun name hname calls => hwalk name hname fuel hfuel calls, cleanFiles_iff]
    rw [main_eq_ok_iff]
    constructor
    · rintro ⟨orders, hall, htable⟩
      obtain ⟨hclean, rfl⟩ := horders.mp hall
      exact ⟨hclean, htable⟩
    · rintro ⟨hclean, htable⟩
      exact ⟨_, horders.mpr ⟨hclean, rfl⟩, htable⟩

/-- What a build that succeeds has recorded: the messages of the files that can be reached. -/
theorem recorded_main (hfinite : {path | Reached files path}.Finite)
    (hfuel : hfinite.toFinset.card < fuel) (h : main files fuel = some (.ok table)) :
    ∃ messages entries, (∀ msg, msg ∈ messages ↔
        ∃ path, Reached files path ∧ msg ∈ files.messages path) ∧
      Recorded messages entries ∧ table = generate entries := by
  obtain ⟨order, horder, hmain⟩ := main_spec hfinite
  obtain ⟨hclean, htable⟩ := (hmain fuel hfuel table).mp h
  obtain ⟨entries, hentries, hwrite⟩ := bind_eq_ok.mp htable
  have hgenerate := generate_of_writeTable hwrite
  refine ⟨_, entries, fun msg => ?_, recorded_of_ingestAll hentries, hgenerate.symm⟩
  simp only [List.mem_flatMap, horder hclean]

/-- The table has a row for exactly the messages of the files that can be reached. -/
theorem lookup_main_iff (hfinite : {path | Reached files path}.Finite)
    (hfuel : hfinite.toFinset.card < fuel) (h : main files fuel = some (.ok table)) (id : UInt32) :
    (∃ row, table.lookup id = some row) ↔
      ∃ path, Reached files path ∧ ∃ msg ∈ files.messages path, msg.id = id := by
  obtain ⟨messages, entries, hmessages, hrecorded, rfl⟩ := recorded_main hfinite hfuel h
  simp only [lookup_generate, Option.map_eq_some_iff]
  constructor
  · rintro ⟨_, row, hrow, -⟩
    obtain ⟨msg, hmsg, hid, -⟩ := hrecorded.origin hrow
    obtain ⟨path, hpath, hmem⟩ := (hmessages msg).mp hmsg
    exact ⟨path, hpath, msg, hmem, hid⟩
  · rintro ⟨path, hpath, msg, hmem, rfl⟩
    obtain ⟨-, prev, -, hprev, -⟩ := hrecorded.agrees msg ((hmessages msg).mpr ⟨path, hpath, hmem⟩)
    exact ⟨_, prev, hprev, rfl⟩

/-- The router checks the frames of a message with the `crc_extra` byte of any definition of it. -/
theorem crcExtra_main (hfinite : {path | Reached files path}.Finite)
    (hfuel : hfinite.toFinset.card < fuel) (h : main files fuel = some (.ok table)) {path : K}
    (hpath : Reached files path) {msg : ParsedMessage} (hmsg : msg ∈ files.messages path) :
    ∃ row, table.lookup msg.id = some row ∧
      msg.crcExtra = .ok row.crcExtra := by
  obtain ⟨messages, entries, hmessages, hrecorded, rfl⟩ := recorded_main hfinite hfuel h
  obtain ⟨row, prev, hrow, hprev, hcrc, -⟩ :=
    hrecorded.agrees msg ((hmessages msg).mpr ⟨path, hpath, hmsg⟩)
  obtain ⟨-, hcrcExtra, -⟩ := rowOf_eq_ok_iff.mp hrow
  refine ⟨(toRow ⟨msg.id, prev⟩).2, ?_, ?_⟩
  · rw [lookup_generate, hprev]
    rfl
  · rw [hcrcExtra, ← hcrc]
    rfl

end Main

end MavlinkRouter.Build
