import MavlinkRouter.Config.Spec
import MavlinkRouter.Library.Fallible

/-!
# The configuration

The configuration file and the command line each give some of the options and some of the
endpoints. What the command line gives takes precedence: an option replaces that of the file, and
an endpoint the whole endpoint of the same name.
-/

namespace MavlinkRouter

open Library (bind_eq_ok)

inductive LogLevel where
  | trace
  | debug
  | info
  | warn
  | error
  deriving DecidableEq, Repr

inductive LogFormat where
  | text
  | json
  deriving DecidableEq, Repr

/-- What one source gives. The file and the command line have the same options. -/
structure SourceConfig where
  logLevel : Option LogLevel := none
  logFormat : Option LogFormat := none
  stats : Option Bool := none
  statsIntervalSecs : Option UInt64 := none
  dedupMs : Option UInt64 := none
  skipConfigLog : Option Bool := none
  endpoints : List EndpointSpec := []

/-- What the configuration file gives. -/
abbrev TomlConfig := SourceConfig

/-- What the command line gives. -/
abbrev CliConfig := SourceConfig

def SourceConfig.hasValues (source : SourceConfig) : Bool :=
  source.logLevel.isSome || source.logFormat.isSome || source.stats.isSome ||
    source.statsIntervalSecs.isSome || source.dedupMs.isSome || source.skipConfigLog.isSome ||
    !source.endpoints.isEmpty

def defaultStatsIntervalSecs : UInt64 := 5
def minStatsIntervalSecs : UInt64 := 1
def defaultDedupMs : UInt64 := 0
def maxDedupMs : UInt64 := 10000

/-- The configuration the program runs with. -/
structure Config where
  logLevel : LogLevel
  logFormat : LogFormat
  stats : Bool
  statsIntervalSecs : UInt64
  dedupMs : UInt64
  skipConfigLog : Bool
  endpoints : List EndpointSpec
  merged : Bool

/-- What can be wrong with a configuration whose endpoints are well-formed. -/
inductive ConfigError where
  | duplicateName (name : String)
  | dedupMsTooLarge (requested max : UInt64)
  | statsIntervalTooSmall (requested min : UInt64)
  | filterReferencesUnknownEndpoint (endpointName axis referencedName : String)
  deriving DecidableEq, Repr

/-- The configuration and the names of the endpoints of the file that have been replaced. -/
structure MergeOutcome where
  config : Config
  overriddenNames : List String

/-- The endpoint names that the filter of an endpoint refers to, each with its list. -/
def Filters.srcEndpointOutEntries (filters : Filters) : List (String × String) :=
  filters.allowSrcEndpointOut.map (Prod.mk "allow_src_endpoint_out") ++
    filters.blockSrcEndpointOut.map (Prod.mk "block_src_endpoint_out")

def EndpointSpec.entries (endpoint : EndpointSpec) : List (String × String) :=
  endpoint.kind.identity.filters.srcEndpointOutEntries

/-- The first name that has been seen before is an error. -/
def checkUniqueNames.go (seen : List String) : List EndpointSpec → Except ConfigError Unit
  | [] => .ok ()
  | endpoint :: endpoints =>
    if endpoint.name ∈ seen then .error (.duplicateName endpoint.name)
    else go (endpoint.name :: seen) endpoints

def checkUniqueNames (endpoints : List EndpointSpec) : Except ConfigError Unit :=
  checkUniqueNames.go [] endpoints

/-- Keep an endpoint of the file, or report its name if the command line has it too. -/
def keepOrOverride (cliNames : List String) (kept : List EndpointSpec × List String)
    (endpoint : EndpointSpec) : List EndpointSpec × List String :=
  if endpoint.name ∈ cliNames then (kept.1, kept.2 ++ [endpoint.name])
  else (kept.1 ++ [endpoint], kept.2)

def mergeEndpoints (tomlEndpoints cliEndpoints : List EndpointSpec) :
    List EndpointSpec × List String :=
  let (endpoints, overriddenNames) :=
    tomlEndpoints.foldl (keepOrOverride (cliEndpoints.map EndpointSpec.name)) ([], [])
  (endpoints ++ cliEndpoints, overriddenNames)

/-- The first name a filter refers to that no endpoint has is an error. -/
def validateEndpointReferences (endpoints : List EndpointSpec) : Except ConfigError Unit :=
  endpoints.forM fun endpoint =>
    endpoint.entries.forM fun entry =>
      if entry.2 ∈ endpoints.map EndpointSpec.name then .ok ()
      else .error (.filterReferencesUnknownEndpoint endpoint.name entry.1 entry.2)

namespace Config

def validate (config : Config) : Except ConfigError Unit := do
  if config.dedupMs > maxDedupMs then
    throw (.dedupMsTooLarge config.dedupMs maxDedupMs)
  if config.statsIntervalSecs < minStatsIntervalSecs then
    throw (.statsIntervalTooSmall config.statsIntervalSecs minStatsIntervalSecs)
  checkUniqueNames config.endpoints
  validateEndpointReferences config.endpoints

/-- The options of both sources together with some endpoints. -/
def resolve (toml : TomlConfig) (cli : CliConfig) (endpoints : List EndpointSpec) : Config where
  logLevel := (cli.logLevel.or toml.logLevel).getD .info
  logFormat := (cli.logFormat.or toml.logFormat).getD .text
  stats := (cli.stats.or toml.stats).getD false
  statsIntervalSecs := (cli.statsIntervalSecs.or toml.statsIntervalSecs).getD
    defaultStatsIntervalSecs
  dedupMs := (cli.dedupMs.or toml.dedupMs).getD defaultDedupMs
  skipConfigLog := (cli.skipConfigLog.or toml.skipConfigLog).getD false
  endpoints := endpoints
  merged := toml.hasValues && cli.hasValues

def merge (toml : Option TomlConfig) (cli : CliConfig) : Except ConfigError MergeOutcome := do
  let toml := toml.getD {}
  checkUniqueNames toml.endpoints
  checkUniqueNames cli.endpoints
  let (endpoints, overriddenNames) := mergeEndpoints toml.endpoints cli.endpoints
  let config := resolve toml cli endpoints
  config.validate
  return ⟨config, overriddenNames⟩

end Config

section Passes

variable {endpoints tomlEndpoints cliEndpoints : List EndpointSpec} {seen cliNames : List String}

private theorem checkUniqueNames.go_eq_ok :
    go seen endpoints = .ok () ↔
      (endpoints.map EndpointSpec.name).Nodup ∧ ∀ endpoint ∈ endpoints, endpoint.name ∉ seen := by
  induction endpoints generalizing seen with
  | nil => exact iff_of_true rfl ⟨.nil, nofun⟩
  | cons endpoint endpoints ih =>
    rw [go, List.map_cons, List.nodup_cons, List.forall_mem_cons]
    by_cases hseen : endpoint.name ∈ seen
    · rw [if_pos hseen]
      exact iff_of_false nofun fun h => h.2.1 hseen
    · rw [if_neg hseen, ih]
      simp only [List.mem_cons, not_or, List.mem_map, not_exists, not_and]
      constructor
      · rintro ⟨hnodup, hnew⟩
        exact ⟨⟨fun other hother => (hnew other hother).1, hnodup⟩, hseen,
          fun other hother => (hnew other hother).2⟩
      · rintro ⟨⟨hfirst, hnodup⟩, -, hnew⟩
        exact ⟨hnodup, fun other hother => ⟨hfirst other hother, hnew other hother⟩⟩

/-- The check for unique names is exactly that. -/
theorem checkUniqueNames_eq_ok :
    checkUniqueNames endpoints = .ok () ↔ (endpoints.map EndpointSpec.name).Nodup := by
  rw [checkUniqueNames, checkUniqueNames.go_eq_ok]
  simp

/-- The references are valid if they are to endpoints of the list. -/
theorem validateEndpointReferences_eq_ok :
    validateEndpointReferences endpoints = .ok () ↔
      ∀ endpoint ∈ endpoints, ∀ entry ∈ endpoint.entries,
        entry.2 ∈ endpoints.map EndpointSpec.name := by
  rw [validateEndpointReferences, Library.forM_eq_ok]
  refine forall₂_congr fun endpoint _ => ?_
  rw [Library.forM_eq_ok]
  refine forall₂_congr fun entry _ => ?_
  split
  · rename_i hknown
    exact iff_of_true rfl hknown
  · rename_i hunknown
    exact iff_of_false nofun hunknown

/-- The endpoints of the file that the command line does not replace. -/
def keptEndpoints (cliNames : List String) (tomlEndpoints : List EndpointSpec) :
    List EndpointSpec :=
  tomlEndpoints.filter fun endpoint => endpoint.name ∉ cliNames

private theorem foldl_keepOrOverride {kept : List EndpointSpec × List String} :
    tomlEndpoints.foldl (keepOrOverride cliNames) kept =
      (kept.1 ++ keptEndpoints cliNames tomlEndpoints,
        kept.2 ++ (tomlEndpoints.map EndpointSpec.name).filter (· ∈ cliNames)) := by
  induction tomlEndpoints generalizing kept with
  | nil => simp [keptEndpoints]
  | cons endpoint tomlEndpoints ih =>
    rw [List.foldl_cons, ih]
    by_cases hname : endpoint.name ∈ cliNames
    · simp [keepOrOverride, keptEndpoints, hname]
    · simp [keepOrOverride, keptEndpoints, hname]

/-- The merged endpoints, and the names of the replaced ones. -/
theorem mergeEndpoints_eq :
    mergeEndpoints tomlEndpoints cliEndpoints =
      (keptEndpoints (cliEndpoints.map EndpointSpec.name) tomlEndpoints ++ cliEndpoints,
        (tomlEndpoints.map EndpointSpec.name).filter
          (· ∈ cliEndpoints.map EndpointSpec.name)) := by
  simp only [mergeEndpoints, foldl_keepOrOverride, List.nil_append]

/-- If the names of each source are unique, so are those of the merged endpoints. -/
theorem nodup_names_merged (htoml : (tomlEndpoints.map EndpointSpec.name).Nodup)
    (hcli : (cliEndpoints.map EndpointSpec.name).Nodup) :
    ((keptEndpoints (cliEndpoints.map EndpointSpec.name) tomlEndpoints ++
      cliEndpoints).map EndpointSpec.name).Nodup := by
  rw [List.map_append]
  refine (htoml.sublist (List.filter_sublist.map EndpointSpec.name)).append hcli ?_
  intro name hkept hmem
  obtain ⟨endpoint, hendpoint, rfl⟩ := List.mem_map.mp hkept
  exact of_decide_eq_true (List.mem_filter.mp hendpoint).2 hmem

end Passes

/-- An option has the value that the command line gives, or else that of the file, or else its
default. -/
def Precedence {ρ : Type} (cli toml : Option ρ) (default value : ρ) : Prop :=
  match cli, toml with
  | some given, _ => value = given
  | none, some given => value = given
  | none, none => value = default

/-- The merge prefers the command line to the file, and the file to the default. -/
theorem precedence_or {ρ : Type} (cli toml : Option ρ) (default : ρ) :
    Precedence cli toml default ((cli.or toml).getD default) := by
  cases cli with
  | none =>
    cases toml with
    | none => rfl
    | some given => rfl
  | some given => rfl

/-- The endpoints that both sources together give. -/
def SourceConfig.mergedEndpoints (toml : TomlConfig) (cli : CliConfig) : List EndpointSpec :=
  keptEndpoints (cli.endpoints.map EndpointSpec.name) toml.endpoints ++ cli.endpoints

/-- What the two sources must satisfy. -/
structure Mergeable (toml : TomlConfig) (cli : CliConfig) : Prop where
  toml_unique : (toml.endpoints.map EndpointSpec.name).Nodup
  cli_unique : (cli.endpoints.map EndpointSpec.name).Nodup
  dedupMs_le : ∀ value, Precedence cli.dedupMs toml.dedupMs defaultDedupMs value →
    value ≤ maxDedupMs
  statsIntervalSecs_ge : ∀ value,
    Precedence cli.statsIntervalSecs toml.statsIntervalSecs defaultStatsIntervalSecs value →
      minStatsIntervalSecs ≤ value
  references : ∀ endpoint ∈ toml.mergedEndpoints cli, ∀ name,
    name ∈ endpoint.kind.identity.filters.allowSrcEndpointOut ∨
      name ∈ endpoint.kind.identity.filters.blockSrcEndpointOut →
    name ∈ (toml.mergedEndpoints cli).map EndpointSpec.name

/-- What the two sources give together. -/
structure Merges (toml : TomlConfig) (cli : CliConfig) (outcome : MergeOutcome) : Prop where
  endpoints_eq : outcome.config.endpoints =
    toml.endpoints.filter (fun endpoint => endpoint.name ∉ cli.endpoints.map EndpointSpec.name) ++
      cli.endpoints
  names_nodup : (outcome.config.endpoints.map EndpointSpec.name).Nodup
  shared : ∀ fromToml ∈ toml.endpoints, ∀ fromCli ∈ cli.endpoints,
    fromToml.name = fromCli.name → ∀ endpoint,
      endpoint ∈ outcome.config.endpoints ∧ endpoint.name = fromCli.name ↔ endpoint = fromCli
  overriddenNames_eq : outcome.overriddenNames =
    (toml.endpoints.map EndpointSpec.name).filter (· ∈ cli.endpoints.map EndpointSpec.name)
  logLevel : Precedence cli.logLevel toml.logLevel .info outcome.config.logLevel
  logFormat : Precedence cli.logFormat toml.logFormat .text outcome.config.logFormat
  stats : Precedence cli.stats toml.stats false outcome.config.stats
  statsIntervalSecs : Precedence cli.statsIntervalSecs toml.statsIntervalSecs 5
    outcome.config.statsIntervalSecs
  dedupMs : Precedence cli.dedupMs toml.dedupMs 0 outcome.config.dedupMs
  skipConfigLog : Precedence cli.skipConfigLog toml.skipConfigLog false
    outcome.config.skipConfigLog

namespace Config

variable {config : Config} {toml : TomlConfig} {cli : CliConfig} {outcome : MergeOutcome}

/-- What a validated configuration satisfies. -/
private theorem validate_eq_ok :
    config.validate = .ok () ↔
      config.dedupMs ≤ maxDedupMs ∧ minStatsIntervalSecs ≤ config.statsIntervalSecs ∧
        (config.endpoints.map EndpointSpec.name).Nodup ∧
        validateEndpointReferences config.endpoints = .ok () := by
  unfold validate
  by_cases hdedup : config.dedupMs > maxDedupMs
  · rw [if_pos hdedup]
    exact iff_of_false nofun fun h => UInt64.not_le.mpr hdedup h.1
  · by_cases hinterval : config.statsIntervalSecs < minStatsIntervalSecs
    · rw [if_neg hdedup, if_pos hinterval]
      exact iff_of_false nofun fun h => UInt64.not_le.mpr hinterval h.2.1
    · rw [if_neg hdedup, if_neg hinterval, ← checkUniqueNames_eq_ok]
      constructor
      · intro h
        obtain ⟨⟨⟩, hnames, hreferences⟩ := bind_eq_ok.mp h
        exact ⟨UInt64.not_lt.mp hdedup, UInt64.not_lt.mp hinterval, hnames, hreferences⟩
      · rintro ⟨-, -, hnames, hreferences⟩
        exact bind_eq_ok.mpr ⟨(), hnames, hreferences⟩

/-- The names that the filter of an endpoint refers to. -/
theorem forall_mem_entries {endpoint : EndpointSpec} {motive : String → Prop} :
    (∀ entry ∈ endpoint.entries, motive entry.2) ↔
      ∀ name, name ∈ endpoint.kind.identity.filters.allowSrcEndpointOut ∨
        name ∈ endpoint.kind.identity.filters.blockSrcEndpointOut → motive name := by
  simp only [EndpointSpec.entries, Filters.srcEndpointOutEntries, List.mem_append, List.mem_map]
  constructor
  · rintro h name (hallow | hblock)
    · exact h _ (.inl ⟨name, hallow, rfl⟩)
    · exact h _ (.inr ⟨name, hblock, rfl⟩)
  · rintro h entry (⟨name, hallow, rfl⟩ | ⟨name, hblock, rfl⟩)
    · exact h name (.inl hallow)
    · exact h name (.inr hblock)

/-- The value of an option is determined by the sources. -/
theorem precedence_unique {ρ : Type} {cli toml : Option ρ} {default value : ρ}
    (h : Precedence cli toml default value) : value = (cli.or toml).getD default := by
  cases cli with
  | none =>
    cases toml with
    | none => exact h
    | some given => exact h
  | some given => exact h

private theorem forall_precedence {ρ : Type} {cli toml : Option ρ} {default : ρ}
    {motive : ρ → Prop} :
    (∀ value, Precedence cli toml default value → motive value) ↔
      motive ((cli.or toml).getD default) := by
  constructor
  · intro h
    exact h _ (precedence_or cli toml default)
  · intro h value hvalue
    rwa [precedence_unique hvalue]

private theorem validate_resolve_eq_ok :
    (resolve toml cli (toml.mergedEndpoints cli)).validate = .ok () ∧
        (toml.endpoints.map EndpointSpec.name).Nodup ∧
        (cli.endpoints.map EndpointSpec.name).Nodup ↔
      Mergeable toml cli := by
  rw [validate_eq_ok, validateEndpointReferences_eq_ok]
  constructor
  · rintro ⟨⟨hdedup, hinterval, -, hreferences⟩, htoml, hcli⟩
    exact ⟨htoml, hcli, forall_precedence.mpr hdedup, forall_precedence.mpr hinterval,
      fun endpoint hendpoint => forall_mem_entries.mp (hreferences endpoint hendpoint)⟩
  · rintro ⟨htoml, hcli, hdedup, hinterval, hreferences⟩
    refine ⟨⟨forall_precedence.mp hdedup, forall_precedence.mp hinterval,
      nodup_names_merged htoml hcli, ?_⟩, htoml, hcli⟩
    exact fun endpoint hendpoint => forall_mem_entries.mpr (hreferences endpoint hendpoint)

/-- When merging succeeds, and with what. -/
theorem merge_eq_ok {file : Option TomlConfig} (hfile : file.getD {} = toml) :
    merge file cli = .ok outcome ↔
      Mergeable toml cli ∧
        outcome = ⟨resolve toml cli (toml.mergedEndpoints cli),
          (toml.endpoints.map EndpointSpec.name).filter
            (· ∈ cli.endpoints.map EndpointSpec.name)⟩ := by
  rw [← validate_resolve_eq_ok, ← checkUniqueNames_eq_ok, ← checkUniqueNames_eq_ok]
  simp only [merge, hfile, mergeEndpoints_eq]
  constructor
  · intro h
    obtain ⟨⟨⟩, htoml, h⟩ := bind_eq_ok.mp h
    obtain ⟨⟨⟩, hcli, h⟩ := bind_eq_ok.mp h
    obtain ⟨⟨⟩, hvalid, h⟩ := bind_eq_ok.mp h
    cases h
    exact ⟨⟨hvalid, htoml, hcli⟩, rfl⟩
  · rintro ⟨⟨hvalid, htoml, hcli⟩, rfl⟩
    exact bind_eq_ok.mpr ⟨(), htoml, bind_eq_ok.mpr ⟨(), hcli, bind_eq_ok.mpr ⟨(), hvalid, rfl⟩⟩⟩

/-- In a list with unique names, an endpoint is determined by its name. -/
theorem eq_of_name_eq {endpoints : List EndpointSpec} {endpoint other : EndpointSpec}
    (hnodup : (endpoints.map EndpointSpec.name).Nodup) (hendpoint : endpoint ∈ endpoints)
    (hother : other ∈ endpoints) (hname : endpoint.name = other.name) : endpoint = other :=
  List.inj_on_of_nodup_map hnodup hendpoint hother hname

/-- Merging succeeds exactly if the names of each source are unique, the options within their
bounds and the filters refer to merged endpoints. Then an endpoint of the command line stands for
that of the file with the same name, and an option of the command line for that of the file. -/
theorem merge_correct (file : Option TomlConfig) (cli : CliConfig) :
    ((∃ outcome, merge file cli = .ok outcome) ↔ Mergeable (file.getD {}) cli) ∧
      ∀ outcome, merge file cli = .ok outcome → Merges (file.getD {}) cli outcome := by
  constructor
  · constructor
    · rintro ⟨outcome, h⟩
      exact ((merge_eq_ok rfl).mp h).1
    · intro h
      exact ⟨_, (merge_eq_ok rfl).mpr ⟨h, rfl⟩⟩
  · intro outcome h
    obtain ⟨hmergeable, rfl⟩ := (merge_eq_ok rfl).mp h
    have hnodup := nodup_names_merged hmergeable.toml_unique hmergeable.cli_unique
    refine ⟨rfl, hnodup, ?_, rfl, precedence_or _ _ _, precedence_or _ _ _, precedence_or _ _ _,
      precedence_or _ _ _, precedence_or _ _ _, precedence_or _ _ _⟩
    intro fromToml htoml fromCli hcli hshared endpoint
    have hmem := List.mem_append_right
      (keptEndpoints (cli.endpoints.map EndpointSpec.name) (file.getD {}).endpoints) hcli
    constructor
    · rintro ⟨hendpoint, hname⟩
      exact eq_of_name_eq hnodup hendpoint hmem hname
    · rintro rfl
      exact ⟨hmem, rfl⟩

/-- A client of the file that the command line replaces, and options from both sources. -/
theorem merge_correct_override :
    let kept : EndpointSpec := ⟨.tcpClient ⟨"ground", 5760, {}⟩, "gcs"⟩
    let replaced : EndpointSpec := ⟨.tcpClient ⟨"old", 5760, { sniffer := true }⟩, "fc"⟩
    let replacing : EndpointSpec :=
      ⟨.serial ⟨"/dev/ttyUSB0", 57600, .none,
        { filters := { allowSrcEndpointOut := ["gcs"] } }⟩, "fc"⟩
    let file : TomlConfig := { endpoints := [kept, replaced], dedupMs := some 100 }
    let cli : CliConfig := { endpoints := [replacing], dedupMs := some 200, stats := some true }
    ∃ outcome, merge (some file) cli = .ok outcome ∧ Merges file cli outcome ∧
      outcome.config.endpoints = [kept, replacing] ∧ outcome.overriddenNames = ["fc"] ∧
      outcome.config.dedupMs = 200 := by
  intro kept replaced replacing file cli
  refine ⟨_, rfl, (merge_correct (some file) cli).2 _ rfl, ?_, ?_, rfl⟩
  · decide +kernel
  · decide +kernel

end Config

end MavlinkRouter
