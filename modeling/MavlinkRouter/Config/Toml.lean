import MavlinkRouter.Config.Spec

/-!
# Endpoints of the configuration file

The configuration file has a table for each endpoint, with a field for each part of the address
and for each option. An entry is put into the form of an argument of the command line and then
read like one, so that both mean the same.
-/

namespace MavlinkRouter

/-- A table of the configuration file that describes an endpoint. -/
structure TomlEndpoint where
  scheme : String
  path : Option String := none
  baud : Option UInt32 := none
  flowControl : Option String := none
  bind : Option String := none
  host : Option String := none
  port : Option UInt16 := none
  idleSecs : Option UInt64 := none
  latchIdleSecs : Option UInt64 := none
  sniffer : Option Bool := none
  group : Option String := none
  allowMsgidIn : Option String := none
  blockMsgidIn : Option String := none
  allowMsgidOut : Option String := none
  blockMsgidOut : Option String := none
  allowSrcSysIn : Option String := none
  blockSrcSysIn : Option String := none
  allowSrcSysOut : Option String := none
  blockSrcSysOut : Option String := none
  allowSrcCompIn : Option String := none
  blockSrcCompIn : Option String := none
  allowSrcCompOut : Option String := none
  blockSrcCompOut : Option String := none
  allowSrcEndpointOut : Option String := none
  blockSrcEndpointOut : Option String := none

/-- What can be wrong with an entry: its fields, or the specification they give. -/
inductive TomlError where
  | configSchema (name reason : String)
  | specInToml (name : String) (source : SpecError)
  deriving DecidableEq, Repr

/-- A field that an entry of some type needs is not set. -/
def missing (name : String) (scheme : Scheme) (field : String) : TomlError :=
  .configSchema name ("type '" ++ scheme.asStr ++ "' requires field '" ++ field ++ "'")

def schemeFromTomlType (raw name : String) : Except TomlError Scheme :=
  match Scheme.tryFromStr raw with
  | some scheme => .ok scheme
  | none =>
    .error (.configSchema name
      ("unknown endpoint type '" ++ raw ++ "' (valid: serial, udps, udpc, tcps, tcpc)"))

/-- The fields that only entries of some types have, for one type. -/
def allowedFields : Scheme → List String
  | .serial => ["path", "baud", "flow_control"]
  | .udpServer => ["bind", "idle_secs"]
  | .tcpServer => ["bind"]
  | .udpClient => ["host", "port", "latch_idle_secs"]
  | .tcpClient => ["host", "port"]

namespace TomlEndpoint

/-- Which of the fields that only entries of some types have are set. -/
def provided (entry : TomlEndpoint) : List (String × Bool) :=
  [("path", entry.path.isSome),
    ("baud", entry.baud.isSome),
    ("flow_control", entry.flowControl.isSome),
    ("bind", entry.bind.isSome),
    ("host", entry.host.isSome),
    ("port", entry.port.isSome),
    ("idle_secs", entry.idleSecs.isSome),
    ("latch_idle_secs", entry.latchIdleSecs.isSome)]

/-- The first field that is set and not allowed is an error. -/
def rejectDisallowedFields (entry : TomlEndpoint) (name : String) (scheme : Scheme) :
    Except TomlError Unit :=
  match entry.provided.find? fun field => field.2 && field.1 ∉ allowedFields scheme with
  | none => .ok ()
  | some (field, _) =>
    .error (.configSchema name
      ("field '" ++ field ++ "' is not valid for type '" ++ scheme.asStr ++
        "' (allowed fields: " ++ ", ".intercalate (allowedFields scheme) ++ ")"))

/-- A field that must be set. -/
def require {ρ : Type} (name : String) (scheme : Scheme) (field : String) (value : Option ρ) :
    Except TomlError ρ :=
  match value with
  | some value => .ok value
  | none => .error (missing name scheme field)

/-- The address as one text. A host with colons is put into brackets. -/
def synthesizeBody (entry : TomlEndpoint) (name : String) (scheme : Scheme) :
    Except TomlError String :=
  match scheme with
  | .serial => do
    let path ← require name scheme "path" entry.path
    let baud ← require name scheme "baud" entry.baud
    return path ++ ":" ++ toString baud
  | .udpServer => require name scheme "bind" entry.bind
  | .tcpServer => require name scheme "bind" entry.bind
  | .udpClient => synthesizeHostPort
  | .tcpClient => synthesizeHostPort
where
  synthesizeHostPort : Except TomlError String := do
    let host ← require name scheme "host" entry.host
    let port ← require name scheme "port" entry.port
    if ':' ∈ host.toList then return "[" ++ host ++ "]:" ++ toString port
    else return host ++ ":" ++ toString port

/-- The options under their keys, set or not. -/
def options (entry : TomlEndpoint) : List (String × Option String) :=
  [("flow_control", entry.flowControl),
    ("idle_secs", entry.idleSecs.map toString),
    ("latch_idle_secs", entry.latchIdleSecs.map toString),
    ("sniffer", entry.sniffer.map toString),
    ("group", entry.group),
    ("allow_msgid_in", entry.allowMsgidIn),
    ("block_msgid_in", entry.blockMsgidIn),
    ("allow_msgid_out", entry.allowMsgidOut),
    ("block_msgid_out", entry.blockMsgidOut),
    ("allow_src_sys_in", entry.allowSrcSysIn),
    ("block_src_sys_in", entry.blockSrcSysIn),
    ("allow_src_sys_out", entry.allowSrcSysOut),
    ("block_src_sys_out", entry.blockSrcSysOut),
    ("allow_src_comp_in", entry.allowSrcCompIn),
    ("block_src_comp_in", entry.blockSrcCompIn),
    ("allow_src_comp_out", entry.allowSrcCompOut),
    ("block_src_comp_out", entry.blockSrcCompOut),
    ("allow_src_endpoint_out", entry.allowSrcEndpointOut),
    ("block_src_endpoint_out", entry.blockSrcEndpointOut)]

/-- The pairs of the options that are set. -/
def setOptions (options : List (String × Option String)) : List (String × String) :=
  options.filterMap fun option => option.2.map fun value => (option.1, value)

def collectPairs (entry : TomlEndpoint) : List (String × String) :=
  setOptions entry.options

/-- The specification that an entry with some name gives. -/
def intoSpec (externals : Externals) (entry : TomlEndpoint) (name : String) :
    Except TomlError EndpointSpec := do
  let scheme ← schemeFromTomlType entry.scheme name
  entry.rejectDisallowedFields name scheme
  let body ← entry.synthesizeBody name scheme
  (EndpointSpec.build externals scheme body (some name) entry.collectPairs).mapError
    (.specInToml name)

variable {entry : TomlEndpoint} {scheme : Scheme} {body name : String}

/-- The keys of the options, in the order in which they are collected. -/
def optionKeys : List String :=
  ["flow_control", "idle_secs", "latch_idle_secs", "sniffer", "group",
    "allow_msgid_in", "block_msgid_in", "allow_msgid_out", "block_msgid_out",
    "allow_src_sys_in", "block_src_sys_in", "allow_src_sys_out", "block_src_sys_out",
    "allow_src_comp_in", "block_src_comp_in", "allow_src_comp_out", "block_src_comp_out",
    "allow_src_endpoint_out", "block_src_endpoint_out"]

private theorem keys_setOptions_sublist (options : List (String × Option String)) :
    ((setOptions options).map Prod.fst).Sublist (options.map Prod.fst) := by
  induction options with
  | nil => exact .slnil
  | cons option options ih =>
    obtain ⟨key, value⟩ := option
    cases value with
    | none => exact ih.cons key
    | some value => exact ih.cons_cons key

/-- The keys of the pairs are keys of options, in the same order. -/
theorem keys_collectPairs_sublist (entry : TomlEndpoint) :
    (entry.collectPairs.map Prod.fst).Sublist optionKeys :=
  keys_setOptions_sublist entry.options

/-- The keys of an entry's pairs can be written in a query. -/
theorem isQueryKey_of_mem_collectPairs {pair : String × String}
    (hpair : pair ∈ entry.collectPairs) : IsQueryKey pair.1 := by
  have hkeys : ∀ key ∈ optionKeys, IsQueryKey key := by decide +kernel
  exact hkeys _ ((keys_collectPairs_sublist entry).subset (List.mem_map_of_mem hpair))

/-- No key occurs twice. -/
theorem nodup_keys_collectPairs (entry : TomlEndpoint) :
    (entry.collectPairs.map Prod.fst).Nodup :=
  (keys_collectPairs_sublist entry).nodup (by decide +kernel)

private theorem rejectDisallowedFields_eq_ok
    (hallowed : ∀ field ∈ entry.provided, field.2 = true → field.1 ∈ allowedFields scheme) :
    entry.rejectDisallowedFields name scheme = .ok () := by
  have hnone : entry.provided.find?
      (fun field => field.2 && field.1 ∉ allowedFields scheme) = none := by
    refine List.find?_eq_none.mpr fun field hfield hset => ?_
    rw [Bool.and_eq_true, decide_eq_true_eq] at hset
    exact hset.2 (hallowed field hfield hset.1)
  rw [rejectDisallowedFields, hnone]

/-- An entry whose fields fit its type gives what can be built from its body and its pairs. -/
theorem intoSpec_eq (externals : Externals) (hscheme : Scheme.tryFromStr entry.scheme = some scheme)
    (hallowed : ∀ field ∈ entry.provided, field.2 = true → field.1 ∈ allowedFields scheme)
    (hbody : entry.synthesizeBody name scheme = .ok body) :
    entry.intoSpec externals name =
      (EndpointSpec.build externals scheme body (some name) entry.collectPairs).mapError
        (.specInToml name) := by
  have htype : schemeFromTomlType entry.scheme name = .ok scheme := by
    rw [schemeFromTomlType, hscheme]
  have hfields : entry.rejectDisallowedFields name scheme = .ok () :=
    rejectDisallowedFields_eq_ok hallowed
  simp only [intoSpec, htype, hfields, hbody, Bind.bind, Except.bind]

/-- The configuration file and the command line agree: an entry whose fields fit its type, and the
argument with the same parts, both fail or give the same specification, as long as the parts do
not contain the characters that end them in an argument. -/
theorem intoSpec_agrees_parse (externals : Externals)
    (hscheme : Scheme.tryFromStr entry.scheme = some scheme)
    (hallowed : ∀ field ∈ entry.provided, field.2 = true → field.1 ∈ allowedFields scheme)
    (hbody : entry.synthesizeBody name scheme = .ok body)
    (hhash : '#' ∉ body.toList) (hmark : '?' ∉ body.toList) (hname : '?' ∉ name.toList)
    (hvalues : ∀ pair ∈ entry.collectPairs, '&' ∉ pair.2.toList) :
    (entry.intoSpec externals name).toOption =
      (EndpointSpec.parse externals (specText scheme body name entry.collectPairs)).toOption := by
  have hkeys : ∀ pair ∈ entry.collectPairs, IsQueryKey pair.1 :=
    fun _ hpair => isQueryKey_of_mem_collectPairs hpair
  rw [intoSpec_eq externals hscheme hallowed hbody,
    EndpointSpec.parse_specText externals hhash hmark hname hkeys (nodup_keys_collectPairs entry)
      hvalues]
  cases EndpointSpec.build externals scheme body (some name) entry.collectPairs with
  | error error => rfl
  | ok spec => rfl

/-- A client whose host is an IPv6 literal, with three options. -/
theorem intoSpec_agrees_parse_client :
    let externals : Externals := ⟨fun _ => none, ⟨fun _ => "", fun _ => ""⟩, fun _ _ => 0⟩
    let entry : TomlEndpoint :=
      { scheme := "udpc", host := some "::1", port := some 14550, latchIdleSecs := some 30,
        group := some "ground", allowMsgidOut := some "0,30-33" }
    (entry.intoSpec externals "gcs").toOption =
        (EndpointSpec.parse externals
          "udpc:[::1]:14550#gcs?latch_idle_secs=30&group=ground&allow_msgid_out=0,30-33").toOption ∧
      (entry.intoSpec externals "gcs").toOption.isSome = true := by
  intro externals entry
  have htext : specText .udpClient "[::1]:14550" "gcs" entry.collectPairs =
      "udpc:[::1]:14550#gcs?latch_idle_secs=30&group=ground&allow_msgid_out=0,30-33" := by
    decide +kernel
  rw [← htext]
  exact ⟨intoSpec_agrees_parse externals rfl (by decide +kernel) (by decide +kernel)
    (by decide +kernel) (by decide +kernel) (by decide +kernel) (by decide +kernel),
    by decide +kernel⟩

end TomlEndpoint

end MavlinkRouter
