import MavlinkRouter.Config.Options

/-!
# Endpoint specifications

An endpoint is specified on the command line by a text `scheme:body#name?key=value&...`, in which
the name and the query may be missing. The body gives the address of the endpoint or the path of
its device.
-/

namespace MavlinkRouter

open Library (splitOnce rsplitOnce splitAll stripFirst toAsciiLowercase parseUnsigned)

/-- An endpoint of one of the kinds. -/
inductive EndpointKind where
  | serial (endpoint : SerialEndpoint)
  | udpServer (endpoint : UdpServerEndpoint)
  | udpClient (endpoint : UdpClientEndpoint)
  | tcpServer (endpoint : TcpServerEndpoint)
  | tcpClient (endpoint : TcpClientEndpoint)
  deriving DecidableEq, Repr

def EndpointKind.identity : EndpointKind → IdentityFlags
  | .serial endpoint => endpoint.identity
  | .udpServer endpoint => endpoint.identity
  | .udpClient endpoint => endpoint.identity
  | .tcpServer endpoint => endpoint.identity
  | .tcpClient endpoint => endpoint.identity

/-- The kind that an argument of the command line starts with. -/
def Scheme.fromCliPrefix (raw : String) : Except SpecError Scheme :=
  match tryFromStr raw with
  | some scheme => .ok scheme
  | none => .error (.unknownScheme raw)

structure EndpointSpec where
  kind : EndpointKind
  name : String
  deriving DecidableEq, Repr

/-- Split what follows the scheme. -/
def splitBodyNameQuery (rest : String) : String × Option String × Option String :=
  match splitOnce '#' rest with
  | some (body, afterHash) =>
    match splitOnce '?' afterHash with
    | some (name, query) => (body, some name, some query)
    | none => (body, some afterHash, none)
  | none =>
    match splitOnce '?' rest with
    | some (body, query) => (body, none, some query)
    | none => (rest, none, none)

def serialGrammar : String :=
  "expected 'serial:<path>:<baud>' or 'serial:<path>,<baud>', " ++
    "e.g. 'serial:/dev/ttyUSB0:115200'"

/-- An error about the body of a serial endpoint. -/
def malformedSerial {ρ : Type} (body reason : String) : Except SpecError ρ :=
  .error (.malformedBody .serial body (reason ++ " (" ++ serialGrammar ++ ")"))

/-- The path and the baud rate, with the last colon or comma between them. -/
def parseSerialBody (body : String) : Except SpecError (String × UInt32) :=
  if body.isEmpty then malformedSerial body "empty body"
  else
    match rsplitOnce (fun char => char = ':' || char = ',') body with
    | none => malformedSerial body "no ':' or ',' separator between path and baud"
    | some (path, baudStr) =>
      if path.isEmpty then malformedSerial body "empty device path"
      else
        match parseUnsigned (2 ^ 32) baudStr with
        | none => malformedSerial body ("baud '" ++ baudStr ++ "' is not a valid u32")
        | some baud =>
          if baud = 0 then malformedSerial body "baud must be > 0"
          else .ok (path, UInt32.ofNat baud)

def hostPortGrammar : Scheme → String
  | .udpServer =>
    "expected '<ip>:<port>', e.g. '0.0.0.0:14550' or '[::]:5760' " ++
      "(hostnames are not resolved for listen-side endpoints)"
  | .tcpServer =>
    "expected '<ip>:<port>', e.g. '0.0.0.0:14550' or '[::]:5760' " ++
      "(hostnames are not resolved for listen-side endpoints)"
  | .udpClient => "expected '<host>:<port>', e.g. '192.168.1.5:14550' or 'gcs.example:5760'"
  | .tcpClient => "expected '<host>:<port>', e.g. '192.168.1.5:14550' or 'gcs.example:5760'"
  | .serial => serialGrammar

/-- An error about a host and a port. -/
def malformedHostPort {ρ : Type} (scheme : Scheme) (body reason : String) : Except SpecError ρ :=
  .error (.malformedBody scheme body (reason ++ " (" ++ hostPortGrammar scheme ++ ")"))

/-- The texts of the host and of the port. A host with colons must be in brackets. -/
def splitHostPort (body : String) (scheme : Scheme) : Except SpecError (String × String) :=
  match stripFirst '[' body with
  | some rest =>
    match splitOnce ']' rest with
    | none => malformedHostPort scheme body "unclosed '[' in IPv6 literal"
    | some (host, after) =>
      match stripFirst ':' after with
      | none => malformedHostPort scheme body "expected ':<port>' after ']'"
      | some portStr => .ok (host, portStr)
  | none =>
    match rsplitOnce (fun char => char = ':') body with
    | none => malformedHostPort scheme body "no ':' between host and port"
    | some (host, portStr) =>
      if ':' ∈ host.toList then
        malformedHostPort scheme body ("unbracketed ':' in host '" ++ host ++
          "'; IPv6 literals must be bracketed, e.g. '[::1]:<port>'")
      else .ok (host, portStr)

def parseHostPort (body : String) (scheme : Scheme) : Except SpecError (String × UInt16) := do
  if body.isEmpty then malformedHostPort scheme body "empty body"
  else
    let (host, portStr) ← splitHostPort body scheme
    if host.isEmpty then malformedHostPort scheme body "empty host"
    else
      match parseUnsigned (2 ^ 16) portStr with
      | none => malformedHostPort scheme body ("port '" ++ portStr ++ "' is not a valid u16")
      | some port => return (host, UInt16.ofNat port)

/-- The address of a listener, whose host must be a literal address. -/
def parseListenAddr (externals : Externals) (body : String) (scheme : Scheme) :
    Except SpecError SocketAddr := do
  let (host, port) ← parseHostPort body scheme
  match externals.ipFromStr host with
  | some ip => return SocketAddr.new port ip
  | none =>
    throw (.malformedBody scheme body ("listen host '" ++ host ++
      "' must be an IP literal (e.g. '0.0.0.0', '[::]', '[::1]'); " ++
      "hostnames are not resolved for " ++ scheme.asStr ++ ": endpoints"))

def parseKind (externals : Externals) (scheme : Scheme) (body : String)
    (pairs : List (String × String)) : Except SpecError EndpointKind :=
  match scheme with
  | .serial => do
    let (path, baud) ← parseSerialBody body
    return .serial (← applyPairs externals scheme SerialEndpoint.set ⟨path, baud, .none, {}⟩ pairs)
  | .udpServer => do
    let bindAddr ← parseListenAddr externals body scheme
    return .udpServer
      (← applyPairs externals scheme UdpServerEndpoint.set ⟨bindAddr, none, {}⟩ pairs)
  | .udpClient => do
    let (host, port) ← parseHostPort body scheme
    return .udpClient
      (← applyPairs externals scheme UdpClientEndpoint.set ⟨host, port, none, {}⟩ pairs)
  | .tcpServer => do
    let bindAddr ← parseListenAddr externals body scheme
    return .tcpServer ⟨bindAddr, ← applyPairs externals scheme IdentityFlags.apply {} pairs⟩
  | .tcpClient => do
    let (host, port) ← parseHostPort body scheme
    return .tcpClient ⟨host, port, ← applyPairs externals scheme IdentityFlags.apply {} pairs⟩

/-- Characters that names may not have become underscores. -/
def sanitizeForName (text : String) : String :=
  .ofList (text.toList.map fun char =>
    if char.isAlphanum || char = '_' || char = '-' then char else '_')

/-- How an address is printed without its port. -/
def AddrFormat.ip (format : AddrFormat) : IpAddr → String
  | .v4 ip => format.ipv4 ip
  | .v6 ip => format.ipv6 ip

def SocketAddr.port : SocketAddr → UInt16
  | .v4 _ port => port
  | .v6 _ port _ _ => port

/-- The name of an endpoint for which none is given. -/
def EndpointKind.defaultName (externals : Externals) : EndpointKind → String
  | .serial endpoint =>
    "serial-" ++ sanitizeForName endpoint.path ++ "-" ++ toString endpoint.baud
  | .udpServer endpoint =>
    "udps-" ++ sanitizeForName (externals.format.ip endpoint.bindAddr.ip) ++ "-" ++
      toString endpoint.bindAddr.port
  | .udpClient endpoint =>
    "udpc-" ++ sanitizeForName endpoint.host ++ "-" ++ toString endpoint.port
  | .tcpServer endpoint =>
    "tcps-" ++ sanitizeForName (externals.format.ip endpoint.bindAddr.ip) ++ "-" ++
      toString endpoint.bindAddr.port
  | .tcpClient endpoint =>
    "tcpc-" ++ sanitizeForName endpoint.host ++ "-" ++ toString endpoint.port

namespace EndpointSpec

/-- The specification with the given parts. -/
def build (externals : Externals) (scheme : Scheme) (body : String)
    (explicitName : Option String) (pairs : List (String × String)) :
    Except SpecError EndpointSpec := do
  let kind ← parseKind externals scheme body pairs
  match explicitName with
  | some name =>
    validateName name
    return ⟨kind, name⟩
  | none => return ⟨kind, kind.defaultName externals⟩

/-- The specification that an argument of the command line gives. -/
def parse (externals : Externals) (input : String) : Except SpecError EndpointSpec :=
  match splitOnce ':' input with
  | none => .error (.missingScheme input)
  | some (schemeStr, rest) =>
    if schemeStr.isEmpty then .error (.missingScheme input)
    else do
      let (body, explicitName, queryStr) := splitBodyNameQuery rest
      if '?' ∈ body.toList then
        throw (.malformedQuery ("'?' must follow '#name' (got '" ++ body ++ "')"))
      else
        let pairs ← parseQueryPairs (queryStr.getD "")
        let scheme ← Scheme.fromCliPrefix schemeStr
        build externals scheme body explicitName pairs

end EndpointSpec

/-- The text of one pair of a query. -/
def pairText (pair : String × String) : String :=
  pair.1 ++ "=" ++ pair.2

/-- The text of the pairs of a query. -/
def pairsText (pairs : List (String × String)) : String :=
  "&".intercalate (pairs.map pairText)

/-- What follows the scheme of an argument. A query without pairs is left out. -/
def restText (body name : String) (pairs : List (String × String)) : String :=
  if pairs = [] then body ++ "#" ++ name else body ++ "#" ++ name ++ "?" ++ pairsText pairs

/-- The argument of the command line with the given parts. -/
def specText (scheme : Scheme) (body name : String) (pairs : List (String × String)) : String :=
  scheme.asStr ++ ":" ++ restText body name pairs

/-- A key that is read as it is written. -/
@[mk_iff]
structure IsQueryKey (key : String) : Prop where
  nonempty : key ≠ ""
  equals_not_mem : '=' ∉ key.toList
  ampersand_not_mem : '&' ∉ key.toList
  lowercase : toAsciiLowercase key = key

instance : DecidablePred IsQueryKey := fun key =>
  decidable_of_iff _ (isQueryKey_iff key).symm

section Reading

variable {out pairs : List (String × String)} {pair : String × String}

/-- A written pair is not empty. -/
theorem pairText_ne_empty (pair : String × String) : pairText pair ≠ "" := by
  simp [pairText]

private theorem pushPair_pairText (hkey : IsQueryKey pair.1) (hnew : pair.1 ∉ out.map Prod.fst) :
    pushPair out (pairText pair) = .ok (out ++ [pair]) := by
  have hsplit : splitOnce '=' (pairText pair) = some (pair.1, pair.2) :=
    Library.splitOnce_eq_some (by simp [pairText]) hkey.equals_not_mem
  rw [pushPair, if_neg (by simpa using pairText_ne_empty pair), hsplit]
  simp only [hkey.lowercase]
  rw [if_neg (by simpa using hkey.nonempty), if_neg hnew]

/-- Pairs with different keys are read one after the other. -/
theorem foldlM_pushPair (hkeys : ∀ pair ∈ pairs, IsQueryKey pair.1)
    (hnodup : ((out ++ pairs).map Prod.fst).Nodup) :
    (pairs.map pairText).foldlM pushPair out = .ok (out ++ pairs) := by
  induction pairs generalizing out with
  | nil =>
    rw [List.append_nil]
    rfl
  | cons pair pairs ih =>
    have hnew : pair.1 ∉ out.map Prod.fst := by
      rw [List.map_append, List.map_cons] at hnodup
      exact fun hmem => List.disjoint_of_nodup_append hnodup hmem List.mem_cons_self
    have hrest : (pairs.map pairText).foldlM pushPair (out ++ [pair]) =
        .ok (out ++ [pair] ++ pairs) := by
      refine ih (fun pair hpair => hkeys pair (.tail _ hpair)) ?_
      rwa [List.append_assoc]
    rw [List.map_cons, List.foldlM_cons, pushPair_pairText (hkeys pair (.head _)) hnew]
    rwa [List.append_assoc] at hrest

private theorem ampersand_not_mem_pairText (hkey : IsQueryKey pair.1)
    (hvalue : '&' ∉ pair.2.toList) : '&' ∉ (pairText pair).toList := by
  simp [pairText, hkey.ampersand_not_mem, hvalue]

/-- Reading a query gives back the pairs it has been put together from. -/
theorem parseQueryPairs_pairsText (hkeys : ∀ pair ∈ pairs, IsQueryKey pair.1)
    (hnodup : (pairs.map Prod.fst).Nodup) (hvalues : ∀ pair ∈ pairs, '&' ∉ pair.2.toList) :
    parseQueryPairs (pairsText pairs) = .ok pairs := by
  by_cases hnil : pairs = []
  · subst hnil
    rfl
  · have hsplit : splitAll '&' (pairsText pairs) = pairs.map pairText := by
      refine Library.splitAll_eq String.toList_intercalate (by simpa using hnil) ?_
      intro text htext
      obtain ⟨pair, hpair, rfl⟩ := List.mem_map.mp htext
      exact ampersand_not_mem_pairText (hkeys pair hpair) (hvalues pair hpair)
    have hne : pairsText pairs ≠ "" := by
      intro hempty
      obtain ⟨pair, rest, rfl⟩ := List.exists_cons_of_ne_nil hnil
      rw [hempty] at hsplit
      exact pairText_ne_empty pair (List.cons.inj hsplit).1.symm
    rw [parseQueryPairs, if_neg (by simpa using hne), hsplit]
    exact foldlM_pushPair hkeys hnodup

variable {scheme : Scheme} {body name : String}

private theorem colon_not_mem_asStr (scheme : Scheme) : ':' ∉ scheme.asStr.toList := by
  cases scheme <;> decide

private theorem asStr_ne_empty (scheme : Scheme) : scheme.asStr ≠ "" := by
  cases scheme <;> decide

private theorem fromCliPrefix_asStr (scheme : Scheme) :
    Scheme.fromCliPrefix scheme.asStr = .ok scheme := by
  cases scheme <;> rfl

/-- The body ends at the first hash and the name at the first question mark after it. -/
theorem splitBodyNameQuery_restText (hhash : '#' ∉ body.toList) (hname : '?' ∉ name.toList) :
    ∃ query, splitBodyNameQuery (restText body name pairs) = (body, some name, query) ∧
      query.getD "" = pairsText pairs := by
  by_cases hnil : pairs = []
  · have hbody : splitOnce '#' (restText body name pairs) = some (body, name) :=
      Library.splitOnce_eq_some (by simp [restText, hnil]) hhash
    refine ⟨none, ?_, by rw [hnil]; rfl⟩
    simp only [splitBodyNameQuery, hbody, Library.splitOnce_eq_none hname]
  · have hbody : splitOnce '#' (restText body name pairs) =
        some (body, name ++ "?" ++ pairsText pairs) :=
      Library.splitOnce_eq_some (by simp [restText, hnil]) hhash
    have hquery : splitOnce '?' (name ++ "?" ++ pairsText pairs) = some (name, pairsText pairs) :=
      Library.splitOnce_eq_some (by simp) hname
    refine ⟨some (pairsText pairs), ?_, rfl⟩
    simp only [splitBodyNameQuery, hbody, hquery]

/-- Parsing an argument finds the parts it has been put together from. -/
theorem EndpointSpec.parse_specText (externals : Externals) (hhash : '#' ∉ body.toList)
    (hmark : '?' ∉ body.toList) (hname : '?' ∉ name.toList)
    (hkeys : ∀ pair ∈ pairs, IsQueryKey pair.1) (hnodup : (pairs.map Prod.fst).Nodup)
    (hvalues : ∀ pair ∈ pairs, '&' ∉ pair.2.toList) :
    parse externals (specText scheme body name pairs) =
      build externals scheme body (some name) pairs := by
  have hscheme : splitOnce ':' (specText scheme body name pairs) =
      some (scheme.asStr, restText body name pairs) :=
    Library.splitOnce_eq_some (by simp [specText]) (colon_not_mem_asStr scheme)
  obtain ⟨query, hsplit, hquery⟩ := splitBodyNameQuery_restText hhash hname
  have hpairs : parseQueryPairs (query.getD "") = .ok pairs := by
    rw [hquery]
    exact parseQueryPairs_pairsText hkeys hnodup hvalues
  have hnonempty : ¬ scheme.asStr.isEmpty = true := by
    simpa using asStr_ne_empty scheme
  simp only [parse, hscheme, if_neg hnonempty, hsplit, if_neg hmark, hpairs,
    fromCliPrefix_asStr scheme]
  rfl

end Reading

end MavlinkRouter
