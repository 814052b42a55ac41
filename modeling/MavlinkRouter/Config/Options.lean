import MavlinkRouter.Endpoint.Address
import MavlinkRouter.Endpoint.Ports
import MavlinkRouter.Library.Text

/-!
# Options

The options of an endpoint, given as pairs of a key and a value: the filters and the other
policies that all kinds of endpoints share, and the options of single kinds. The pairs are applied
one after the other, and the first one that cannot be applied is reported.
-/

namespace MavlinkRouter

open Library (splitOnce splitAll trim toAsciiLowercase parseUnsigned)

/-- The kinds of endpoints. -/
inductive Scheme where
  | serial
  | udpServer
  | udpClient
  | tcpServer
  | tcpClient
  deriving DecidableEq, Repr

namespace Scheme

def asStr : Scheme → String
  | .serial => "serial"
  | .udpServer => "udps"
  | .udpClient => "udpc"
  | .tcpServer => "tcps"
  | .tcpClient => "tcpc"

def tryFromStr : String → Option Scheme
  | "serial" => some .serial
  | "udps" => some .udpServer
  | "udpc" => some .udpClient
  | "tcps" => some .tcpServer
  | "tcpc" => some .tcpClient
  | _ => none

end Scheme

/-- What can be wrong with the specification of an endpoint. -/
inductive SpecError where
  | missingScheme (input : String)
  | unknownScheme (scheme : String)
  | invalidName (name : String)
  | unknownQueryKey (scheme : Scheme) (key : String) (suggestion : Option String)
  | malformedQuery (reason : String)
  | duplicateQueryKey (key : String)
  | malformedBody (scheme : Scheme) (body reason : String)
  | invalidQueryValue (key reason : String)
  deriving DecidableEq, Repr

/-- Functions of other libraries: how addresses are read and printed, and how far apart two texts
are. -/
structure Externals where
  ipFromStr : String → Option IpAddr
  format : AddrFormat
  levenshtein : String → String → ℕ

/-- Names of endpoints and groups match `[A-Za-z0-9_-]+`. -/
def nameMatchesRegex (name : String) : Bool :=
  !name.isEmpty && name.toList.all fun char => char.isAlphanum || char = '_' || char = '-'

def validateName (name : String) : Except SpecError Unit :=
  if nameMatchesRegex name then .ok () else .error (.invalidName name)

def validateNameValue (value key : String) : Except SpecError Unit :=
  if nameMatchesRegex value then .ok ()
  else .error (.invalidQueryValue key ("'" ++ value ++ "': must match [A-Za-z0-9_-]+"))

/-- A number, or two numbers joined by a hyphen. -/
def parseRangePairU32 (item key : String) : Except SpecError (ℕ × ℕ) := do
  let range ← match splitOnce '-' item with
    | some (loText, hiText) =>
      match parseUnsigned (2 ^ 32) (trim loText) with
      | none =>
        throw (.invalidQueryValue key
          ("range lower bound '" ++ loText ++ "' is not a decimal integer"))
      | some lo =>
        match parseUnsigned (2 ^ 32) (trim hiText) with
        | none =>
          throw (.invalidQueryValue key
            ("range upper bound '" ++ hiText ++ "' is not a decimal integer"))
        | some hi => pure (lo, hi)
    | none =>
      match parseUnsigned (2 ^ 32) item with
      | none =>
        throw (.invalidQueryValue key
          ("'" ++ item ++ "' is not a decimal integer or 'lo-hi' range"))
      | some value => pure (value, value)
  if range.1 > range.2 then
    throw (.invalidQueryValue key
      ("range " ++ toString range.1 ++ "-" ++ toString range.2 ++ " has lo > hi"))
  else return range

/-- A list of items separated by commas, none of them empty. -/
def parseList {ρ : Type} (parseItem : String → Except SpecError ρ) (value key : String) :
    Except SpecError (List ρ) :=
  (splitAll ',' value).mapM fun item =>
    if (trim item).isEmpty then
      .error (.invalidQueryValue key ("empty entry in '" ++ value ++ "'"))
    else parseItem (trim item)

def toMsgIdRange (range : ℕ × ℕ) : MsgIdRange :=
  ⟨UInt32.ofNat range.1, UInt32.ofNat range.2⟩

def toU8Range (range : ℕ × ℕ) : U8Range :=
  ⟨UInt8.ofNat range.1, UInt8.ofNat range.2⟩

def parseMsgidRanges (value key : String) : Except SpecError (List MsgIdRange) :=
  parseList (fun item => (parseRangePairU32 item key).map toMsgIdRange) value key

/-- One item of `parse_u8_ranges`. -/
def parseU8Range (key item : String) : Except SpecError U8Range := do
  let range ← parseRangePairU32 item key
  if range.1 > 255 ∨ range.2 > 255 then
    throw (.invalidQueryValue key ("value out of u8 range in '" ++ item ++ "'"))
  else return toU8Range range

def parseU8Ranges (value key : String) : Except SpecError (List U8Range) :=
  parseList (parseU8Range key) value key

def parseEndpointNameList (value key : String) : Except SpecError (List String) :=
  parseList (fun item => (validateNameValue item key).map fun _ => item) value key

namespace Filters

/-- The keys of the filter lists. -/
def keys : List String :=
  ["allow_msgid_in", "allow_msgid_out", "allow_src_comp_in",
    "allow_src_comp_out", "allow_src_endpoint_out", "allow_src_sys_in",
    "allow_src_sys_out", "block_msgid_in", "block_msgid_out",
    "block_src_comp_in", "block_src_comp_out", "block_src_endpoint_out",
    "block_src_sys_in", "block_src_sys_out"]

/-- What a parser has read is assigned, unless the parser has failed. -/
def assign {ρ : Type} (filters : Filters) (parsed : Except SpecError ρ) (set : ρ → Filters) :
    Except SpecError Bool × Filters :=
  match parsed with
  | .ok list => (.ok true, set list)
  | .error error => (.error error, filters)

/-- `Filters::apply`: what it returns, and the filters it leaves. -/
def applyMut (filters : Filters) (key value : String) : Except SpecError Bool × Filters :=
  match key with
  | "allow_msgid_in" =>
    filters.assign (parseMsgidRanges value key) fun list => { filters with allowMsgidIn := list }
  | "block_msgid_in" =>
    filters.assign (parseMsgidRanges value key) fun list => { filters with blockMsgidIn := list }
  | "allow_msgid_out" =>
    filters.assign (parseMsgidRanges value key) fun list => { filters with allowMsgidOut := list }
  | "block_msgid_out" =>
    filters.assign (parseMsgidRanges value key) fun list => { filters with blockMsgidOut := list }
  | "allow_src_sys_in" =>
    filters.assign (parseU8Ranges value key) fun list => { filters with allowSrcSysIn := list }
  | "block_src_sys_in" =>
    filters.assign (parseU8Ranges value key) fun list => { filters with blockSrcSysIn := list }
  | "allow_src_sys_out" =>
    filters.assign (parseU8Ranges value key) fun list => { filters with allowSrcSysOut := list }
  | "block_src_sys_out" =>
    filters.assign (parseU8Ranges value key) fun list => { filters with blockSrcSysOut := list }
  | "allow_src_comp_in" =>
    filters.assign (parseU8Ranges value key) fun list => { filters with allowSrcCompIn := list }
  | "block_src_comp_in" =>
    filters.assign (parseU8Ranges value key) fun list => { filters with blockSrcCompIn := list }
  | "allow_src_comp_out" =>
    filters.assign (parseU8Ranges value key) fun list => { filters with allowSrcCompOut := list }
  | "block_src_comp_out" =>
    filters.assign (parseU8Ranges value key) fun list => { filters with blockSrcCompOut := list }
  | "allow_src_endpoint_out" =>
    filters.assign (parseEndpointNameList value key) fun list =>
      { filters with allowSrcEndpointOut := list }
  | "block_src_endpoint_out" =>
    filters.assign (parseEndpointNameList value key) fun list =>
      { filters with blockSrcEndpointOut := list }
  | _ => (.ok false, filters)

/-- The filters that are left if a key has been ours. -/
def outcome (result : Except SpecError Bool × Filters) : Except SpecError (Option Filters) :=
  result.1.map fun ours => if ours then some result.2 else none

/-- Set the list that a key names; the result is `none` for other keys. -/
def apply (filters : Filters) (key value : String) : Except SpecError (Option Filters) :=
  outcome (filters.applyMut key value)

end Filters

def parseBool (value key : String) : Except SpecError Bool :=
  match value with
  | "true" => .ok true
  | "false" => .ok false
  | _ => .error (.invalidQueryValue key ("expected 'true' or 'false', got '" ++ value ++ "'"))

namespace IdentityFlags

/-- The keys of the policies that are not filters. -/
def keys : List String := ["group", "sniffer"]

/-- Set the policy that a key names; the result is `none` for other keys. -/
def apply (identity : IdentityFlags) (key value : String) :
    Except SpecError (Option IdentityFlags) := do
  match ← identity.filters.apply key value with
  | some filters => return some { identity with filters := filters }
  | none =>
    match key with
    | "sniffer" => return some { identity with sniffer := ← parseBool value "sniffer" }
    | "group" =>
      validateNameValue value "group"
      return some { identity with group := some value }
    | _ => return none

end IdentityFlags

def parseU64 (value key : String) : Except SpecError ℕ :=
  match parseUnsigned (2 ^ 64) value with
  | some number => .ok number
  | none =>
    .error (.invalidQueryValue key ("expected a non-negative integer, got '" ++ value ++ "'"))

def checkU64Range (value : ℕ) (key : String) (min max : ℕ) : Except SpecError ℕ :=
  if value < min ∨ value > max then
    .error (.invalidQueryValue key
      ("must be in " ++ toString min ++ "..=" ++ toString max ++ ", got " ++ toString value))
  else .ok value

/-- Hardware flow control of a serial port. -/
inductive SerialFlowControl where
  | none
  | rtsCts
  deriving DecidableEq, Repr

def parseFlowControl (value : String) : Except SpecError SerialFlowControl :=
  match value with
  | "none" => .ok .none
  | "rtscts" => .ok .rtsCts
  | _ =>
    .error (.invalidQueryValue "flow_control"
      ("expected 'none' or 'rtscts', got '" ++ value ++ "'"))

structure SerialEndpoint where
  path : String
  baud : UInt32
  flowControl : SerialFlowControl := .none
  identity : IdentityFlags := {}
  deriving DecidableEq, Repr

structure UdpServerEndpoint where
  bindAddr : SocketAddr
  idleSecs : Option UInt64 := none
  identity : IdentityFlags := {}
  deriving DecidableEq, Repr

structure UdpClientEndpoint where
  host : String
  port : UInt16
  latchIdleSecs : Option UInt64 := none
  identity : IdentityFlags := {}
  deriving DecidableEq, Repr

structure TcpServerEndpoint where
  bindAddr : SocketAddr
  identity : IdentityFlags := {}
  deriving DecidableEq, Repr

structure TcpClientEndpoint where
  host : String
  port : UInt16
  identity : IdentityFlags := {}
  deriving DecidableEq, Repr

def minIdleSecs : ℕ := 1
def maxIdleSecs : ℕ := 86400
def minLatchIdleSecs : ℕ := 1
def maxLatchIdleSecs : ℕ := 86400

/-- A number of seconds within bounds. -/
def parseSecs (value key : String) (min max : ℕ) : Except SpecError UInt64 := do
  let secs ← parseU64 value key
  return UInt64.ofNat (← checkU64Range secs key min max)

def SerialEndpoint.set (endpoint : SerialEndpoint) (key value : String) :
    Except SpecError (Option SerialEndpoint) := do
  match key with
  | "flow_control" => return some { endpoint with flowControl := ← parseFlowControl value }
  | _ =>
    return (← endpoint.identity.apply key value).map fun identity =>
      { endpoint with identity := identity }

def UdpServerEndpoint.set (endpoint : UdpServerEndpoint) (key value : String) :
    Except SpecError (Option UdpServerEndpoint) := do
  match key with
  | "idle_secs" =>
    let secs ← parseSecs value "idle_secs" minIdleSecs maxIdleSecs
    return some { endpoint with idleSecs := some secs }
  | _ =>
    return (← endpoint.identity.apply key value).map fun identity =>
      { endpoint with identity := identity }

def UdpClientEndpoint.set (endpoint : UdpClientEndpoint) (key value : String) :
    Except SpecError (Option UdpClientEndpoint) := do
  if key = "latch_idle_secs" then
    let secs ← parseSecs value "latch_idle_secs" minLatchIdleSecs maxLatchIdleSecs
    return some { endpoint with latchIdleSecs := some secs }
  else
    return (← endpoint.identity.apply key value).map fun identity =>
      { endpoint with identity := identity }

/-- The keys that only one kind of endpoint has. -/
def knownKeysFor : Scheme → List String
  | .serial => ["flow_control"]
  | .udpServer => ["idle_secs"]
  | .udpClient => ["latch_idle_secs"]
  | .tcpServer => []
  | .tcpClient => []

/-- The first of the known keys that are closest to an unknown one. -/
def suggestQueryKey (externals : Externals) (scheme : Scheme) (unknown : String) :
    Option String :=
  ((IdentityFlags.keys ++ Filters.keys ++ knownKeysFor scheme).filter fun key =>
    externals.levenshtein unknown key ≤ 4).argmin fun key => externals.levenshtein unknown key

/-- Apply one pair. -/
def applyPair {ε : Type} (externals : Externals) (scheme : Scheme)
    (set : ε → String → String → Except SpecError (Option ε)) (endpoint : ε)
    (pair : String × String) : Except SpecError ε := do
  match ← set endpoint pair.1 pair.2 with
  | some changed => return changed
  | none => throw (.unknownQueryKey scheme pair.1 (suggestQueryKey externals scheme pair.1))

def applyPairs {ε : Type} (externals : Externals) (scheme : Scheme)
    (set : ε → String → String → Except SpecError (Option ε)) (endpoint : ε)
    (pairs : List (String × String)) : Except SpecError ε :=
  pairs.foldlM (applyPair externals scheme set) endpoint

/-- Add one pair of a query; no two of them may have the same key. -/
def pushPair (out : List (String × String)) (pair : String) :
    Except SpecError (List (String × String)) :=
  if pair.isEmpty then .ok out
  else
    match splitOnce '=' pair with
    | none => .error (.malformedQuery ("expected '<key>=<value>' (got '" ++ pair ++ "')"))
    | some (key, value) =>
      if key.isEmpty then .error (.malformedQuery ("empty key in '" ++ pair ++ "'"))
      else if toAsciiLowercase key ∈ out.map Prod.fst then
        .error (.duplicateQueryKey (toAsciiLowercase key))
      else .ok (out ++ [(toAsciiLowercase key, value)])

/-- The pairs of a query. -/
def parseQueryPairs (text : String) : Except SpecError (List (String × String)) :=
  if text.isEmpty then .ok [] else (splitAll '&' text).foldlM pushPair []

end MavlinkRouter
