import MavlinkRouter.Mavlink.Frame

/-!
# Per-endpoint filters

The allow and block lists of an endpoint and the two per-frame decisions made from
them, on ingress by the endpoint's reader and on egress by the router.
-/

namespace MavlinkRouter

/-- Inclusive range of msgids. -/
structure MsgIdRange where
  lo : UInt32
  hi : UInt32
  deriving DecidableEq, Repr

def MsgIdRange.contains (range : MsgIdRange) (value : UInt32) : Bool :=
  range.lo ≤ value && value ≤ range.hi

/-- Inclusive range of system or component ids. -/
structure U8Range where
  lo : UInt8
  hi : UInt8
  deriving DecidableEq, Repr

def U8Range.contains (range : U8Range) (value : UInt8) : Bool :=
  range.lo ≤ value && value ≤ range.hi

/-- The filter lists of one endpoint. An empty list imposes no restriction. -/
structure Filters where
  allowMsgidIn : List MsgIdRange := []
  blockMsgidIn : List MsgIdRange := []
  allowMsgidOut : List MsgIdRange := []
  blockMsgidOut : List MsgIdRange := []
  allowSrcSysIn : List U8Range := []
  blockSrcSysIn : List U8Range := []
  allowSrcSysOut : List U8Range := []
  blockSrcSysOut : List U8Range := []
  allowSrcCompIn : List U8Range := []
  blockSrcCompIn : List U8Range := []
  allowSrcCompOut : List U8Range := []
  blockSrcCompOut : List U8Range := []
  allowSrcEndpointOut : List String := []
  blockSrcEndpointOut : List String := []
  deriving DecidableEq, Repr

/-- Decision on one axis, for entries that match the value or not. -/
def passAxis {ρ : Type} (matchesValue : ρ → Bool) (allow block : List ρ) : Bool :=
  if !allow.isEmpty && !allow.any matchesValue then false
  else !block.any matchesValue

def passMsgidAxis (value : UInt32) (allow block : List MsgIdRange) : Bool :=
  passAxis (·.contains value) allow block

def passU8Axis (value : UInt8) (allow block : List U8Range) : Bool :=
  passAxis (·.contains value) allow block

def passSrcEndpointAxis (name : String) (allow block : List String) : Bool :=
  passAxis (· == name) allow block

/-- A nonempty allow list must match and the block list must not: block wins. -/
theorem passAxis_iff {ρ : Type} {matchesValue : ρ → Bool} {allow block : List ρ} :
    passAxis matchesValue allow block = true ↔
      (allow = [] ∨ ∃ entry ∈ allow, matchesValue entry = true) ∧
        ∀ entry ∈ block, matchesValue entry = false := by
  unfold passAxis
  by_cases hallow : allow = []
  · simp [hallow]
  · by_cases hany : ∃ entry ∈ allow, matchesValue entry = true
    · have hany' : allow.any matchesValue = true := List.any_eq_true.mpr hany
      simp [hany', hany]
    · have hnone : allow.any matchesValue = false := by simpa using hany
      simp [hnone, hallow, hany]

namespace Filters

/-- Whether a frame passes the ingress filter. -/
def passesInFilter (filters : Filters) (msgid : UInt32) (src : NodeId) : Bool :=
  passMsgidAxis msgid filters.allowMsgidIn filters.blockMsgidIn
    && passU8Axis src.sys filters.allowSrcSysIn filters.blockSrcSysIn
    && passU8Axis src.comp filters.allowSrcCompIn filters.blockSrcCompIn

/-- Whether a frame from the named source endpoint passes the egress filter. -/
def passesOutFilter (filters : Filters) (msgid : UInt32) (src : NodeId)
    (srcEndpointName : String) : Bool :=
  passMsgidAxis msgid filters.allowMsgidOut filters.blockMsgidOut
    && passU8Axis src.sys filters.allowSrcSysOut filters.blockSrcSysOut
    && passU8Axis src.comp filters.allowSrcCompOut filters.blockSrcCompOut
    && passSrcEndpointAxis srcEndpointName filters.allowSrcEndpointOut
      filters.blockSrcEndpointOut

end Filters

end MavlinkRouter
