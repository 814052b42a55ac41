import MavlinkRouter.Mavlink.RoundTrip
import MavlinkRouter.Router.Basic

/-!
# Zero-trimmed payloads

A MAVLink 2 sender may leave out zero bytes at the end of a payload. A target field that has
been left out reads as absent and not as zero, but the router treats both as a broadcast to all
systems, or to all components of a system. So it decides in the same way about a frame with a
trimmed payload and about the frame with the whole one.
-/

namespace MavlinkRouter

/-- The target fields of a frame are bytes of its payload. -/
theorem TestFrame.extractTargets_build (frame : TestFrame) (crc : UInt16) (entry : MsgEntry) :
    extractTargets (frame.buildWithCrcOverride crc) frame.parsedHeader (some entry) =
      (entry.targetSysOffset.bind fun offset => frame.payload[offset.toNat]?,
        entry.targetCompOffset.bind fun offset => frame.payload[offset.toNat]?) := by
  have hstart : frame.parsedHeader.payloadStart = frame.header.length := by
    rw [header_length]
    cases hversion : frame.version <;>
      simp [parsedHeader, ParsedHeader.payloadStart, stx, hversion, Stx.headerLen]
  have hread (offset : UInt8) :
      (if offset.toNat < frame.parsedHeader.payloadLen.toNat then
        some ((frame.buildWithCrcOverride crc).getD
          (frame.parsedHeader.payloadStart + offset.toNat) 0)
      else none) = frame.payload[offset.toNat]? := by
    have hlen : frame.parsedHeader.payloadLen.toNat = frame.payload.length :=
      frame.toNat_payloadLen
    rw [hstart, hlen]
    split
    case isTrue hlt =>
      have hbyte : (frame.buildWithCrcOverride crc)[frame.header.length + offset.toNat]? =
          some frame.payload[offset.toNat] := by
        rw [buildWithCrcOverride, List.append_assoc, List.append_assoc,
          List.getElem?_append_right (Nat.le_add_right _ _), Nat.add_sub_cancel_left,
          List.getElem?_append_left hlt, List.getElem?_eq_getElem hlt]
      rw [List.getD_eq_getElem?_getD, hbyte, List.getElem?_eq_getElem hlt]
      rfl
    case isFalse hge => rw [List.getElem?_eq_none (Nat.le_of_not_lt hge)]
  simp only [extractTargets, hread]

/-- Two readings of a target field that may differ in an absent zero. -/
def SameTarget (target trimmed : Option UInt8) : Prop :=
  target = trimmed ∨ target = some 0 ∧ trimmed = none

/-- A byte of a payload and of its trimmed form. -/
theorem sameTarget_getElem? (payload : List UInt8) (zeros offset : ℕ) :
    SameTarget (payload ++ List.replicate zeros 0)[offset]? payload[offset]? := by
  by_cases hlt : offset < payload.length
  · left
    rw [List.getElem?_append_left hlt]
  · have hnone : payload[offset]? = none := List.getElem?_eq_none (Nat.le_of_not_lt hlt)
    rw [List.getElem?_append_right (Nat.le_of_not_lt hlt), List.getElem?_replicate, hnone]
    split
    · exact .inr ⟨rfl, rfl⟩
    · exact .inl rfl

private theorem sameTarget_bind (field : Option UInt8) (payload : List UInt8) (zeros : ℕ) :
    SameTarget (field.bind fun offset => (payload ++ List.replicate zeros 0)[offset.toNat]?)
      (field.bind fun offset => payload[offset.toNat]?) := by
  cases field with
  | none => exact .inl rfl
  | some offset => exact sameTarget_getElem? payload zeros offset.toNat

/-- An absent zero makes no difference to where a frame goes. -/
theorem targetMatch_eq {header trimmed : ParsedHeader} (learn : LearnTable)
    (hsystem : SameTarget header.targetSystem trimmed.targetSystem)
    (hcomponent : SameTarget header.targetComponent trimmed.targetComponent) :
    targetMatch header learn = targetMatch trimmed learn := by
  unfold targetMatch
  rcases hsystem with hsystem | ⟨hzero, hnone⟩
  · rw [hsystem]
    rcases hcomponent with hcomponent | ⟨hzero, hnone⟩
    · rw [hcomponent]
    · rw [hzero, hnone]
      rfl
  · rw [hzero, hnone]
    rfl

/-- The rest of the decision reads only the source and the msgid. -/
theorem decide_eq_of_targetMatch_eq {header trimmed : ParsedHeader} {learn : LearnTable}
    (hsource : header.source = trimmed.source) (hmsgid : header.msgid = trimmed.msgid)
    (hmatch : targetMatch header learn = targetMatch trimmed learn) (identity : IdentityFlags)
    (srcEndpointName : String) :
    decide header learn identity srcEndpointName =
      decide trimmed learn identity srcEndpointName := by
  rw [decide, decide, hsource, hmsgid, hmatch]

/-- The header that the framer hands out with an encoded frame. -/
theorem TestFrame.fullHeader_build (table : MsgTable) (frame : TestFrame) (crc : UInt16) :
    Framer.fullHeader table (frame.buildWithCrcOverride crc) frame.stx =
      { frame.parsedHeader with
        targetSystem := (table.lookup frame.msgid).bind fun entry =>
          entry.targetSysOffset.bind fun offset => frame.payload[offset.toNat]?
        targetComponent := (table.lookup frame.msgid).bind fun entry =>
          entry.targetCompOffset.bind fun offset => frame.payload[offset.toNat]? } := by
  have hlookup : table.lookup frame.parsedHeader.msgid = table.lookup frame.msgid := rfl
  rw [Framer.fullHeader, parseHeader_build, hlookup]
  cases hentry : table.lookup frame.msgid with
  | none => rfl
  | some entry =>
    rw [extractTargets_build]
    rfl

/-- Two frames that differ only in zero bytes at the end of their payloads get the same decision
for every destination, whatever the table says about their message. -/
theorem decide_zero_trim (table : MsgTable) {frame trimmed : TestFrame} {zeros : ℕ}
    (hmsgid : trimmed.msgid = frame.msgid) (hsysid : trimmed.sysid = frame.sysid)
    (hcompid : trimmed.compid = frame.compid)
    (hpayload : frame.payload = trimmed.payload ++ List.replicate zeros 0) (crc crc' : UInt16)
    (learn : LearnTable) (identity : IdentityFlags) (srcEndpointName : String) :
    decide (Framer.fullHeader table (frame.buildWithCrcOverride crc) frame.stx) learn identity
        srcEndpointName =
      decide (Framer.fullHeader table (trimmed.buildWithCrcOverride crc') trimmed.stx) learn
        identity srcEndpointName := by
  rw [TestFrame.fullHeader_build, TestFrame.fullHeader_build]
  refine decide_eq_of_targetMatch_eq ?_ hmsgid.symm (targetMatch_eq learn ?_ ?_) identity
    srcEndpointName
  · simp only [TestFrame.parsedHeader, hsysid, hcompid]
  · dsimp only
    rw [hmsgid, hpayload]
    cases table.lookup frame.msgid with
    | none => exact .inl rfl
    | some entry => exact sameTarget_bind entry.targetSysOffset trimmed.payload zeros
  · dsimp only
    rw [hmsgid, hpayload]
    cases table.lookup frame.msgid with
    | none => exact .inl rfl
    | some entry => exact sameTarget_bind entry.targetCompOffset trimmed.payload zeros

/-- A PING frame to all systems, with its payload trimmed or not. -/
def pingFrame (payload : List UInt8) (h : payload.length ≤ 255) : TestFrame :=
  ⟨.v2, 4, 0, 1, 1, 0, payload, none, h, by decide, by decide⟩

/-- The target fields of a trimmed frame are absent, and it gets the same decision. -/
theorem decide_zero_trim_ping :
    let table : MsgTable := ⟨[(4, ⟨237, some 12, some 13⟩)], List.pairwise_singleton _ _⟩
    let whole := pingFrame (List.replicate 12 1 ++ [0, 0]) (by decide)
    let trimmed := pingFrame (List.replicate 12 1) (by decide)
    let header := Framer.fullHeader table (whole.buildWithCrcOverride 0) whole.stx
    let trimmedHeader := Framer.fullHeader table (trimmed.buildWithCrcOverride 0) trimmed.stx
    header.targetSystem = some 0 ∧ trimmedHeader.targetSystem = none ∧
      ∀ learn identity name,
        decide header learn identity name = decide trimmedHeader learn identity name := by
  intro table whole trimmed header trimmedHeader
  refine ⟨by decide +kernel, by decide +kernel, fun learn identity name => ?_⟩
  have hpayload : whole.payload = trimmed.payload ++ List.replicate 2 0 := by decide
  have hmsgid : trimmed.msgid = whole.msgid := rfl
  exact decide_zero_trim table hmsgid rfl rfl hpayload 0 0 learn identity name

end MavlinkRouter
