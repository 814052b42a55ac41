import Mathlib

/-!
# The MAVLink wire format

Frame layout constants, the parsed header, the frame checksum and the msgid table
of `src/mavlink`. The table itself is generated at build time from the dialect
files, so every definition that consults it takes the table as a parameter.
-/

namespace MavlinkRouter

/-- Wire protocol version of a parsed frame. -/
inductive Version where
  | v1
  | v2
  deriving DecidableEq, Repr

/-- Start-of-frame byte for MAVLink v1. -/
def stxV1 : UInt8 := 0xFE

/-- Start-of-frame byte for MAVLink v2. -/
def stxV2 : UInt8 := 0xFD

/-- The v2 incompat-flag bit of a signed frame. -/
def v2IflagSigned : UInt8 := 0x01

/-- Length of the signature trailer of a signed v2 frame. -/
def v2SignatureLen : ℕ := 13

def v1HeaderLen : ℕ := 6

def v2HeaderLen : ℕ := 10

def crcLen : ℕ := 2

/-- Which start byte the framer is aligned on. -/
inductive Stx where
  | v1
  | v2
  deriving DecidableEq, Repr

/-- The start byte kind of a byte, if it is one. -/
def Stx.fromByte (byte : UInt8) : Option Stx :=
  if byte = stxV1 then some .v1 else if byte = stxV2 then some .v2 else none

def Stx.headerLen : Stx → ℕ
  | .v1 => v1HeaderLen
  | .v2 => v2HeaderLen

/-- A byte that starts a frame is one of the two start bytes. -/
theorem Stx.fromByte_eq_none {byte : UInt8} :
    Stx.fromByte byte = none ↔ byte ≠ stxV1 ∧ byte ≠ stxV2 := by
  unfold Stx.fromByte
  split <;> rename_i h1
  · simp [h1]
  · split <;> rename_i h2 <;> simp [h1, h2]

@[simp] private theorem Stx.fromByte_stxV1 : Stx.fromByte stxV1 = some .v1 := rfl

@[simp] private theorem Stx.fromByte_stxV2 : Stx.fromByte stxV2 = some .v2 := rfl

/-- MAVLink node identity: the `(sysid, compid)` pair of a frame's source. -/
structure NodeId where
  sys : UInt8
  comp : UInt8
  deriving DecidableEq, Repr

/-- Routing-relevant fields of a frame header. -/
structure ParsedHeader where
  version : Version
  source : NodeId
  msgid : UInt32
  seq : UInt8
  payloadLen : UInt8
  targetSystem : Option UInt8
  targetComponent : Option UInt8
  deriving DecidableEq, Repr

/-- Offset of the payload in a frame with this header. -/
def ParsedHeader.payloadStart (header : ParsedHeader) : ℕ :=
  match header.version with
  | .v1 => v1HeaderLen
  | .v2 => v2HeaderLen

/-- One row of the build-time msgid table. -/
structure MsgEntry where
  crcExtra : UInt8
  targetSysOffset : Option UInt8
  targetCompOffset : Option UInt8
  deriving DecidableEq, Repr

/-- The build-time table: rows strictly ascending by msgid. -/
structure MsgTable where
  rows : List (UInt32 × MsgEntry)
  sorted : rows.Pairwise fun a b => a.1 < b.1

/-- The row of a msgid. The binary search of the code finds the one row with that
key of a strictly ascending table, and nothing if there is none. -/
def MsgTable.lookup (table : MsgTable) (msgid : UInt32) : Option MsgEntry :=
  (table.rows.find? fun row => row.1 == msgid).map Prod.snd

/-- A msgid has at most one row. -/
theorem MsgTable.lookup_eq_some_iff {table : MsgTable} {msgid : UInt32} {entry : MsgEntry} :
    table.lookup msgid = some entry ↔ (msgid, entry) ∈ table.rows := by
  have hnodup : (table.rows.map Prod.fst).Nodup :=
    List.pairwise_map.mpr (table.sorted.imp fun h => UInt32.ne_of_lt h)
  constructor
  · intro h
    obtain ⟨row, hfind, rfl⟩ := Option.map_eq_some_iff.mp h
    have hkey : row.1 = msgid := by simpa using List.find?_some hfind
    exact hkey ▸ List.mem_of_find?_eq_some hfind
  · intro hmem
    have hsome : (table.rows.find? fun row => row.1 == msgid).isSome :=
      List.find?_isSome.mpr ⟨_, hmem, beq_self_eq_true msgid⟩
    obtain ⟨row, hfind⟩ := Option.isSome_iff_exists.mp hsome
    have hkey : row.1 = msgid := by simpa using List.find?_some hfind
    have hrow : row = (msgid, entry) :=
      List.inj_on_of_nodup_map hnodup (List.mem_of_find?_eq_some hfind) hmem hkey
    rw [MsgTable.lookup, hfind, hrow]
    rfl

/-- Streaming CRC-16-MCRF4XX accumulator. -/
structure Crc16 where
  value : UInt16
  deriving DecidableEq, Repr

/-- Initial value of the accumulator. -/
def crcInit : UInt16 := 0xFFFF

/-- One byte of the checksum. -/
def crc16Update (crc : UInt16) (byte : UInt8) : UInt16 :=
  let tmp := byte ^^^ (crc &&& 0xFF).toUInt8
  let tmp := tmp ^^^ (tmp <<< 4)
  let tmp16 := tmp.toUInt16
  (crc >>> 8) ^^^ (tmp16 <<< 8) ^^^ (tmp16 <<< 3) ^^^ (tmp16 >>> 4)

namespace Crc16

def new : Crc16 := ⟨crcInit⟩

def update (crc : Crc16) (byte : UInt8) : Crc16 := ⟨crc16Update crc.value byte⟩

def updateSlice (crc : Crc16) (bytes : List UInt8) : Crc16 := bytes.foldl update crc

def finalize (crc : Crc16) : UInt16 := crc.value

/-- The published check value of CRC-16/MCRF4XX, over the text "123456789". -/
example : (new.updateSlice [49, 50, 51, 52, 53, 54, 55, 56, 57]).finalize = 0x6F91 := by decide

end Crc16

/-- `u16::from_le_bytes`. -/
def u16FromLeBytes (lo hi : UInt8) : UInt16 :=
  UInt16.ofNat (lo.toNat + 256 * hi.toNat)

/-- `u32::from_le_bytes`. -/
def u32FromLeBytes (b0 b1 b2 b3 : UInt8) : UInt32 :=
  UInt32.ofNat (b0.toNat + 256 * b1.toNat + 65536 * b2.toNat + 16777216 * b3.toNat)

end MavlinkRouter
