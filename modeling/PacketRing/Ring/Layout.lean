import PacketRing.Ring.Version

/-!
# Header layouts

Where the kernel puts what in each ring version.

* `StatusWord` : the word by which a slot changes hands;
* `Layout` : the fields of a packet header, by offset from its start;
* `Block` : the fields of a v3 block descriptor;
* `frameAlign` : the rounding of frame lengths;
* sizes of the structures exchanged with the kernel.
-/

namespace PacketRing

/-! ## Ownership -/

/-- A status word: its offset from the start of the slot and its width in bytes. -/
structure StatusWord where
  offset : Nat
  width : Nat
  deriving DecidableEq, Repr

/-- The status value that gives a slot to the kernel. -/
def statusKernel : Nat := 0

/-- The status bit that gives a slot to the reader. -/
def userBit : Nat := 1

def vlanValidBit : Nat := 16

def hasBit (status flag : Nat) : Bool := status / flag % 2 == 1

/-! ## Packet headers -/

/-- Field offsets of a packet header. -/
structure Layout where
  /-- Size of the header without the address that follows it. -/
  headerSize : Nat
  /-- Where the address with the ingress interface begins. -/
  address : Nat
  length : Nat
  snapLength : Nat
  /-- Distance of the packet's bytes from the header, 16 bits. -/
  dataOffset : Nat
  seconds : Nat
  fraction : Nat
  /-- How many nanoseconds a unit of `fraction` is. -/
  fractionUnit : Nat
  deriving DecidableEq, Repr

/-- Offset of the interface index in an address. -/
def addressIfindex : Nat := 4

namespace Version

def statusWord : Version → StatusWord
  | v1 => ⟨0, 8⟩
  | v2 => ⟨0, 4⟩
  | v3 => ⟨8, 4⟩

def layout : Version → Layout
  | v1 =>
    { headerSize := 32, address := 32, length := 8, snapLength := 12, dataOffset := 16
      seconds := 20, fraction := 24, fractionUnit := 1000 }
  | v2 =>
    { headerSize := 32, address := 32, length := 4, snapLength := 8, dataOffset := 12
      seconds := 16, fraction := 20, fractionUnit := 1 }
  | v3 =>
    { headerSize := 48, address := 48, length := 16, snapLength := 12, dataOffset := 24
      seconds := 4, fraction := 8, fractionUnit := 1 }

/-- Where a header keeps its tag, in versions that report one. -/
def tagOffset? : Version → Option Nat
  | v1 => none
  | v2 => some 24
  | v3 => some 32

end Version

/-- Offset of the distance to the next packet in a v3 packet header. -/
def nextOffsetField : Nat := 0

/-- Offset of the packet's own status in a v3 packet header. -/
def packetStatusField : Nat := 20

/-! ## Block descriptors -/

namespace Block

def packetCountField : Nat := 12

def firstPacketField : Nat := 16

end Block

/-! ## Sizes -/

/-- `n` rounded up to the frame alignment of 16. -/
def frameAlign (n : Nat) : Nat := (n + 15) / 16 * 16

theorem frameAlign_bounds (n : Nat) :
    n ≤ frameAlign n ∧ frameAlign n < n + 16 ∧ frameAlign n % 16 = 0 := by
  unfold frameAlign; omega

structure AbiSizes where
  header1 : Nat := 32
  header2 : Nat := 32
  header3 : Nat := 48
  blockDescriptor : Nat := 48
  request : Nat := 16
  request3 : Nat := 28
  statistics : Nat := 8
  statistics3 : Nat := 12
  instruction : Nat := 8
  address : Nat := 20
  deriving DecidableEq, Repr

def abiSizes : AbiSizes := {}

/-- The most EtherTypes that a compiled filter admits. -/
def maxFilterEtherTypes : Nat := 64

end PacketRing
