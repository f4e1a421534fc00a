import PacketRing.Capture.Packet
import PacketRing.Ring.Block
import PacketRing.Ring.Slot

/-!
# Header views

A view of the packet header at the front of a slot, or at a position in a v3 block. Fields outside
the mapping read as 0.

* `Header.ofFrame`, `Header.ofPosition`, `Header.atSlot` : building a view;
* `status`, `isUser`, `clear` : ownership of the slot;
* `length`, `span`, `timestamp`, `ifindex`, `vlan?` : what the header says about its packet.
-/

namespace PacketRing

/-- A view of a packet header. -/
structure Header where
  version : Version
  /-- Start of the slot, where its status is found. -/
  slot : Nat
  /-- Start of the packet header. -/
  record : Nat
  limit : Nat
  /-- A block without packets: its header has neither length nor bytes. -/
  vacant : Bool
  deriving DecidableEq, Repr

namespace Header

def ofFrame (v : Version) (base frameSize : Nat) : Header :=
  ⟨v, base, base, base + frameSize, false⟩

/-- The view of the record at a position in a v3 block. -/
def ofPosition (blockSize : Nat) (p : BlockPosition) : Header :=
  ⟨.v3, p.block, p.packet, p.block + blockSize, p.total == 0⟩

/-- The view at the front of the slot that begins at `base`. -/
def atSlot (mem : Region) (g : Geometry) (v : Version) (base : Nat) : Header :=
  match v with
  | .v3 => ofPosition g.blockSize (.first mem base g.blockSize)
  | v => ofFrame v base g.frameSize

theorem slot_atSlot (mem : Region) (g : Geometry) (v : Version) (base : Nat) :
    (atSlot mem g v base).slot = base ∧ (atSlot mem g v base).version = v := by
  cases v <;> exact ⟨rfl, rfl⟩

/-! ## Ownership -/

def status (mem : Region) (h : Header) : Nat := slotStatus mem h.version h.slot

def isUser (mem : Region) (h : Header) : Bool := isUserSlot mem h.version h.slot

/-- Hands the slot back to the kernel. -/
def clear (mem : Region) (h : Header) : Region := clearSlot mem h.version h.slot

/-! ## The packet -/

/-- The 32-bit field at `offset` of the packet header. -/
def field (mem : Region) (h : Header) (offset : Nat) : Nat := mem.field (h.record + offset) 4

def length (mem : Region) (h : Header) : Nat :=
  if h.vacant then 0 else h.field mem h.version.layout.length

/-- Start and length of a run of `n` bytes from `start`, cut at `limit`. -/
def clamp (start n limit : Nat) : Nat × Nat := (start, min (start + n) limit - start)

/-- Start and length of the captured bytes, cut at the end of the slot. -/
def span (mem : Region) (h : Header) : Nat × Nat :=
  if h.vacant then (h.slot, 0)
  else
    clamp (h.record + mem.field (h.record + h.version.layout.dataOffset) 2)
      (h.field mem h.version.layout.snapLength) h.limit

/-- When the packet was captured; the part below a second is cut to what a second has. -/
def timestamp (mem : Region) (h : Header) : Timestamp :=
  let l := h.version.layout
  .ofEpoch (h.field mem l.seconds) (min (h.field mem l.fraction * l.fractionUnit) 999999999)

/-- The interface on which the packet arrived. -/
def ifindex (mem : Region) (h : Header) : Int :=
  signed UInt32.size (h.field mem (h.version.layout.address + addressIfindex))

/-- The status word that says whether this packet has a tag: the frame's in v2, the packet's own,
not the block's, in v3. -/
def tagStatus (mem : Region) (h : Header) : Nat :=
  match h.version with
  | .v1 => 0
  | .v2 => h.status mem
  | .v3 => h.field mem packetStatusField

/-- The tag that the kernel took out of the frame, if it marked one as present. -/
def vlan? (mem : Region) (h : Header) : Option VlanTag :=
  match h.version.tagOffset? with
  | none => none
  | some offset =>
    if hasBit (h.tagStatus mem) vlanValidBit then (mem.word? (h.record + offset) 2).map VlanTag.mk
    else none

end Header

end PacketRing
