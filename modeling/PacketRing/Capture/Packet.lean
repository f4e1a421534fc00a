import PacketRing.Bytes

/-!
# Captured packets

* `Timestamp` : an instant, in nanoseconds from the epoch;
* `VlanTag` : the tag that the kernel took out of a frame;
* `CaptureInfo` : what is known about a packet besides its bytes;
* `withVlanHeader` : putting the tag back.
-/

namespace PacketRing

/-- An instant: nanoseconds after the epoch, or before it if negative. -/
structure Timestamp where
  nanos : Int
  deriving DecidableEq, Repr

namespace Timestamp

/-- The instant `sec` seconds and `nsec` nanoseconds after the epoch. -/
def ofEpoch (sec nsec : Nat) : Timestamp := ⟨sec * 1000000000 + nsec⟩

def seconds (t : Timestamp) : Int := t.nanos / 1000000000

def subseconds (t : Timestamp) : Int := t.nanos % 1000000000

end Timestamp

/-- An 802.1Q tag. -/
structure VlanTag where
  /-- The tag control information, 16 bits. -/
  tci : Nat
  deriving DecidableEq, Repr

namespace VlanTag

def id (t : VlanTag) : Nat := t.tci % 4096

def priority (t : VlanTag) : Nat := t.tci / 8192

end VlanTag

/-- What is known about a packet besides its bytes. -/
structure CaptureInfo where
  timestamp : Timestamp
  /-- How many bytes the caller gets. -/
  captureLength : Nat
  /-- The length on the wire. -/
  length : Nat
  ifindex : Int
  vlan : Option VlanTag
  deriving DecidableEq, Repr

structure Packet where
  data : Bytes
  info : CaptureInfo
  deriving DecidableEq, Repr

def ethernetHeaderLength : Nat := 14

def vlanEtherType : Nat := 0x8100

/-- `data` with a tag between the MAC addresses and the EtherType. A tag of zero stands for no
tag, and a frame without room for an Ethernet header stays as it is. -/
def withVlanHeader (data : Bytes) (tci : Nat) : Bytes :=
  if tci = 0 ∨ data.length < ethernetHeaderLength then data
  else
    data.take (ethernetHeaderLength - 2) ++ toBE 2 vlanEtherType ++ toBE 2 tci ++
      data.drop (ethernetHeaderLength - 2)

end PacketRing
