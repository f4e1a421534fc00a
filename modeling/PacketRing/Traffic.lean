import PacketRing.Capture.Packet
import Std.Data.TreeMap

/-!
# Traffic counters

* `Tally` : what is counted for one interface or one VLAN;
* `Traffic` : the tallies by interface and by VLAN, and their totals;
* `Traffic.record` : counting a packet;
* `Traffic.sortInterfaces`, `Traffic.sortVlans` : tallies in the order in which they are shown, in
  whatever order they were gone through;
* `Traffic.busiestFirst`, `Traffic.byVlan` : those of the counters.
-/

namespace PacketRing

/-- Counts of one interface or one VLAN. -/
structure Tally where
  packets : Nat := 0
  /-- Bytes on the wire. -/
  bytes : Nat := 0
  /-- Bytes that were captured. -/
  capturedBytes : Nat := 0
  /-- When the newest packet was captured, in milliseconds after the epoch. -/
  lastSeen : Int := 0
  deriving DecidableEq, Repr

/-- Counts a packet that was captured at `time`. -/
def Tally.add (t : Tally) (info : CaptureInfo) (time : Int) : Tally where
  packets := t.packets + 1
  bytes := t.bytes + info.length
  capturedBytes := t.capturedBytes + info.captureLength
  lastSeen := max t.lastSeen time

/-- An instant in milliseconds after the epoch as a 64-bit number; for an instant before the epoch,
the time of the wall clock stands in. -/
def Timestamp.toMillis (t : Timestamp) (wallClock : Int) : Int :=
  if t.nanos < 0 then wallClock else signed UInt64.size ((t.nanos / 1000000).toNat % UInt64.size)

/-- What was captured so far. -/
structure Traffic where
  interfaces : Std.TreeMap Int Tally := ∅
  vlans : Std.TreeMap Nat Tally := ∅
  totalPackets : Nat := 0
  totalBytes : Nat := 0
  capturedBytes : Nat := 0
  /-- Reads that ended a capture loop with an error. -/
  readErrors : Nat := 0

namespace Traffic

/-- Counts a packet for its interface and, if it was tagged, for its VLAN. -/
def record (t : Traffic) (wallClock : Int) (info : CaptureInfo) : Traffic :=
  let time := info.timestamp.toMillis wallClock
  { t with
    interfaces :=
      t.interfaces.insert info.ifindex ((t.interfaces.getD info.ifindex {}).add info time)
    vlans :=
      match info.vlan with
      | none => t.vlans
      | some tag => t.vlans.insert tag.id ((t.vlans.getD tag.id {}).add info time)
    totalPackets := t.totalPackets + 1
    totalBytes := t.totalBytes + info.length
    capturedBytes := t.capturedBytes + info.captureLength }

/-- Counts a read that failed. -/
def recordError (t : Traffic) : Traffic := { t with readErrors := t.readErrors + 1 }

/-- A row comes before another if it counts more packets, or as many with a smaller index. -/
def busier (a b : Int × Tally) : Bool :=
  b.2.packets < a.2.packets || a.2.packets == b.2.packets && decide (a.1 ≤ b.1)

/-- The rows of interfaces, the busiest first. -/
def sortInterfaces (rows : List (Int × Tally)) : List (Int × Tally) := rows.mergeSort busier

/-- The rows of VLANs by number. -/
def sortVlans (rows : List (Nat × Tally)) : List (Nat × Tally) :=
  rows.mergeSort fun a b => decide (a.1 ≤ b.1)

def busiestFirst (t : Traffic) : List (Int × Tally) := sortInterfaces t.interfaces.toList

def byVlan (t : Traffic) : List (Nat × Tally) := sortVlans t.vlans.toList

end Traffic

end PacketRing
