import PacketRing.Api.Json
import PacketRing.Capture.Handle
import PacketRing.Traffic

/-!
# Reports

What the API tells about a capture.

* `Health`, `StatsReport`, `TrafficReport` : the reports, each with its JSON form;
* `Handle.health`, `Handle.statsReport`, `Kernel.trafficReport` : making them;
* `Kernel.reportOf` : the report on tallies, in whatever order they are gone through.
-/

namespace PacketRing

/-! ## Health -/

/-- Whether packets are being captured. -/
structure Health where
  capturing : Bool
  totalPackets : Nat
  deriving DecidableEq, Repr

/-- A handle captures until it is closed. -/
def Handle.health (h : Handle) (t : Traffic) : Health := ⟨!h.closed, t.totalPackets⟩

def Health.toJson (r : Health) : Json :=
  .obj [
    ("status", .str (if r.capturing then "ok" else "stopped")),
    ("capturing", .bool r.capturing),
    ("total_packets", .int r.totalPackets)]

/-! ## Statistics -/

/-- The counters of a capture at one moment. -/
structure StatsReport where
  /-- Seconds since the agent started. -/
  uptime : Nat
  version : Version
  totalPackets : Nat
  totalBytes : Nat
  capturedBytes : Nat
  readErrors : Nat
  counts : LocalCounts
  /-- The kernel's totals, if it could be asked. -/
  kernel : Option KernelTotals
  deriving DecidableEq, Repr

/-- Asks the kernel and reports all counters. -/
def Handle.statsReport (h : Handle) (t : Traffic) (uptime : Nat) (k : Kernel) :
    StatsReport × Handle × Kernel :=
  let (answer, h, k) := h.socketStats k
  ({ uptime
     version := h.version
     totalPackets := t.totalPackets
     totalBytes := t.totalBytes
     capturedBytes := t.capturedBytes
     readErrors := t.readErrors
     counts := h.reader.counts
     kernel := answer.toOption }, h, k)

namespace StatsReport

/-- A total per second of uptime; zero before the first second is over. -/
def rate (r : StatsReport) (total : Nat) : Float :=
  if r.uptime = 0 then 0 else (UInt64.ofNat total).toFloat / (UInt64.ofNat r.uptime).toFloat

end StatsReport

def LocalCounts.toJson (c : LocalCounts) : Json :=
  .obj [("packets", .int c.packets), ("polls", .int c.polls)]

def KernelTotals.toJson (t : KernelTotals) : Json :=
  .obj [("packets", .int t.packets), ("drops", .int t.drops),
    ("queue_freezes", .int t.queueFreezes)]

def StatsReport.toJson (r : StatsReport) : Json :=
  .obj [
    ("uptime_seconds", .int r.uptime),
    ("tpacket_version", .str r.version.name),
    ("total_packets", .int r.totalPackets),
    ("total_bytes", .int r.totalBytes),
    ("captured_bytes", .int r.capturedBytes),
    ("packets_per_second", .real (r.rate r.totalPackets)),
    ("bytes_per_second", .real (r.rate r.totalBytes)),
    ("read_errors", .int r.readErrors),
    ("local", r.counts.toJson),
    ("kernel", .ofOption (r.kernel.map KernelTotals.toJson))]

/-! ## Traffic -/

/-- The name of an interface as text, if there is one of that index. A name ends at its first zero
byte. -/
def Kernel.interfaceLabel (k : Kernel) (ifindex : Int) : Option String :=
  if ifindex ≤ 0 then none
  else
    (k.interfaceName? ifindex.toNat).map fun name =>
      String.ofList (Text.decodeLossy (name.takeWhile (· ≠ 0)))

/-- A row of the traffic report for an interface. -/
structure InterfaceRow where
  ifindex : Int
  name : Option String
  tally : Tally
  deriving DecidableEq, Repr

/-- The traffic by interface and by VLAN. -/
structure TrafficReport where
  interfaces : List InterfaceRow
  vlans : List (Nat × Tally)
  deriving DecidableEq, Repr

/-- The report on tallies that are gone through in these orders, with the names that the interfaces
have now. -/
def Kernel.reportOf (k : Kernel) (interfaces : List (Int × Tally)) (vlans : List (Nat × Tally)) :
    TrafficReport where
  interfaces := (Traffic.sortInterfaces interfaces).map fun (ifindex, tally) =>
    ⟨ifindex, k.interfaceLabel ifindex, tally⟩
  vlans := Traffic.sortVlans vlans

def Kernel.trafficReport (k : Kernel) (t : Traffic) : TrafficReport :=
  k.reportOf t.interfaces.toList t.vlans.toList

/-- The members that show a tally. -/
def Tally.members (t : Tally) : List (String × Json) :=
  [("packets", .int t.packets), ("bytes", .int t.bytes), ("captured_bytes", .int t.capturedBytes),
    ("last_seen_ms", .int t.lastSeen)]

def InterfaceRow.toJson (r : InterfaceRow) : Json :=
  .obj (("ifindex", .int r.ifindex) :: ("name", .ofOption (r.name.map .str)) :: r.tally.members)

def TrafficReport.toJson (r : TrafficReport) : Json :=
  .obj [
    ("interfaces", .arr (r.interfaces.map InterfaceRow.toJson)),
    ("vlans", .arr (r.vlans.map fun (id, tally) => .obj (("vlan_id", .int id) :: tally.members)))]

end PacketRing
