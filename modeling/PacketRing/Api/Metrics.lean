/-!
# Metrics

* `Metrics` : counters that only go up, and a gauge;
* `Metrics.advanceTo` : moving a counter forward;
* `Metrics.text` : their text exposition.
-/

namespace PacketRing

/-- The metrics that are exposed. -/
structure Metrics where
  packets : Nat := 0
  bytes : Nat := 0
  kernelDrops : Nat := 0
  polls : Nat := 0
  interfacesSeen : Nat := 0
  deriving DecidableEq, Repr

namespace Metrics

/-- A counter moved forward to a total; it never moves back. -/
def advanceTo (counter total : Nat) : Nat := max counter total

theorem le_advanceTo (counter total : Nat) : counter ≤ advanceTo counter total :=
  Nat.le_max_left ..

/-- The lines of one metric. -/
def lines (name help kind sample : String) (value : Nat) : String :=
  s!"# HELP {name} {help}.\n# TYPE {name} {kind}\n{sample} {value}\n"

/-- The lines of a counter, whose sample carries the suffix of totals. -/
def counter (name help : String) (value : Nat) : String :=
  lines name help "counter" (name ++ "_total") value

/-- The lines of a gauge. -/
def gauge (name help : String) (value : Nat) : String := lines name help "gauge" name value

/-- The text exposition. -/
def text (m : Metrics) : String :=
  counter "ringtap_packets_total" "Total number of captured packets" m.packets ++
  counter "ringtap_bytes_total" "Total wire bytes of captured packets" m.bytes ++
  counter "ringtap_kernel_drops_total" "Packets the kernel dropped because the ring was full"
    m.kernelDrops ++
  counter "ringtap_polls_total" "Blocking polls made while waiting for packets" m.polls ++
  gauge "ringtap_interfaces_seen" "Interfaces that delivered at least one packet"
    m.interfacesSeen ++
  "# EOF\n"

end Metrics

end PacketRing
