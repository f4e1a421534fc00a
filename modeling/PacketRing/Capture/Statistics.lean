import PacketRing.Kernel.Basic

/-!
# Kernel counters

The kernel sets its counters to zero whenever it is asked for them, so each answer counts what
came since the last one.

* `KernelTotals` : the sums since the capture began;
* `KernelTotals.accumulate` : adding an answer;
* `KernelTotals.reset` : forgetting what was counted before.
-/

namespace PacketRing

/-- The kernel's counters, summed over all queries. -/
structure KernelTotals where
  packets : Nat := 0
  drops : Nat := 0
  /-- Counted by v3 rings only. -/
  queueFreezes : Nat := 0
  deriving DecidableEq, Repr

namespace KernelTotals

/-- Adds an answer of the kernel. -/
def add (t : KernelTotals) (c : Counts) : KernelTotals where
  packets := t.packets + c.packets
  drops := t.drops + c.drops
  queueFreezes := t.queueFreezes + c.freezes

/-- Folds an answer into the sums; a query that failed leaves them alone. -/
def accumulate {ε : Type} (t : KernelTotals) :
    Except ε Counts → Except ε KernelTotals × KernelTotals
  | .error e => (.error e, t)
  | .ok c => (.ok (t.add c), t.add c)

/-- Starts the sums again at zero, unless the query failed. -/
def reset {ε : Type} (t : KernelTotals) : Except ε Counts → Except ε Unit × KernelTotals
  | .error e => (.error e, t)
  | .ok _ => (.ok (), {})

end KernelTotals

end PacketRing
