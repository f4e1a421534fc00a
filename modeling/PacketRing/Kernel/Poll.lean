import PacketRing.Kernel.Basic

/-!
# Waiting for packets

* `Kernel.poll` : one poll of the socket and the waker;
* `Readiness` : what a poll means to a reader;
* `Kernel.wait` : a poll and its meaning. Unless the script is used up, it takes one entry
  (`script_wait`); with the script used up the wait ends (`wait_of_script_nil`).
-/

namespace PacketRing

/-- What a poll means to a reader. -/
inductive Readiness where
  /-- Something happened: look at the slot again. -/
  | ready
  | timedOut
  /-- The socket is in an error state. -/
  | failed
  /-- A signal came in between. -/
  | interrupted
  /-- The handle is closing. -/
  | woken
  deriving DecidableEq, Repr

def interruptedErrno : Errno := 4

namespace Kernel

/-- The events that a poll finds, or its error. A blocked poll ends when another thread wakes the
handle. -/
def settle (k : Kernel) : PollOutcome → Except Errno (Nat × Nat) × Kernel
  | .fail e => (.error e, k)
  | .timeout => (.ok (0, 0), k)
  | .block => (.ok (0, pollIn), if k.woken then k else (k.wake).2)
  | .events socket waker => (.ok (socket, waker), k)

/-- Polls the socket and the waker: the next entry of the script happens. -/
def poll (k : Kernel) (timeout : Int) : Except Errno (Nat × Nat) × Kernel :=
  let k := k.log (.poll timeout pollIn pollIn)
  match k.script with
  | [] => (.ok (0, if k.woken || k.idle == .stopping then pollIn else 0), k)
  | s :: rest =>
    let k := { k with script := rest }.deliver s.writes
    let k := if s.stop then { k with running := false } else k
    k.settle s.outcome

/-- The meaning of the events found. Being woken comes before errors of the socket. -/
def readiness : Nat × Nat → Readiness
  | (0, 0) => .timedOut
  | (socket, waker) =>
    if hasBit waker pollIn then .woken
    else if hasBit socket pollErr || hasBit socket pollNval then .failed
    else .ready

def wait (k : Kernel) (timeout : Int) : Except Errno Readiness × Kernel :=
  match k.poll timeout with
  | (.error e, k) => (if e = interruptedErrno then .ok .interrupted else .error e, k)
  | (.ok events, k) => (.ok (readiness events), k)

/-! ## The script -/

@[simp] theorem script_log (k : Kernel) (c : Call) : (k.log c).script = k.script := rfl

@[simp] theorem script_deliver (k : Kernel) (ws : List Store) :
    (k.deliver ws).script = k.script := rfl

@[simp] theorem script_wake (k : Kernel) : k.wake.2.script = k.script := rfl

@[simp] theorem script_settle (k : Kernel) (o : PollOutcome) :
    (k.settle o).2.script = k.script := by
  cases o <;> simp only [settle]
  split <;> rfl

theorem script_poll (k : Kernel) (timeout : Int) :
    (k.poll timeout).2.script = k.script.tail := by
  unfold poll
  simp only [script_log]
  split
  · next h => simp [h]
  · next h =>
    rw [script_settle, h, List.tail_cons]
    split <;> rfl

theorem script_wait (k : Kernel) (timeout : Int) :
    (k.wait timeout).2.script = k.script.tail := by
  rw [← script_poll k timeout]
  unfold wait
  split <;> simp_all

/-- Once the script is used up, a wait finds nothing to look at. -/
theorem wait_of_script_nil {k : Kernel} (h : k.script = []) (timeout : Int) :
    (k.wait timeout).1 = .ok .timedOut ∨ (k.wait timeout).1 = .ok .woken := by
  have hp : (k.wait timeout).1 =
      .ok (readiness (0, if k.woken || k.idle == .stopping then pollIn else 0)) := by
    unfold wait poll log
    simp only [h]
  rw [hp]
  split
  · exact Or.inr rfl
  · exact Or.inl rfl

/-- A wait after which the reader looks again has taken an entry of the script. -/
theorem script_wait_lt {k : Kernel} {timeout : Int}
    (h : (k.wait timeout).1 ≠ .ok .timedOut) (h' : (k.wait timeout).1 ≠ .ok .woken) :
    (k.wait timeout).2.script.length < k.script.length := by
  rw [script_wait]
  cases hs : k.script with
  | nil => exact absurd (wait_of_script_nil hs timeout) (by simp [h, h'])
  | cons s rest => simp

end Kernel

end PacketRing
