import PacketRing.Kernel.Poll
import PacketRing.Ring.Cursor

/-!
# Reading packets

* `Reader` : a cursor and the reader's own counts;
* `Reader.await` : waiting until the slot at the cursor is the reader's;
* `Reader.claim` : handing back the slot held so far and taking the next one with a packet in it;
* `Reader.next` : the next packet, from the block at the cursor or from a new slot.

A wait that looks at the slot again has used up an entry of the poll script, and a slot that turns
out empty was free before; so both loops end.
-/

namespace PacketRing

/-- Gives the slot at `base` back to the kernel. -/
def Kernel.release (k : Kernel) (v : Version) (base : Nat) : Kernel :=
  k.withMemory (clearSlot k.memory v base)

theorem Kernel.memory_release (k : Kernel) (v : Version) (base : Nat) :
    (k.release v base).memory = clearSlot k.memory v base := by
  unfold release withMemory memory
  cases k.mapping with
  | some mem => rfl
  | none =>
    have hw : 0 < v.statusWord.width := by cases v <;> decide
    have hn : ¬ (Region.zeroed 0).Accessible (statusOffset v base) v.statusWord.width := by
      unfold Region.Accessible; simp; omega
    simp [clearSlot, Region.storeAligned, hn]

@[simp] theorem Kernel.script_release (k : Kernel) (v : Version) (base : Nat) :
    (k.release v base).script = k.script := rfl

/-- What the reader counts itself. -/
structure LocalCounts where
  /-- Packets handed out. -/
  packets : Nat := 0
  /-- Waits begun. -/
  polls : Nat := 0
  deriving DecidableEq, Repr

/-- A cursor and the reader's counts. -/
structure Reader where
  cursor : Cursor
  counts : LocalCounts := {}
  deriving DecidableEq, Repr

namespace Reader

def countPacket (r : Reader) : Reader :=
  { r with counts := { r.counts with packets := r.counts.packets + 1 } }

def countPoll (r : Reader) : Reader :=
  { r with counts := { r.counts with polls := r.counts.polls + 1 } }

/-- Waits until the slot at the cursor is the reader's. -/
def await (r : Reader) (k : Kernel) : Except CaptureError Unit × Reader × Kernel :=
  if r.cursor.isUser k.memory then (.ok (), r, k)
  else
    let waited := k.wait r.cursor.timeout
    match _ : waited.1 with
    | .ok .ready => await r.countPoll waited.2
    | .ok .interrupted => await r.countPoll waited.2
    | .ok .timedOut => (.error .pollTimeout, r.countPoll, waited.2)
    | .ok .failed => (.error .pollFailure, r.countPoll, waited.2)
    | .ok .woken => (.error .closed, r.countPoll, waited.2)
    | .error e => (.error (.syscall .poll e), r.countPoll, waited.2)
termination_by k.script.length
decreasing_by
  all_goals
    rename_i hw
    have hw' : (k.wait r.cursor.timeout).1 = _ := hw
    exact Kernel.script_wait_lt (by simp [hw']) (by simp [hw'])

/-- What a wait leaves: the cursor as it was, and, if it succeeds, a slot of the reader's, reached
without a wait or at the cost of entries of the script. -/
theorem await_facts (r : Reader) (k : Kernel) :
    (r.await k).2.1.cursor = r.cursor ∧
      ((r.await k).1 = .ok () → r.cursor.isUser (r.await k).2.2.memory = true ∧
        ((r.await k).2.2 = k ∨ (r.await k).2.2.script.length < k.script.length)) := by
  fun_induction await r k with
  | case1 r k h => exact ⟨rfl, fun _ => ⟨h, .inl rfl⟩⟩
  | case2 r k _ waited hw ih | case3 r k _ waited hw ih =>
    have hw' : (k.wait r.cursor.timeout).1 = _ := hw
    have hlt : waited.2.script.length < k.script.length :=
      Kernel.script_wait_lt (by simp [hw']) (by simp [hw'])
    refine ⟨ih.1, fun hok => ⟨(ih.2 hok).1, .inr ?_⟩⟩
    rcases (ih.2 hok).2 with he | hl
    · rw [he]; exact hlt
    · exact Nat.lt_trans hl hlt
  | case4 | case5 | case6 | case7 => exact ⟨rfl, by simp⟩

/-- Hands the slot at the cursor back, if it is held, and moves past it. -/
def release (r : Reader) (k : Kernel) : Reader × Kernel :=
  if r.cursor.pendingRelease then
    ({ r with cursor := r.cursor.moveOn }, k.release r.cursor.version r.cursor.base)
  else (r, k)

/-- Hands out the packet under a header. -/
def emit (r : Reader) (k : Kernel) (h : Header) : Except CaptureError Frame × Reader × Kernel :=
  (.ok (r.cursor.frame k.memory h), r.countPacket, k)

/-- How much is left to look at before the script has to go on. -/
def pending (r : Reader) (k : Kernel) : Nat :=
  2 * r.cursor.freeSlots k.memory + if r.cursor.pendingRelease then 0 else 1

/-- Taking a slot that was the reader's without a wait leaves less to look at. -/
theorem pending_take_lt (r : Reader) (k : Kernel) (counts : LocalCounts)
    (h : (r.release k).1.cursor.isUser (r.release k).2.memory = true) :
    pending ⟨(r.release k).1.cursor.take (r.release k).2.memory, counts⟩ (r.release k).2 <
      pending r k := by
  unfold release at h ⊢
  unfold pending
  cases hp : r.cursor.pendingRelease
  · simp only [hp, Bool.false_eq_true, ↓reduceIte] at h ⊢
    have := r.cursor.freeSlots_take_le k.memory
    rw [(r.cursor.version_take k.memory).2.2.2]
    simp only [↓reduceIte]
    omega
  · simp only [hp, ↓reduceIte, Kernel.memory_release] at h ⊢
    have := Cursor.freeSlots_take_lt h
    rw [(Cursor.version_take ..).2.2.2]
    simp only [↓reduceIte]
    omega

/-- What is left to do: entries of the script, slots, and bytes of the block at the cursor. -/
def work (r : Reader) (k : Kernel) : Nat × Nat × Nat :=
  (k.script.length, r.pending k,
    match r.cursor.block with
    | some p => p.block + r.cursor.geometry.blockSize - p.packet
    | none => 0)

/-- The order of what is left to do. -/
abbrev WorkLt : Nat × Nat × Nat → Nat × Nat × Nat → Prop :=
  Prod.Lex (· < ·) (Prod.Lex (· < ·) (· < ·))

/-- A step of a claim has used up entries of the script, or a slot. -/
theorem claim_step_lt (r : Reader) (k : Kernel)
    (h : ((r.release k).1.await (r.release k).2).1 = .ok ()) :
    let waited := (r.release k).1.await (r.release k).2
    let taken := { waited.2.1 with cursor := waited.2.1.cursor.take waited.2.2.memory }
    Prod.Lex (· < ·) (· < ·) (waited.2.2.script.length, taken.pending waited.2.2)
      (k.script.length, r.pending k) := by
  have hs : (r.release k).2.script = k.script := by unfold release; split <;> rfl
  obtain ⟨hc, hu⟩ := await_facts (r.release k).1 (r.release k).2
  obtain ⟨hu, hk⟩ := hu h
  dsimp only
  rcases hk with hk | hk
  · rw [hk] at hu
    rw [hk, hc, hs]
    exact Prod.Lex.right _ (pending_take_lt r k _ hu)
  · exact Prod.Lex.left _ _ (hs ▸ hk)

/-- Takes the next slot with a packet in it, after handing back the one held so far. Slots that
turn out empty are passed over. -/
def claim (r : Reader) (k : Kernel) : Except CaptureError Frame × Reader × Kernel :=
  let freed := r.release k
  let waited := freed.1.await freed.2
  match _ : waited.1 with
  | .error e => (.error e, waited.2)
  | .ok () =>
    let mem := waited.2.2.memory
    let header := waited.2.1.cursor.header mem
    let taken := { waited.2.1 with cursor := waited.2.1.cursor.take mem }
    if header.length mem = 0 then claim taken waited.2.2
    else taken.emit waited.2.2 header
termination_by (k.script.length, r.pending k)
decreasing_by
  rename_i h _
  exact claim_step_lt r k h

/-- A claim that yields a packet leaves less to do. -/
theorem claim_ok_lt (r : Reader) (k : Kernel) {f : Frame} (h : (r.claim k).1 = .ok f) :
    Prod.Lex (· < ·) (· < ·)
      ((r.claim k).2.2.script.length, (r.claim k).2.1.pending (r.claim k).2.2)
      (k.script.length, r.pending k) := by
  fun_induction claim r k with
  | case1 => simp at h
  | case2 r k freed waited hw mem header taken hz ih =>
    have hs := claim_step_lt r k hw
    have hr := ih h
    change Prod.Lex _ _ (waited.2.2.script.length, taken.pending waited.2.2) _ at hs
    rw [Prod.lex_def] at hs hr ⊢
    dsimp only at hs hr ⊢
    omega
  | case3 r k freed waited hw mem header taken hz => exact claim_step_lt r k hw

def next (r : Reader) (k : Kernel) : Except CaptureError Frame × Reader × Kernel :=
  let walked := r.cursor.walk k.memory
  let r := { r with cursor := walked.1 }
  match walked.2 with
  | some header => r.emit k header
  | none => r.claim k

/-- A packet read leaves less to do. -/
theorem next_ok_lt (r : Reader) (k : Kernel) {f : Frame} (h : (r.next k).1 = .ok f) :
    WorkLt ((r.next k).2.1.work (r.next k).2.2) (r.work k) := by
  have hp (c : LocalCounts) :
      pending ⟨(r.cursor.walk k.memory).1, c⟩ k = r.pending k := by
    unfold pending
    rw [Cursor.freeSlots_walk, (Cursor.slot_walk ..).2.2.2]
  unfold next at h ⊢
  dsimp only at h ⊢
  cases hw : (r.cursor.walk k.memory).2 with
  | some header =>
    obtain ⟨p, q, hb, hq, he⟩ := Cursor.walk_eq_some hw
    have hbounds := BlockPosition.advance?_bounds hq
    refine Prod.Lex.right _ ?_
    change Prod.Lex _ _ (pending ⟨(r.cursor.walk k.memory).1, r.countPacket.counts⟩ k, _) _
    rw [hp, he, hb]
    refine Prod.Lex.right _ ?_
    dsimp only
    change q.block + r.cursor.geometry.blockSize - q.packet < _
    omega
  | none =>
    rw [hw] at h
    have hc := claim_ok_lt _ _ h
    rw [hp, Prod.lex_def] at hc
    dsimp only at hc
    rcases hc with hc | ⟨hs, hc⟩
    · exact Prod.Lex.left _ _ hc
    · unfold work
      rw [hs]
      exact Prod.Lex.right _ (Prod.Lex.left _ _ hc)

end Reader

end PacketRing
