import Mathlib
import PacketRing.Proofs.BlockReads
import PacketRing.Proofs.Delivery

/-!
# Between two reads

Where a cursor can stand while no read goes on, whatever is in memory.

* `Cursor.Free`, `Cursor.Holding` : it holds no slot, or one of which it handed out a packet;
* `Cursor.view` : the header of that packet, which lies in the slot (`Holding.view_inside`,
  `Holding.view_record`);
* `Reader.next_settles` : a read with a packet ends with its slot held, one that fails ends free;
* `Reader.Reached` : the readers that reads come to (`Reached.settled`);
* `Kernel.Waited`, `Reader.Goes` : what waits leave of the kernel, and runs of reads, which do
  nothing else to it (`Goes.waited`);
* `Reader.Polls` : the reader counts the polls that the kernel logs (`polls_next`).
-/

namespace PacketRing

/-! ## Cursors -/

/-- The record at `p` has its header in the block at `base`, and is one that the descriptor
announces. -/
structure BlockPosition.Within (base blockSize : Nat) (p : BlockPosition) : Prop where
  block : p.block = base
  low : base ≤ p.packet
  high : p.packet + headerSize ≤ base + blockSize
  used : p.used < p.total

namespace Cursor

/-- The header of the packet handed out last. -/
def view (c : Cursor) : Header :=
  match c.block with
  | some p => .ofPosition c.geometry.blockSize p
  | none => .ofFrame c.version c.base c.geometry.frameSize

/-- No slot is held. -/
structure Free (c : Cursor) : Prop where
  index : c.index < c.round
  phase : c.phase ≠ .haveHeader
  pendingRelease : c.pendingRelease = false
  block : c.block = none

/-- A slot is held, of which a packet was handed out: in v3 one of its records. -/
structure Holding (c : Cursor) : Prop where
  index : c.index < c.round
  phase : c.phase = .haveHeader
  pendingRelease : c.pendingRelease = true
  frame : c.block = none → c.version ≠ .v3
  block : ∀ p, c.block = some p → c.version = .v3 ∧ p.Within c.base c.geometry.blockSize

/-- Nothing of the slot at the cursor is left to hand out, and it may have to go back. -/
structure Passing (c : Cursor) : Prop where
  index : c.index < c.round
  phase : c.phase ≠ .haveHeader
  block : c.pendingRelease = false → c.block = none

variable {c : Cursor} {mem : Region} {hd : Header}

theorem free_start (c : Cursor) : c.start.Free :=
  ⟨Nat.lt_of_lt_of_le Nat.one_pos (Nat.le_max_right ..), nofun, rfl, rfl⟩

theorem Free.passing (h : c.Free) : c.Passing := ⟨h.index, h.phase, fun _ => h.block⟩

theorem Free.walk (h : c.Free) (mem : Region) : c.walk mem = (c, none) :=
  walk_of_phase_ne h.phase mem

/-! ### Taking a slot -/

theorem Free.passing_take (h : c.Free) (hl : (c.header mem).length mem = 0) :
    (c.take mem).Passing := by
  refine ⟨?_, phase_take_of_length_zero hl, fun hp => ?_⟩
  · rw [take, if_pos hl]
    exact h.index
  · rw [take, if_pos hl] at hp
    cases hp

theorem take_of_length_ne (hl : (c.header mem).length mem ≠ 0) :
    c.take mem =
      { c with
        pendingRelease := true
        phase := .haveHeader
        block := if c.version = .v3 then some (.first mem c.base c.geometry.blockSize)
          else none } := if_neg hl

theorem within_first {base blockSize : Nat}
    (h : (BlockPosition.first mem base blockSize).total ≠ 0) :
    (BlockPosition.first mem base blockSize).Within base blockSize := by
  obtain ⟨hlow, hhigh⟩ := BlockPosition.first_inside h
  exact ⟨rfl, hlow, hhigh, Nat.pos_of_ne_zero h⟩

/-- The view of a slot that was taken is the header at its front. -/
theorem view_take (hb : c.block = none) (hl : (c.header mem).length mem ≠ 0) :
    (c.take mem).view = c.header mem := by
  rw [take_of_length_ne hl]
  obtain ⟨v, g, snap, t, i, ph, pr, bl⟩ := c
  cases v <;> rfl

theorem Free.holding_take (h : c.Free) (hl : (c.header mem).length mem ≠ 0) :
    (c.take mem).Holding := by
  rw [take_of_length_ne hl]
  by_cases hv : c.version = .v3
  · rw [if_pos hv]
    have hfirst : (BlockPosition.first mem c.base c.geometry.blockSize).total ≠ 0 := by
      intro hz
      apply hl
      rw [header_of_v3 hv]
      unfold Header.length Header.ofPosition
      rw [hz]
      rfl
    refine ⟨h.index, rfl, rfl, nofun, ?_⟩
    rintro p ⟨⟩
    exact ⟨hv, within_first hfirst⟩
  · rw [if_neg hv]
    exact ⟨h.index, rfl, rfl, fun _ => hv, nofun⟩

/-! ### The header of a packet handed out -/

theorem Holding.view_inside (h : c.Holding) :
    c.view.version = c.version ∧ c.view.slot = c.base ∧ c.view.vacant = false ∧
      c.view.limit = c.offset (c.index + 1) := by
  unfold view
  cases hb : c.block with
  | none =>
    have hv := h.frame hb
    refine ⟨rfl, rfl, rfl, ?_⟩
    rw [c.offset_succ]
    cases hc : c.version with
    | v1 | v2 => simp [Header.ofFrame, Geometry.slotSize, base, offset, hc]
    | v3 => exact absurd hc hv
  | some p =>
    obtain ⟨hv, hin⟩ := h.block p hb
    have hused := hin.used
    refine ⟨hv.symm, hin.block, ?_, ?_⟩
    · simp only [Header.ofPosition, beq_eq_false_iff_ne]
      omega
    · rw [offset_succ_of_v3 hv]
      simp only [Header.ofPosition, hin.block, base, offset]

/-- It is the frame's, or that of a record in the block. -/
theorem Holding.view_record (h : c.Holding) :
    (c.version ≠ .v3 → c.view.record = c.base) ∧
      (c.version = .v3 → c.base ≤ c.view.record ∧
        c.view.record + BlockPosition.headerSize ≤ c.offset (c.index + 1)) := by
  unfold view
  cases hb : c.block with
  | none => exact ⟨fun _ => rfl, fun hv => absurd hv (h.frame hb)⟩
  | some p =>
    obtain ⟨hv, hin⟩ := h.block p hb
    refine ⟨fun hne => absurd hv hne, fun _ => ⟨hin.low, ?_⟩⟩
    rw [offset_succ_of_v3 hv]
    exact hin.high

theorem Holding.base_le_record (h : c.Holding) : c.base ≤ c.view.record := by
  obtain ⟨hframe, hblock⟩ := h.view_record
  by_cases hv : c.version = .v3
  · exact (hblock hv).1
  · exact (hframe hv).ge

/-! ### Walking on -/

theorem Holding.walk_some (h : c.Holding) (hw : (c.walk mem).2 = some hd) :
    (c.walk mem).1.Holding ∧ (c.walk mem).1.view = hd := by
  obtain ⟨p, q, hb, hq, he⟩ := walk_eq_some hw
  obtain ⟨hv, hin⟩ := h.block p hb
  obtain ⟨hblock, htotal, -, hused, hlt, hle⟩ := BlockPosition.advance?_bounds hq
  rw [he] at hw ⊢
  cases hw
  refine ⟨⟨h.index, h.phase, h.pendingRelease, nofun, ?_⟩, rfl⟩
  rintro p' ⟨⟩
  exact ⟨hv, hblock.trans hin.block, hin.low.trans hlt.le, hin.block ▸ hle, hused⟩

theorem Holding.walk_none (h : c.Holding) (hw : (c.walk mem).2 = none) :
    (c.walk mem).1.Passing := by
  obtain ⟨hv, hg, hi, hp⟩ := c.slot_walk mem
  refine ⟨?_, (rest_of_walk_none hw).2, fun hn => ?_⟩
  · unfold round
    rw [hi, hg, hv]
    exact h.index
  · rw [hp, h.pendingRelease] at hn
    cases hn

end Cursor

/-! ## Reads -/

namespace Reader

variable {r : Reader} {k : Kernel}

theorem free_release (h : r.cursor.Passing) : (r.release k).1.cursor.Free := by
  cases hp : r.cursor.pendingRelease with
  | true =>
    rw [release_of_pending hp]
    exact ⟨r.cursor.index_moveOn_lt, h.phase, rfl, rfl⟩
  | false =>
    rw [release_of_not_pending hp]
    exact ⟨h.index, h.phase, hp, h.block hp⟩

/-- How a read ends: with a packet, whose slot is then held, or free. -/
def Settles (read : Except CaptureError Frame × Reader × Kernel) : Prop :=
  match read.1 with
  | .ok f =>
    read.2.1.cursor.Holding ∧ f = read.2.1.cursor.frame read.2.2.memory read.2.1.cursor.view
  | .error _ => read.2.1.cursor.Free

theorem settles_emit {hd : Header} (h : r.cursor.Holding) (hv : r.cursor.view = hd) :
    Settles (r.emit k hd) := ⟨h, hv ▸ rfl⟩

theorem claim_settles (r : Reader) (k : Kernel) (h : r.cursor.Passing) : Settles (r.claim k) := by
  induction r, k using claim_induct with
  | packet r k hu hl =>
    have hfree := free_release (k := k) h
    rw [claim_of_packet hu hl]
    exact settles_emit (hfree.holding_take hl) (Cursor.view_take hfree.block hl)
  | empty r k hu hl ih =>
    rw [claim_of_empty hu hl]
    exact ih ((free_release h).passing_take hl)
  | retry r k hu hv ih =>
    rw [claim_of_retry hu hv]
    exact ih (free_release h).passing
  | stop r k e hu hv =>
    rw [claim_of_stop hu hv]
    exact free_release (k := k) h

theorem next_settles (h : r.cursor.Free ∨ r.cursor.Holding) : Settles (r.next k) := by
  cases hw : (r.cursor.walk k.memory).2 with
  | some hd =>
    rw [next_of_walk_some hw]
    rcases h with h | h
    · rw [h.walk] at hw
      cases hw
    · obtain ⟨hholding, hview⟩ := h.walk_some hw
      exact settles_emit hholding hview
  | none =>
    rw [next_of_walk_none hw]
    refine claim_settles _ _ ?_
    rcases h with h | h
    · rw [h.walk]
      exact h.passing
    · exact h.walk_none hw

theorem settled_next (h : r.cursor.Free ∨ r.cursor.Holding) :
    (r.next k).2.1.cursor.Free ∨ (r.next k).2.1.cursor.Holding := by
  have hend := next_settles (k := k) h
  unfold Settles at hend
  split at hend
  · exact Or.inr hend.1
  · exact Or.inl hend

/-- With no slot held and none to take, a read ends as its first wait does. -/
theorem next_of_stop {e : CaptureError} (h : r.cursor.Free)
    (hu : ¬ r.cursor.isUser k.memory = true)
    (hv : verdict (k.wait r.cursor.timeout).1 = some e) :
    r.next k = (.error e, r.countPoll, (k.wait r.cursor.timeout).2) := by
  have hstop := claim_of_stop (r := r) (k := k) (e := e)
  rw [release_of_not_pending h.pendingRelease] at hstop
  rw [next_of_walk_none (by rw [h.walk]), h.walk]
  exact hstop hu hv

/-- The readers that reads come to from a cursor like `c`, whatever the kernel is at each. -/
inductive Reached (c : Cursor) : Reader → Prop where
  | start : Reached c { cursor := c.start }
  | next {r : Reader} (k : Kernel) : Reached c r → Reached c (r.next k).2.1

theorem Reached.settled {c : Cursor} (h : Reached c r) :
    r.cursor.start = c.start ∧ (r.cursor.Free ∨ r.cursor.Holding) := by
  induction h with
  | start => exact ⟨rfl, Or.inl c.free_start⟩
  | next k _ ih => exact ⟨(start_next ..).trans ih.1, settled_next ih.2⟩

theorem Reached.index_lt {c : Cursor} (h : Reached c r) : r.cursor.index < r.cursor.round :=
  h.settled.2.elim (·.index) (·.index)

end Reader

/-! ## Calls -/

namespace Call

def isPoll : Call → Bool
  | .poll .. => true
  | _ => false

/-- The call asks for the kernel's counts. -/
def isQuery : Call → Bool
  | .getOption .. => true
  | _ => false

/-- The call gives back what an open acquired: it wakes the reader, or unmaps the ring. -/
def isRelease : Call → Bool
  | .wake _ | .unmap _ => true
  | _ => false

/-- The call sends a frame or sets an option. -/
def isRequest : Call → Bool
  | .write _ | .setOption _ => true
  | _ => false

theorem isPoll_of_isRelease {c : Call} (h : c.isRelease = true) : c.isPoll = false := by
  cases c <;> first | rfl | cases h

theorem isPoll_of_isQuery {c : Call} (h : c.isQuery = true) : c.isPoll = false := by
  cases c <;> first | rfl | cases h

theorem isRelease_of_isRequest {c : Call} (h : c.isRequest = true) : c.isRelease = false := by
  cases c <;> first | rfl | cases h

theorem isQuery_of_isRequest {c : Call} (h : c.isRequest = true) : c.isQuery = false := by
  cases c <;> first | rfl | cases h

end Call

/-- The call that wakes a reader. -/
def wakeCall : Call := .wake (toLE 8 1)

@[simp] theorem isRelease_wakeCall : wakeCall.isRelease = true := rfl

/-! ## What reads do to the kernel -/

namespace Kernel

/-- What waits and released slots make of a kernel: the log has more polls, and a wake if the
reader was woken in one of them. -/
structure Waited (k k' : Kernel) : Prop where
  calls : ∃ added, k'.calls = k.calls ++ added ∧
    added.filter (!·.isPoll) = if k'.woken && !k.woken then [wakeCall] else []
  woken : k.woken = true → k'.woken = true
  socketOpen : k'.socketOpen = k.socketOpen
  mapped : k'.mapping.isSome = k.mapping.isSome
  size : k'.memory.size = k.memory.size

variable {k k' k'' : Kernel}

/-- Of calls that are no polls, waits log but the wake. -/
theorem filter_of_polls {added : List Call} {p : Call → Bool} {woken woken' : Bool}
    (hp : ∀ c, p c = true → c.isPoll = false)
    (h : added.filter (!·.isPoll) = if woken' && !woken then [wakeCall] else []) :
    added.filter p = if woken' && !woken then [wakeCall].filter p else [] := by
  have hsub : added.filter p = (added.filter (!·.isPoll)).filter p := by
    rw [List.filter_filter]
    refine List.filter_congr fun c _ => ?_
    cases hc : p c with
    | false => rfl
    | true => simp [hp c hc]
  rw [hsub, h]
  split <;> rfl

theorem Waited.refl (k : Kernel) : k.Waited k :=
  ⟨⟨[], by simp, by cases k.woken <;> rfl⟩, id, rfl, rfl, rfl⟩

theorem Waited.trans (h : k.Waited k') (h' : k'.Waited k'') : k.Waited k'' := by
  obtain ⟨added, hcalls, hadded⟩ := h.calls
  obtain ⟨added', hcalls', hadded'⟩ := h'.calls
  refine ⟨⟨added ++ added', ?_, ?_⟩, fun hw => h'.woken (h.woken hw),
    h'.socketOpen.trans h.socketOpen, h'.mapped.trans h.mapped, h'.size.trans h.size⟩
  · rw [hcalls', hcalls, List.append_assoc]
  · have hw := h.woken
    have hw' := h'.woken
    rw [List.filter_append, hadded, hadded']
    cases hk : k.woken <;> cases hk' : k'.woken <;> cases hk'' : k''.woken <;> simp_all

theorem size_memory_withMemory (k : Kernel) {mem : Region} (h : mem.size = k.memory.size) :
    (k.withMemory mem).memory.size = k.memory.size := by
  cases hm : k.mapping with
  | none => simp [withMemory, memory, hm]
  | some old => rw [memory_withMemory (by rw [hm]; rfl), h]

theorem waited_withMemory (k : Kernel) {mem : Region} (h : mem.size = k.memory.size) :
    k.Waited (k.withMemory mem) :=
  ⟨(Waited.refl k).calls, id, rfl, mapped_withMemory k mem, k.size_memory_withMemory h⟩

theorem waited_release (k : Kernel) (v : Version) (base : Nat) : k.Waited (k.release v base) :=
  waited_withMemory k (size_clearSlot ..)

theorem waited_deliver (k : Kernel) (writes : List Store) : k.Waited (k.deliver writes) :=
  waited_withMemory k (Region.size_stored ..)

theorem waited_log {c : Call} (k : Kernel) (h : c.isPoll = true) : k.Waited (k.log c) :=
  ⟨⟨[c], rfl, by cases hw : k.woken <;> simp [log, h, hw]⟩, id, rfl, rfl, rfl⟩

theorem waited_flags (k : Kernel) (script : List PollStep) (running : Bool) (idle : Idle) :
    k.Waited { k with script, running, idle } :=
  ⟨(Waited.refl k).calls, id, rfl, rfl, rfl⟩

theorem waited_settle (k : Kernel) (outcome : PollOutcome) : k.Waited (k.settle outcome).2 := by
  cases outcome with
  | block =>
    cases hk : k.woken with
    | true =>
      unfold settle
      rw [hk, if_pos rfl]
      exact .refl k
    | false =>
      unfold settle
      rw [hk, if_neg Bool.false_ne_true]
      exact ⟨⟨[wakeCall], rfl, by rw [hk]; rfl⟩, fun _ => rfl, rfl, rfl, rfl⟩
  | fail | timeout | events => exact .refl k

/-- A poll that blocks ends as the reader is woken. -/
theorem wait_of_block {step : PollStep} {rest : List PollStep}
    (h : k.script = { step with outcome := .block } :: rest) (t : Int) :
    (k.wait t).1 = .ok .woken ∧ (k.wait t).2.woken = true := by
  have hsettle : ∀ k : Kernel, (k.settle .block).1 = .ok (0, pollIn) ∧
      (k.settle .block).2.woken = true := by
    intro k
    cases hw : k.woken with
    | true => simp [settle, hw]
    | false => simp [settle, hw, wake]
  have hpoll : (k.poll t).1 = .ok (0, pollIn) ∧ (k.poll t).2.woken = true := by
    unfold poll log
    simp only [h]
    exact hsettle _
  unfold wait
  split
  · simp_all
  · simp_all [readiness, hasBit, pollIn]

theorem waited_poll (k : Kernel) (t : Int) : k.Waited (k.poll t).2 := by
  have hlog : k.Waited (k.log (.poll t pollIn pollIn)) := waited_log k rfl
  unfold poll
  dsimp only
  split
  · exact hlog
  · next s rest hs =>
    refine hlog.trans (.trans ?_ (waited_settle _ _))
    have hflags := waited_flags (k.log (.poll t pollIn pollIn)) rest
      (if s.stop then false else k.running) k.idle
    refine hflags.trans ?_
    split
    · exact waited_deliver _ _
    · exact waited_deliver _ _

theorem waited_wait (k : Kernel) (t : Int) : k.Waited (k.wait t).2 := by
  have h := waited_poll k t
  unfold wait
  split <;> simp_all

end Kernel

/-! ## Runs of reads -/

namespace Reader

variable {r r' : Reader} {k k' : Kernel}

theorem waited_release (r : Reader) (k : Kernel) : k.Waited (r.release k).2 := by
  unfold release
  split
  · exact Kernel.waited_release ..
  · exact .refl k

theorem waited_claim (r : Reader) (k : Kernel) : k.Waited (r.claim k).2.2 := by
  induction r, k using claim_induct with
  | packet r k hu hl =>
    rw [claim_of_packet hu hl]
    exact waited_release r k
  | empty r k hu hl ih =>
    rw [claim_of_empty hu hl]
    exact (waited_release r k).trans ih
  | retry r k hu hv ih =>
    rw [claim_of_retry hu hv]
    exact ((waited_release r k).trans (Kernel.waited_wait ..)).trans ih
  | stop r k e hu hv =>
    rw [claim_of_stop hu hv]
    exact (waited_release r k).trans (Kernel.waited_wait ..)

theorem waited_next (r : Reader) (k : Kernel) : k.Waited (r.next k).2.2 := by
  cases hw : (r.cursor.walk k.memory).2 with
  | some hd =>
    rw [next_of_walk_some hw]
    exact .refl k
  | none =>
    rw [next_of_walk_none hw]
    exact waited_claim ..

/-- `Goes r k r' k'` : reads, one after the other, take the reader from `r` to `r'`. The flags of a
capture loop may change in between. -/
inductive Goes (r : Reader) (k : Kernel) : Reader → Kernel → Prop where
  | refl : Goes r k r k
  | next {r' : Reader} {k' : Kernel} :
    Goes r k r' k' → Goes r k (r'.next k').2.1 (r'.next k').2.2
  | flags {r' : Reader} {k' : Kernel} (running : Bool) (idle : Idle) :
    Goes r k r' k' → Goes r k r' { k' with running, idle }

theorem Goes.trans {r'' : Reader} {k'' : Kernel} (h : Goes r k r' k') (h' : Goes r' k' r'' k'') :
    Goes r k r'' k'' := by
  induction h' with
  | refl => exact h
  | next _ ih => exact ih.next
  | flags running idle _ ih => exact ih.flags running idle

theorem Goes.waited (h : Goes r k r' k') : k.Waited k' := by
  induction h with
  | refl => exact .refl k
  | next _ ih => exact ih.trans (waited_next ..)
  | flags running idle _ ih => exact ih.trans (Kernel.waited_flags _ _ running idle)

theorem Goes.reached {c : Cursor} (h : Goes r k r' k') (hr : Reached c r) : Reached c r' := by
  induction h with
  | refl => exact hr
  | next _ ih => exact ih.next _
  | flags _ _ _ ih => exact ih

end Reader

/-! ## Counting polls -/

/-- A wait logs its poll, which asks for packets and for the wake, and no other. -/
theorem Kernel.calls_wait (k : Kernel) (t : Int) :
    ∃ added, (k.wait t).2.calls = k.calls ++ added ∧
      added.filter Call.isPoll = [.poll t pollIn pollIn] := by
  have hsettle : ∀ (k : Kernel) (o : PollOutcome),
      ∃ added, (k.settle o).2.calls = k.calls ++ added ∧ added.filter Call.isPoll = [] := by
    intro k o
    cases o with
    | block =>
      simp only [settle]
      split
      · exact ⟨[], (List.append_nil _).symm, rfl⟩
      · exact ⟨[wakeCall], rfl, rfl⟩
    | fail | timeout | events => exact ⟨[], (List.append_nil _).symm, rfl⟩
  have hpoll : ∃ added, (k.poll t).2.calls = k.calls ++ added ∧
      added.filter Call.isPoll = [.poll t pollIn pollIn] := by
    unfold poll
    dsimp only
    split
    · exact ⟨[.poll t pollIn pollIn], rfl, rfl⟩
    · next s rest hs =>
      obtain ⟨added, hcalls, hadded⟩ := hsettle
        (if s.stop then
          { { k.log (.poll t pollIn pollIn) with script := rest }.deliver s.writes with
            running := false }
        else { k.log (.poll t pollIn pollIn) with script := rest }.deliver s.writes) s.outcome
      refine ⟨.poll t pollIn pollIn :: added, ?_, ?_⟩
      · rw [hcalls]
        split <;> simp [deliver, withMemory, log]
      · rw [List.filter_cons_of_pos rfl, hadded]
  unfold wait
  split <;> simp_all

/-- From `r` and `k` to `r'` and `k'` the reader counted as many polls as the kernel logged. -/
def Reader.Polls (r : Reader) (k : Kernel) (r' : Reader) (k' : Kernel) : Prop :=
  ∃ added, k'.calls = k.calls ++ added ∧
    r'.counts.polls = r.counts.polls + added.countP Call.isPoll

namespace Reader

variable {r r' r'' : Reader} {k k' k'' : Kernel}

theorem Polls.refl (r : Reader) (k : Kernel) : r.Polls k r k := ⟨[], by simp⟩

theorem Polls.trans (h : r.Polls k r' k') (h' : r'.Polls k' r'' k'') : r.Polls k r'' k'' := by
  obtain ⟨added, hcalls, hpolls⟩ := h
  obtain ⟨added', hcalls', hpolls'⟩ := h'
  refine ⟨added ++ added', ?_, ?_⟩
  · rw [hcalls', hcalls, List.append_assoc]
  · rw [hpolls', hpolls, List.countP_append, Nat.add_assoc]

theorem polls_release (r : Reader) (k : Kernel) : r.Polls k (r.release k).1 (r.release k).2 := by
  unfold release
  split <;> exact ⟨[], by simp [Kernel.release, Kernel.withMemory]⟩

theorem polls_wait (r : Reader) (k : Kernel) (t : Int) : r.Polls k r.countPoll (k.wait t).2 := by
  obtain ⟨added, hcalls, hadded⟩ := k.calls_wait t
  exact ⟨added, hcalls, by rw [List.countP_eq_length_filter, hadded]; rfl⟩

theorem polls_claim (r : Reader) (k : Kernel) : r.Polls k (r.claim k).2.1 (r.claim k).2.2 := by
  induction r, k using claim_induct with
  | packet r k hu hl =>
    rw [claim_of_packet hu hl]
    exact polls_release r k
  | empty r k hu hl ih =>
    rw [claim_of_empty hu hl]
    exact (polls_release r k).trans ih
  | retry r k hu hv ih =>
    rw [claim_of_retry hu hv]
    exact ((polls_release r k).trans (polls_wait ..)).trans ih
  | stop r k e hu hv =>
    rw [claim_of_stop hu hv]
    exact (polls_release r k).trans (polls_wait ..)

theorem polls_next (r : Reader) (k : Kernel) : r.Polls k (r.next k).2.1 (r.next k).2.2 := by
  cases hw : (r.cursor.walk k.memory).2 with
  | some hd =>
    rw [next_of_walk_some hw]
    exact .refl r k
  | none =>
    rw [next_of_walk_none hw]
    exact polls_claim _ k

theorem Goes.polls (h : Goes r k r' k') : r.Polls k r' k' := by
  induction h with
  | refl => exact .refl r k
  | next _ ih => exact ih.trans (polls_next ..)
  | flags running idle _ ih => exact ih

end Reader

end PacketRing
