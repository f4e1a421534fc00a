import Mathlib
import PacketRing.Capture.Reader

/-!
# A read, poll by poll

Between two polls of a read nothing happens in memory but what the reader does itself. So a read is
cut at its polls.

* `Reader.claim_of_packet`, `claim_of_empty`, `claim_of_retry`, `claim_of_stop` : what a claim does
  at the slot it looks at, and `Reader.claim_induct`, the induction over them;
* `Kernel.cut` : the kernel with its script cut short. A wait of a cut script is the wait of the
  whole one (`wait_cut`);
* `found` and `polled` : what a poll of a read finds in memory, and how many there are that the
  script has an entry for;
* `GoesOn` : a read is, from some point on, another one (`goesOn_of_empty`, `goesOn_of_walk_none`).
-/

namespace PacketRing

namespace Region

def stored (mem : Region) (writes : List Store) : Region :=
  writes.foldl (fun mem w => mem.store w.offset w.bytes) mem

theorem size_stored (mem : Region) (writes : List Store) : (mem.stored writes).size = mem.size := by
  induction writes generalizing mem with
  | nil => rfl
  | cons w writes ih => exact (ih _).trans (size_store ..)

theorem byte_stored_of_disjoint {writes : List Store} {x : Nat} (mem : Region)
    (h : ∀ w ∈ writes, x < w.offset ∨ w.offset + w.bytes.length ≤ x) :
    (mem.stored writes).byte x = mem.byte x := by
  induction writes generalizing mem with
  | nil => rfl
  | cons w writes ih =>
    refine (ih _ fun w' hw' => h w' (List.mem_cons_of_mem _ hw')).trans ?_
    exact byte_store_of_disjoint (h w List.mem_cons_self)

end Region

/-! ## The mapping during a wait -/

namespace Kernel

variable {k : Kernel} {mem : Region} {t : Int} {s : PollStep} {rest : List PollStep} {n : Nat}

theorem memory_withMemory (hm : k.mapping.isSome) (mem : Region) :
    (k.withMemory mem).memory = mem := by
  obtain ⟨old, ho⟩ := Option.isSome_iff_exists.1 hm
  simp [withMemory, memory, ho]

@[simp] theorem mapped_withMemory (k : Kernel) (mem : Region) :
    (k.withMemory mem).mapping.isSome = k.mapping.isSome := by
  simp [withMemory]

@[simp] theorem mapped_release (k : Kernel) (v : Version) (base : Nat) :
    (k.release v base).mapping.isSome = k.mapping.isSome := mapped_withMemory ..

@[simp] theorem mapping_settle (k : Kernel) (o : PollOutcome) :
    (k.settle o).2.mapping = k.mapping := by
  cases o <;> simp only [settle]
  split <;> rfl

theorem mapping_wait_nil (h : k.script = []) (t : Int) : (k.wait t).2.mapping = k.mapping := by
  unfold wait poll log
  simp only [h]

theorem mapping_wait_cons (h : k.script = s :: rest) (t : Int) :
    (k.wait t).2.mapping = (k.deliver s.writes).mapping := by
  have hp : (k.poll t).2.mapping = (k.deliver s.writes).mapping := by
    unfold poll log
    simp only [h, mapping_settle]
    split <;> rfl
  unfold wait
  split <;> simp_all

theorem mapped_wait (k : Kernel) (t : Int) :
    (k.wait t).2.mapping.isSome = k.mapping.isSome := by
  cases h : k.script with
  | nil => rw [mapping_wait_nil h]
  | cons s rest => rw [mapping_wait_cons h, deliver, mapped_withMemory]

theorem memory_wait_nil (h : k.script = []) (t : Int) : (k.wait t).2.memory = k.memory := by
  unfold memory
  rw [mapping_wait_nil h]

theorem memory_wait_cons (hm : k.mapping.isSome) (h : k.script = s :: rest) (t : Int) :
    (k.wait t).2.memory = k.memory.stored s.writes := by
  rw [memory, mapping_wait_cons h]
  exact memory_withMemory hm _

/-! ## Cutting the script -/

/-- The kernel with only the first `n` entries of its script. -/
def cut (k : Kernel) (n : Nat) : Kernel := { k with script := k.script.take n }

theorem script_cut (k : Kernel) (n : Nat) : (k.cut n).script = k.script.take n := rfl

theorem release_cut (k : Kernel) (n : Nat) (v : Version) (base : Nat) :
    (k.cut n).release v base = (k.release v base).cut n := rfl

theorem settle_cut (k : Kernel) (n : Nat) (o : PollOutcome) :
    (k.cut n).settle o = ((k.settle o).1, (k.settle o).2.cut n) := by
  cases o with
  | block =>
    simp only [settle]
    rw [show (k.cut n).woken = k.woken from rfl]
    split <;> rfl
  | _ => rfl

/-- A wait that has an entry in the cut script goes as it goes with the whole one. -/
theorem wait_cut (h : k.script ≠ []) (n : Nat) (t : Int) :
    (k.cut (n + 1)).wait t = ((k.wait t).1, (k.wait t).2.cut n) := by
  obtain ⟨s, rest, h⟩ := List.exists_cons_of_ne_nil h
  have hp : (k.cut (n + 1)).poll t = ((k.poll t).1, (k.poll t).2.cut n) := by
    unfold poll log
    simp only [script_cut, h, List.take_succ_cons]
    rw [← settle_cut]
    congr 1
    split <;> rfl
  unfold wait
  rw [hp]
  obtain ⟨result, k'⟩ := k.poll t
  cases result <;> rfl

end Kernel

/-! ## A claim at one slot -/

namespace Reader

/-- What a read makes of a wait: `none` is another look at the slot. -/
def verdict : Except Errno Readiness → Option CaptureError
  | .ok .ready | .ok .interrupted => none
  | .ok .timedOut => some .pollTimeout
  | .ok .failed => some .pollFailure
  | .ok .woken => some .closed
  | .error e => some (.syscall .poll e)

variable {r r' : Reader} {k k' : Kernel} {e : CaptureError} {n : Nat}

theorem await_of_user (hu : r.cursor.isUser k.memory = true) : r.await k = (.ok (), r, k) := by
  rw [await, if_pos hu]

theorem await_of_retry (hu : ¬ r.cursor.isUser k.memory = true)
    (hv : verdict (k.wait r.cursor.timeout).1 = none) :
    r.await k = r.countPoll.await (k.wait r.cursor.timeout).2 := by
  rw [await, if_neg hu]
  dsimp only
  split
  · rfl
  · rfl
  all_goals next hw => rw [hw] at hv; cases hv

theorem await_of_stop (hu : ¬ r.cursor.isUser k.memory = true)
    (hv : verdict (k.wait r.cursor.timeout).1 = some e) :
    r.await k = (.error e, r.countPoll, (k.wait r.cursor.timeout).2) := by
  rw [await, if_neg hu]
  dsimp only
  split
  all_goals next hw => rw [hw] at hv; cases hv; try rfl

theorem release_of_not_pending (hp : r.cursor.pendingRelease = false) : r.release k = (r, k) := by
  rw [release, hp, if_neg Bool.false_ne_true]

theorem release_of_pending (hp : r.cursor.pendingRelease = true) :
    r.release k =
      ({ r with cursor := r.cursor.moveOn }, k.release r.cursor.version r.cursor.base) := by
  rw [release, if_pos hp]

theorem pendingRelease_release (r : Reader) (k : Kernel) :
    (r.release k).1.cursor.pendingRelease = false := by
  cases hp : r.cursor.pendingRelease with
  | true => rw [release_of_pending hp]; rfl
  | false => rw [release_of_not_pending hp]; exact hp

theorem script_release (r : Reader) (k : Kernel) : (r.release k).2.script = k.script := by
  unfold release
  split <;> rfl

theorem counts_release (r : Reader) (k : Kernel) : (r.release k).1.counts = r.counts := by
  unfold release
  split <;> rfl

theorem mapped_release (r : Reader) (k : Kernel) :
    (r.release k).2.mapping.isSome = k.mapping.isSome := by
  unfold release
  split
  · exact Kernel.mapped_release ..
  · rfl

theorem release_cut (r : Reader) (k : Kernel) (n : Nat) :
    r.release (k.cut n) = ((r.release k).1, (r.release k).2.cut n) := by
  unfold release
  split <;> rfl

theorem claim_congr
    (h : (r.release k).1.await (r.release k).2 = (r'.release k').1.await (r'.release k').2) :
    r.claim k = r'.claim k' := by
  rw [claim, claim]
  dsimp only
  generalize (r.release k).1.await (r.release k).2 = w at h ⊢
  generalize (r'.release k').1.await (r'.release k').2 = w' at h ⊢
  rw [h]

theorem claim_of_packet
    (hu : (r.release k).1.cursor.isUser (r.release k).2.memory = true)
    (hl : ((r.release k).1.cursor.header (r.release k).2.memory).length
      (r.release k).2.memory ≠ 0) :
    r.claim k =
      emit { (r.release k).1 with
          cursor := (r.release k).1.cursor.take (r.release k).2.memory }
        (r.release k).2 ((r.release k).1.cursor.header (r.release k).2.memory) := by
  rw [claim]
  dsimp only
  rw [await_of_user hu]
  dsimp only
  rw [if_neg hl]

theorem claim_of_empty
    (hu : (r.release k).1.cursor.isUser (r.release k).2.memory = true)
    (hl : ((r.release k).1.cursor.header (r.release k).2.memory).length
      (r.release k).2.memory = 0) :
    r.claim k =
      claim { (r.release k).1 with
          cursor := (r.release k).1.cursor.take (r.release k).2.memory }
        (r.release k).2 := by
  rw [claim]
  dsimp only
  rw [await_of_user hu]
  dsimp only
  rw [if_pos hl]

/-- The slot is the kernel's, and the wait for it ends in another look. -/
theorem claim_of_retry
    (hu : ¬ (r.release k).1.cursor.isUser (r.release k).2.memory = true)
    (hv : verdict ((r.release k).2.wait (r.release k).1.cursor.timeout).1 = none) :
    r.claim k =
      (r.release k).1.countPoll.claim ((r.release k).2.wait (r.release k).1.cursor.timeout).2 := by
  refine claim_congr ?_
  rw [await_of_retry hu hv, release_of_not_pending (r := (r.release k).1.countPoll)
    (pendingRelease_release r k)]

/-- The slot is the kernel's, and the wait for it ends the read. -/
theorem claim_of_stop
    (hu : ¬ (r.release k).1.cursor.isUser (r.release k).2.memory = true)
    (hv : verdict ((r.release k).2.wait (r.release k).1.cursor.timeout).1 = some e) :
    r.claim k =
      (.error e, (r.release k).1.countPoll,
        ((r.release k).2.wait (r.release k).1.cursor.timeout).2) := by
  rw [claim]
  dsimp only
  rw [await_of_stop hu hv]

/-- Induction over the slots and polls of a claim. -/
theorem claim_induct {motive : Reader → Kernel → Prop}
    (packet : ∀ r k, (r.release k).1.cursor.isUser (r.release k).2.memory = true →
      ((r.release k).1.cursor.header (r.release k).2.memory).length (r.release k).2.memory ≠ 0 →
      motive r k)
    (empty : ∀ r k, (r.release k).1.cursor.isUser (r.release k).2.memory = true →
      ((r.release k).1.cursor.header (r.release k).2.memory).length (r.release k).2.memory = 0 →
      motive { (r.release k).1 with
          cursor := (r.release k).1.cursor.take (r.release k).2.memory } (r.release k).2 →
      motive r k)
    (retry : ∀ r k, ¬ (r.release k).1.cursor.isUser (r.release k).2.memory = true →
      verdict ((r.release k).2.wait (r.release k).1.cursor.timeout).1 = none →
      motive (r.release k).1.countPoll ((r.release k).2.wait (r.release k).1.cursor.timeout).2 →
      motive r k)
    (stop : ∀ r k e, ¬ (r.release k).1.cursor.isUser (r.release k).2.memory = true →
      verdict ((r.release k).2.wait (r.release k).1.cursor.timeout).1 = some e → motive r k)
    (r : Reader) (k : Kernel) : motive r k := by
  by_cases hu : (r.release k).1.cursor.isUser (r.release k).2.memory = true
  · by_cases hl : ((r.release k).1.cursor.header (r.release k).2.memory).length
        (r.release k).2.memory = 0
    · exact empty r k hu hl (claim_induct packet empty retry stop _ _)
    · exact packet r k hu hl
  · cases hv : verdict ((r.release k).2.wait (r.release k).1.cursor.timeout).1 with
    | none => exact retry r k hu hv (claim_induct packet empty retry stop _ _)
    | some e => exact stop r k e hu hv
termination_by (k.script.length, r.pending k)
decreasing_by
  · rw [script_release]
    exact Prod.Lex.right _ (pending_take_lt r k _ hu)
  · refine Prod.Lex.left _ _ ?_
    rw [← script_release r k]
    refine Kernel.script_wait_lt (fun h => ?_) (fun h => ?_) <;> rw [h] at hv <;> cases hv

/-! ## A read -/

theorem next_of_walk_some {h : Header} (hw : (r.cursor.walk k.memory).2 = some h) :
    r.next k = emit { r with cursor := (r.cursor.walk k.memory).1 } k h := by
  unfold next
  dsimp only
  rw [hw]

theorem next_of_walk_none (hw : (r.cursor.walk k.memory).2 = none) :
    r.next k = claim { r with cursor := (r.cursor.walk k.memory).1 } k := by
  unfold next
  dsimp only
  rw [hw]

end Reader

/-! ## The polls of a read -/

abbrev Reading := Kernel → Except CaptureError Frame × Reader × Kernel

/-- How many polls of a read the script has an entry for. -/
def polled (read : Reading) (k : Kernel) : Nat := k.script.length - (read k).2.2.script.length

/-- What a read finds in memory at its poll number `n`, counted from zero. A read whose script
ends before that poll gives up there, and leaves what the poll finds. -/
def found (read : Reading) (k : Kernel) (n : Nat) : Region := (read (k.cut n)).2.2.memory

theorem polled_eq_zero {read : Reading} {k : Kernel} (h : (read k).2.2.script = k.script) :
    polled read k = 0 := by
  rw [polled, h, Nat.sub_self]

/-- A read is, from here on, another one: their polls find the same, and they end alike. -/
structure GoesOn (read : Reading) (k : Kernel) (read' : Reading) (k' : Kernel) : Prop where
  script : k.script = k'.script
  whole : read k = read' k'
  cut : ∀ n, read (k.cut n) = read' (k'.cut n)

namespace GoesOn

variable {read read' read'' : Reading} {k k' k'' : Kernel}

theorem trans (h : GoesOn read k read' k') (h' : GoesOn read' k' read'' k'') :
    GoesOn read k read'' k'' :=
  ⟨h.script.trans h'.script, h.whole.trans h'.whole, fun n => (h.cut n).trans (h'.cut n)⟩

theorem polled_eq (h : GoesOn read k read' k') : polled read k = polled read' k' := by
  rw [polled, polled, h.script, h.whole]

theorem found_eq (h : GoesOn read k read' k') (n : Nat) : found read k n = found read' k' n := by
  rw [found, found, h.cut]

end GoesOn

namespace Reader

variable {r : Reader} {k : Kernel} {e : CaptureError} {n : Nat}

theorem script_claim_le (r : Reader) (k : Kernel) :
    (r.claim k).2.2.script.length ≤ k.script.length := by
  induction r, k using claim_induct with
  | packet r k hu hl =>
    rw [claim_of_packet hu hl]
    exact (congrArg List.length (script_release r k)).le
  | empty r k hu hl ih =>
    rw [claim_of_empty hu hl]
    exact ih.trans (congrArg List.length (script_release r k)).le
  | retry r k hu hv ih =>
    rw [claim_of_retry hu hv]
    refine ih.trans ?_
    rw [Kernel.script_wait, script_release, List.length_tail]
    exact Nat.sub_le ..
  | stop r k e hu hv =>
    rw [claim_of_stop hu hv]
    show ((r.release k).2.wait _).2.script.length ≤ _
    rw [Kernel.script_wait, script_release, List.length_tail]
    exact Nat.sub_le ..

/-! ### The slot holds a packet -/

theorem polled_of_packet
    (hu : (r.release k).1.cursor.isUser (r.release k).2.memory = true)
    (hl : ((r.release k).1.cursor.header (r.release k).2.memory).length
      (r.release k).2.memory ≠ 0) : polled r.claim k = 0 := by
  refine polled_eq_zero ?_
  rw [claim_of_packet hu hl]
  exact script_release r k

/-! ### The slot is empty -/

theorem goesOn_of_empty
    (hu : (r.release k).1.cursor.isUser (r.release k).2.memory = true)
    (hl : ((r.release k).1.cursor.header (r.release k).2.memory).length
      (r.release k).2.memory = 0) :
    GoesOn r.claim k
      (claim { (r.release k).1 with
        cursor := (r.release k).1.cursor.take (r.release k).2.memory }) (r.release k).2 := by
  refine ⟨(script_release r k).symm, claim_of_empty hu hl, fun n => ?_⟩
  have he := claim_of_empty (r := r) (k := k.cut n)
  rw [release_cut] at he
  exact he hu hl

/-! ### The slot is the kernel's -/

/-- Without a script a claim gives up at its first poll, and memory stays as it was. -/
theorem cut_zero (hu : ¬ (r.release k).1.cursor.isUser (r.release k).2.memory = true) :
    (r.claim (k.cut 0)).2.1.cursor = (r.release k).1.cursor ∧
      found r.claim k 0 = (r.release k).2.memory := by
  have hs : ((r.release k).2.cut 0).script = [] := rfl
  have hv : ∃ e,
      verdict (((r.release k).2.cut 0).wait (r.release k).1.cursor.timeout).1 = some e := by
    rcases Kernel.wait_of_script_nil hs (r.release k).1.cursor.timeout with hw | hw
    · exact ⟨.pollTimeout, by rw [hw]; rfl⟩
    · exact ⟨.closed, by rw [hw]; rfl⟩
  obtain ⟨e, hv⟩ := hv
  have hc := claim_of_stop (r := r) (k := k.cut 0) (e := e)
  rw [release_cut] at hc
  unfold found
  rw [hc hu hv]
  exact ⟨rfl, Kernel.memory_wait_nil hs _⟩

theorem script_of_retry
    (hv : verdict ((r.release k).2.wait (r.release k).1.cursor.timeout).1 = none) :
    ∃ s rest, k.script = s :: rest := by
  rw [← script_release r k]
  refine List.exists_cons_of_ne_nil fun hs => ?_
  rcases Kernel.wait_of_script_nil hs (r.release k).1.cursor.timeout with hw | hw <;>
    rw [hw] at hv <;> cases hv

theorem cut_of_retry
    (hu : ¬ (r.release k).1.cursor.isUser (r.release k).2.memory = true)
    (hv : verdict ((r.release k).2.wait (r.release k).1.cursor.timeout).1 = none) (n : Nat) :
    r.claim (k.cut (n + 1)) =
      (r.release k).1.countPoll.claim
        (((r.release k).2.wait (r.release k).1.cursor.timeout).2.cut n) := by
  have hs : (r.release k).2.script ≠ [] := by
    obtain ⟨s, rest, hs⟩ := script_of_retry hv
    rw [script_release, hs]
    exact nofun
  have hc := claim_of_retry (r := r) (k := k.cut (n + 1))
  rw [release_cut] at hc
  dsimp only at hc
  rw [Kernel.wait_cut hs] at hc
  exact hc hu hv

theorem polled_of_retry
    (hu : ¬ (r.release k).1.cursor.isUser (r.release k).2.memory = true)
    (hv : verdict ((r.release k).2.wait (r.release k).1.cursor.timeout).1 = none) :
    polled r.claim k =
      polled (r.release k).1.countPoll.claim
        ((r.release k).2.wait (r.release k).1.cursor.timeout).2 + 1 := by
  obtain ⟨s, rest, hs⟩ := script_of_retry hv
  have hle := script_claim_le (r.release k).1.countPoll
    ((r.release k).2.wait (r.release k).1.cursor.timeout).2
  unfold polled
  rw [claim_of_retry hu hv]
  rw [Kernel.script_wait, script_release, hs, List.tail_cons] at hle ⊢
  rw [List.length_cons]
  omega

theorem polled_of_stop
    (hu : ¬ (r.release k).1.cursor.isUser (r.release k).2.memory = true)
    (hv : verdict ((r.release k).2.wait (r.release k).1.cursor.timeout).1 = some e) :
    polled r.claim k = k.script.length - k.script.tail.length := by
  unfold polled
  rw [claim_of_stop hu hv]
  show _ - ((r.release k).2.wait _).2.script.length = _
  rw [Kernel.script_wait, script_release]

/-! ### A read that needs a new slot -/

theorem goesOn_of_walk_none (hw : (r.cursor.walk k.memory).2 = none) :
    GoesOn r.next k (claim { r with cursor := (r.cursor.walk k.memory).1 }) k :=
  ⟨rfl, next_of_walk_none hw, fun _ => next_of_walk_none hw⟩

theorem next_of_first_poll (hw : r.cursor.walk k.memory = (r.cursor, none))
    (hp : r.cursor.pendingRelease = false) (hu : ¬ r.cursor.isUser k.memory = true)
    (hv : verdict (k.wait r.cursor.timeout).1 = none)
    (hu' : r.cursor.isUser (k.wait r.cursor.timeout).2.memory = true)
    (hl : (r.cursor.header (k.wait r.cursor.timeout).2.memory).length
      (k.wait r.cursor.timeout).2.memory ≠ 0) :
    polled r.next k = 1 ∧ found r.next k 0 = k.memory ∧
      r.next k = emit { r.countPoll with
          cursor := r.cursor.take (k.wait r.cursor.timeout).2.memory }
        (k.wait r.cursor.timeout).2 (r.cursor.header (k.wait r.cursor.timeout).2.memory) := by
  have hwalk : (r.cursor.walk k.memory).2 = none := by rw [hw]
  have hr : { r with cursor := (r.cursor.walk k.memory).1 } = r := by rw [hw]
  have hfree := release_of_not_pending (k := k) hp
  have hfree' := release_of_not_pending (r := r.countPoll) (k := (k.wait r.cursor.timeout).2) hp
  have hretry := claim_of_retry (r := r) (k := k)
  have hpacket := claim_of_packet (r := r.countPoll) (k := (k.wait r.cursor.timeout).2)
  have hpolled := polled_of_packet (r := r.countPoll) (k := (k.wait r.cursor.timeout).2)
  have hpolled' := polled_of_retry (r := r) (k := k)
  have hcut := cut_zero (r := r) (k := k)
  rw [hfree] at hretry hpolled' hcut
  rw [hfree'] at hpacket hpolled
  refine ⟨?_, ?_, ?_⟩
  · rw [(goesOn_of_walk_none hwalk).polled_eq, hr, hpolled' hu hv, hpolled hu' hl]
  · rw [(goesOn_of_walk_none hwalk).found_eq, hr]
    exact (hcut hu).2
  · rw [next_of_walk_none hwalk, hr, hretry hu hv, hpacket hu' hl]
    rfl

end Reader

end PacketRing
