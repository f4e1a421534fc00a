import Mathlib
import PacketRing.Proofs.CaptureRuns
import PacketRing.Proofs.PollPolicy
import PacketRing.Proofs.Releases

/-!
# Failed reads

What a read leaves that fails, and what reads make of it that fail after it.

* `Cursor.Unfilled`, `Cursor.Delivered` : the slot at the cursor is the reader's, without a packet
  or with one;
* `Reader.Fruitless` : reads one after the other that all fail, while the kernel writes nothing;
* `Reader.next_still`, `Fruitless.still` : such a read leaves all as it was unless the slot at the
  cursor is unfilled, and such reads do so too;
* `Reader.skipped_of_unfilled` : an unfilled slot at the cursor is passed over by the next read;
* `Reader.failed_read_consumes_nothing` : what a read consumes that fails;
* `Reader.failed_read_leaves_unfilled` : it may leave an unfilled slot, so that the next one moves.
-/

namespace PacketRing

namespace Cursor

/-- The slot at the cursor is the reader's and has no packet. -/
def Unfilled (c : Cursor) (mem : Region) : Prop :=
  c.isUser mem = true ∧ (c.header mem).length mem = 0

/-- The slot at the cursor is the reader's and has a packet with a length: the frame itself, or the
first record of the block, which fits. -/
structure Delivered (c : Cursor) (mem : Region) : Prop where
  user : c.isUser mem = true
  frame : c.version ≠ .v3 → mem.field (c.base + c.version.layout.length) 4 ≠ 0
  block : c.version = .v3 → mem.field (c.base + Block.packetCountField) 4 ≠ 0 ∧
    c.base + mem.field (c.base + Block.firstPacketField) 4 + BlockPosition.headerSize ≤
      c.base + c.geometry.blockSize ∧
    mem.field (c.base + mem.field (c.base + Block.firstPacketField) 4 +
      (Version.layout .v3).length) 4 ≠ 0

variable {c : Cursor} {mem : Region}

theorem Delivered.length_ne (h : c.Delivered mem) : (c.header mem).length mem ≠ 0 := by
  by_cases hv : c.version = .v3
  · obtain ⟨hcount, hfits, hlength⟩ := h.block hv
    have htotal : (BlockPosition.first mem c.base c.geometry.blockSize).total =
        mem.field (c.base + Block.packetCountField) 4 := if_pos hfits
    rw [header_of_v3 hv]
    unfold Header.length Header.ofPosition
    rw [htotal, if_neg (by simpa using hcount)]
    exact hlength
  · have hlength := h.frame hv
    have hheader : c.header mem = .ofFrame c.version c.base c.geometry.frameSize := by
      unfold header Header.atSlot
      cases hc : c.version with
      | v1 | v2 => rfl
      | v3 => exact absurd hc hv
    rw [hheader]
    exact hlength

end Cursor

namespace Reader

variable {r r' : Reader} {k : Kernel} {s : Reader × Kernel} {l : Look} {e : CaptureError}
  {mem mem' : Region} {n : Nat} {before : List Look}

/-! ## A reader that holds no slot -/

/-- With no slot held, a read looks at the slot at the cursor, with nothing to hand back before. -/
theorem facing_of_free (h : r.cursor.Free) (k : Kernel) : r.facing k = (r, k) := by
  unfold facing
  rw [h.walk]
  exact release_of_not_pending h.pendingRelease

theorem memory_look_of_free (h : r.cursor.Free) (k : Kernel) : (r.look k).memory = k.memory := by
  show (r.facing k).2.memory = _
  rw [facing_of_free h]

theorem free_of_error (h : r.cursor.Free ∨ r.cursor.Holding) (he : (r.next k).1 = .error e) :
    (r.next k).2.1.cursor.Free := by
  have hsettles := next_settles (k := k) h
  unfold Settles at hsettles
  rw [he] at hsettles
  exact hsettles

/-- A read that fails leaves a slot of the kernel's at the cursor, unless the kernel writes in the
poll that ends it. -/
theorem not_user_of_error (he : (r.next k).1 = .error e) (h : r.looks k = before ++ [l])
    (hw : l.writes = []) :
    (r.next k).2.1.cursor.isUser (r.next k).2.2.memory = false := by
  obtain ⟨hconcludes, hmemory, hindex⟩ := next_of_last_look h
  have hanswer := isNone_answer_of_mem (mem_of_looks h)
  rw [he] at hconcludes
  cases hconcludes with
  | stopped ha =>
    rw [ha] at hanswer
    rw [hw] at hmemory
    show isUserSlot _ _ ((r.next k).2.1.cursor.offset _) = false
    rw [Cursor.version_of_start (start_next r k), Cursor.offset_of_start (start_next r k), hindex,
      hmemory]
    exact hanswer.symm

theorem Turn.still (h : Turn (r, k) s) (hfree : r.cursor.Free)
    (hn : ¬ r.cursor.Unfilled k.memory) (hw : (r.look k).writes = []) :
    s.1.cursor = r.cursor ∧ s.2.memory = k.memory := by
  obtain ⟨r', k'⟩ := s
  have hfacing := facing_of_free hfree k
  have hmemory := h.memory
  rw [hw] at hmemory
  rcases h with ⟨-, hu, hl, -, -⟩ | ⟨-, -, -, rfl, -⟩
  · -- The read would pass over the slot at the cursor.
    dsimp only at hu hl
    rw [hfacing] at hu hl
    exact absurd ⟨hu, hl⟩ hn
  · refine ⟨?_, hmemory.trans (memory_look_of_free hfree k)⟩
    show (r.facing k).1.cursor = _
    rw [hfacing]

/-- A read that fails without a write of the kernel's leaves all as it was, if it holds no slot and
the slot at the cursor is not one to pass over. -/
theorem next_still (hfree : r.cursor.Free) (hn : ¬ r.cursor.Unfilled k.memory)
    (he : (r.next k).1 = .error e) (hquiet : ∀ l ∈ r.looks k, l.writes = []) :
    (r.next k).2.1.cursor = r.cursor ∧ (r.next k).2.2.memory = k.memory := by
  induction r, k using next_induct with
  | ends r k h =>
    have hfacing := facing_of_free hfree k
    have hlooks := looks_of_ends h
    generalize r.next k = result at h he ⊢
    cases h with
    | record => cases he
    | packet => cases he
    | stopped hw hu =>
      rw [hw] at hlooks
      have hwrites := hquiet (r.look k) (by rw [hlooks]; exact List.mem_cons_self)
      rw [(look_of_kernel hu).2] at hwrites
      have hmemory := Kernel.memory_wait (r.facing k).2 (r.facing k).1.cursor.timeout
      rw [hwrites, hfacing] at hmemory
      rw [hfacing]
      exact ⟨rfl, hmemory⟩
  | turn r k s h ih =>
    rw [looks_of_turn h] at hquiet
    obtain ⟨hlook, hrest⟩ := List.forall_mem_cons.1 hquiet
    obtain ⟨hcursor, hmemory⟩ := h.still hfree hn hlook
    rw [h.next_eq] at he ⊢
    have hlater := ih (hcursor ▸ hfree) (by rw [hcursor, hmemory]; exact hn) he hrest
    rw [hcursor, hmemory] at hlater
    exact hlater

/-! ## Failing again -/

/-- `Fruitless r mem n r' mem'` : from `r` and memory `mem`, `n` reads that all fail lead to `r'`
and `mem'`, and the kernel writes nothing during them nor in between. -/
inductive Fruitless (r : Reader) (mem : Region) : Nat → Reader → Region → Prop where
  | refl : Fruitless r mem 0 r mem
  | next {n : Nat} {r' : Reader} {mem' : Region} {k : Kernel} {e : CaptureError} :
      Fruitless r mem n r' mem' → k.memory = mem' → (r'.next k).1 = .error e →
      (∀ l ∈ r'.looks k, l.writes = []) →
      Fruitless r mem (n + 1) (r'.next k).2.1 (r'.next k).2.2.memory

namespace Fruitless

theorem free (h : Fruitless r mem n r' mem') (hfree : r.cursor.Free) : r'.cursor.Free := by
  induction h with
  | refl => exact hfree
  | next _ _ he _ ih => exact free_of_error (.inl ih) he

/-- With no slot at the cursor to pass over, reads that fail change nothing. -/
theorem still (h : Fruitless r mem n r' mem') (hfree : r.cursor.Free)
    (hn : ¬ r.cursor.Unfilled mem) : r'.cursor = r.cursor ∧ mem' = mem := by
  induction h with
  | refl => exact ⟨rfl, rfl⟩
  | next hreads hk he hquiet ih =>
    obtain ⟨hcursor, hmemory⟩ := ih
    have hstill := next_still (hreads.free hfree) (by rw [hk, hcursor, hmemory]; exact hn) he hquiet
    exact ⟨hstill.1.trans hcursor, hstill.2.trans (hk.trans hmemory)⟩

/-- One such read leaves no slot at the cursor to pass over. -/
theorem not_unfilled (h : Fruitless r mem 1 r' mem') : ¬ r'.cursor.Unfilled mem' := by
  rintro ⟨hu, -⟩
  cases h with
  | next hreads hk he hquiet =>
    obtain ⟨before, l, -, hlooks, -⟩ := exists_of_error he
    have hkernel := not_user_of_error he hlooks (hquiet l (by rw [hlooks]; simp))
    rw [hkernel] at hu
    cases hu

/-- A run of such reads is the first one and a run of the others. -/
theorem split (h : Fruitless r mem (n + 1) r' mem') :
    ∃ r₂ mem₂, Fruitless r mem 1 r₂ mem₂ ∧ Fruitless r₂ mem₂ n r' mem' := by
  induction n generalizing r' mem' with
  | zero => exact ⟨r', mem', h, .refl⟩
  | succ n ih =>
    cases h with
    | next hreads hk he hquiet =>
      obtain ⟨r₂, mem₂, hfirst, hrest⟩ := ih hreads
      exact ⟨r₂, mem₂, hfirst, hrest.next hk he hquiet⟩

end Fruitless

/-! ## What a failed read consumes -/

/-- A packet in the slot at the cursor is what the next read returns, without a poll. -/
theorem next_of_delivered (hfree : r.cursor.Free) (h : r.cursor.Delivered k.memory) :
    (r.next k).1 = .ok (r.cursor.frame k.memory (r.cursor.header k.memory)) ∧
      (r.next k).2.2 = k ∧ (r.next k).2.1.counts.polls = r.counts.polls := by
  have hnext := next_of_packet hfree.phase hfree.pendingRelease h.user h.length_ne
  refine ⟨?_, ?_, ?_⟩
  · rw [hnext]
    show Except.ok (Cursor.frame _ _ _) = _
    rw [Cursor.frame_of_start (Cursor.start_take ..)]
  · rw [hnext]
    rfl
  · rw [hnext]
    rfl

/-- A slot at the cursor without a packet is the first one that the next read passes over. -/
theorem skipped_of_unfilled (hfree : r.cursor.Free) (h : r.cursor.Unfilled k.memory) :
    ∃ rest, r.skipped k = r.look k :: rest ∧ (r.look k).slot = r.cursor.index := by
  have hfacing := facing_of_free hfree k
  obtain ⟨hu, hl⟩ := h
  have hturn : Turn (r, k) ({ r with cursor := r.cursor.take k.memory }, k) := by
    refine .inl ⟨?_, ?_, ?_, ?_, ?_⟩
    · rw [hfree.walk]
    all_goals rw [hfacing]
    · exact hu
    · exact hl
  have hpasses : (r.look k).Passes r.cursor := by
    refine ⟨?_, ?_⟩
    · rw [isNone_answer_look, ← isUser_facing, hfacing]
      exact hu
    · rw [← header_facing, memory_look_of_free hfree, hfacing]
      exact hl
  refine ⟨_, (skipped_of_turn hturn).trans (if_pos hpasses), ?_⟩
  show (r.facing k).1.cursor.index = _
  rw [hfacing]

theorem walked_of_error (he : (r.next k).1 = .error e) : (r.cursor.walk k.memory).2 = none := by
  cases hw : (r.cursor.walk k.memory).2 with
  | none => rfl
  | some hd =>
    rw [next_of_walk_some hw] at he
    cases he

/-- **A failed read consumes nothing.** It counts no packet and holds no slot; what it handed back
is the slot that was held before, and slots found to be the reader's but without a packet. If the
kernel did not write in the poll that ended it, the slot at the cursor is the kernel's. From then on
reads that fail, while the kernel writes nothing, change neither the cursor nor memory, unless the
slot at the cursor is the reader's already, without a packet: then the first of them passes over it,
and the others change nothing. Once there is a packet in the slot at the cursor, the next read
returns it without a poll. -/
theorem failed_read_consumes_nothing {c : Cursor} (hr : Reached c r)
    (he : (r.next k).1 = .error e) :
    Looked r k ∧
    (r.next k).2.1.counts.packets = r.counts.packets ∧
    (r.next k).2.1.cursor.Free ∧
    r.released k = r.cursor.held ++ (r.skipped k).map (·.slot) ∧
    (∀ l ∈ r.skipped k, isUserSlot l.memory r.cursor.version (r.cursor.offset l.slot) = true ∧
      (r.cursor.front l.memory l.slot).length l.memory = 0) ∧
    (∀ before l, r.looks k = before ++ [l] → l.writes = [] →
      (r.next k).2.1.cursor.isUser (r.next k).2.2.memory = false) ∧
    (¬ (r.next k).2.1.cursor.Unfilled (r.next k).2.2.memory → ∀ n r' mem',
      Fruitless (r.next k).2.1 (r.next k).2.2.memory n r' mem' →
      r'.cursor = (r.next k).2.1.cursor ∧ mem' = (r.next k).2.2.memory) ∧
    ((r.next k).2.1.cursor.Unfilled (r.next k).2.2.memory →
      ∀ k' : Kernel, k'.memory = (r.next k).2.2.memory →
        ∃ l rest, (r.next k).2.1.skipped k' = l :: rest ∧
          l.slot = (r.next k).2.1.cursor.index) ∧
    (∀ n r' mem', Fruitless (r.next k).2.1 (r.next k).2.2.memory (n + 1) r' mem' →
      ∃ r₁ mem₁, Fruitless (r.next k).2.1 (r.next k).2.2.memory 1 r₁ mem₁ ∧
        r'.cursor = r₁.cursor ∧ mem' = mem₁) ∧
    ∀ n r' mem', Fruitless (r.next k).2.1 (r.next k).2.2.memory n r' mem' →
      ∀ k' : Kernel, r'.cursor.Delivered k'.memory →
        (r'.next k').1 = .ok (r'.cursor.frame k'.memory (r'.cursor.header k'.memory)) ∧
          (r'.next k').2.2 = k' ∧ (r'.next k').2.1.counts.polls = r'.counts.polls := by
  have hfree := free_of_error hr.settled.2 he
  refine ⟨looked r k, ?_, hfree, released_eq (walked_of_error he), fun l hl => mem_skipped hl,
    fun before l h hw => not_user_of_error he h hw, fun hn n r' mem' h => h.still hfree hn,
    fun hu k' hk' => ?_, fun n r' mem' h => ?_,
    fun n r' mem' h k' hk' => next_of_delivered (h.free hfree) hk'⟩
  · rw [packets_next, he]
    rfl
  · rw [← hk'] at hu
    exact ⟨_, skipped_of_unfilled hfree hu⟩
  · obtain ⟨r₁, mem₁, hfirst, hrest⟩ := h.split
    exact ⟨r₁, mem₁, hfirst, hrest.still (hfirst.free hfree) hfirst.not_unfilled⟩

/-! ### An empty frame that comes with the timeout -/

/-- The kernel gives the reader the first frame without a packet in it, in a poll that times out. -/
def lateEmpty : Kernel where
  mapping := some (.zeroed 128)
  script := [{ writes := [⟨0, [1, 0, 0, 0]⟩], outcome := .timeout }]

/-- The first frame is now filled. -/
def filledFrame : Kernel where
  mapping := some <| (Region.zeroed 128).stored [⟨0, [1, 0, 0, 0, 60]⟩]

theorem next_lateEmpty : emptyReader.next lateEmpty =
    (.error .pollTimeout, emptyReader.countPoll, (lateEmpty.wait 0).2) :=
  next_of_stop emptyReader.cursor.free_start (by decide +kernel) (by decide +kernel)

/-- The read times out, and the packet that the frame gets after it is returned by the next. -/
theorem failed_read_consumes_nothing_lateEmpty :
    Reached emptyReader.cursor emptyReader ∧ (emptyReader.next lateEmpty).1 = .error .pollTimeout ∧
      (emptyReader.next lateEmpty).2.1.counts.packets = 0 ∧
      ((emptyReader.next lateEmpty).2.1.next filledFrame).2.2 = filledFrame := by
  have hreached : Reached emptyReader.cursor emptyReader := .start
  have he : (emptyReader.next lateEmpty).1 = .error .pollTimeout := congrArg Prod.fst next_lateEmpty
  obtain ⟨-, hpackets, -, -, -, -, -, -, -, hdelivered⟩ := failed_read_consumes_nothing hreached he
  have hcursor : (emptyReader.next lateEmpty).2.1.cursor = emptyReader.cursor := by
    rw [next_lateEmpty]
    rfl
  refine ⟨hreached, he, hpackets, (hdelivered 0 _ _ .refl filledFrame ?_).2.1⟩
  rw [hcursor]
  exact ⟨by decide +kernel, fun _ => by decide +kernel, nofun⟩

/-- The kernel after that poll. -/
def afterLate : Kernel := (lateEmpty.wait 0).2

/-- The reader once it has taken the empty frame. -/
def pastEmpty : Reader :=
  { emptyReader.countPoll with cursor := emptyReader.cursor.take afterLate.memory }

theorem skips_afterLate : Skips emptyReader.countPoll afterLate pastEmpty afterLate :=
  ⟨rfl, by decide +kernel, by decide +kernel, rfl, rfl⟩

theorem ends_afterLate : ∃ k, Ends pastEmpty afterLate
    (.error .pollTimeout, (pastEmpty.facing afterLate).1.countPoll, k) := by
  have hends := Ends.stopped (r := pastEmpty) (k := afterLate) (e := .pollTimeout)
    (by decide +kernel) (by decide +kernel) (by decide +kernel)
  exact ⟨_, hends⟩

/-- The kernel writes nothing more, and yet the next read, which times out as well, clears the first
frame's status and moves on. -/
theorem failed_read_leaves_unfilled :
    Reached emptyReader.cursor emptyReader ∧ (emptyReader.next lateEmpty).1 = .error .pollTimeout ∧
      ∃ r mem, Fruitless (emptyReader.next lateEmpty).2.1 (emptyReader.next lateEmpty).2.2.memory
          1 r mem ∧
        r.cursor ≠ (emptyReader.next lateEmpty).2.1.cursor ∧
        mem.byte 0 ≠ (emptyReader.next lateEmpty).2.2.memory.byte 0 := by
  obtain ⟨k, hends⟩ := ends_afterLate
  have hturn : Turn (emptyReader.countPoll, afterLate) (pastEmpty, afterLate) :=
    .inl skips_afterLate
  have hlooks : emptyReader.countPoll.looks afterLate =
      [emptyReader.countPoll.look afterLate, pastEmpty.look afterLate] := by
    rw [looks_of_turn hturn]
    show _ :: pastEmpty.looks afterLate = _
    rw [looks_of_last hends (by decide +kernel)]
  have hnext := skips_afterLate.next_eq.trans hends.next_eq
  have hmemory := memory_next emptyReader.countPoll afterLate
  rw [next_lateEmpty]
  refine ⟨.start, rfl, _, _, .next (k := afterLate) .refl rfl (congrArg Prod.fst hnext) ?_, ?_, ?_⟩
  · rw [hlooks]
    decide +kernel
  · rw [hnext]
    show (pastEmpty.facing afterLate).1.cursor ≠ emptyReader.cursor
    decide +kernel
  · rw [hmemory, hlooks]
    decide +kernel

end Reader

end PacketRing
