import Mathlib
import PacketRing.Proofs.WordArithmetic

/-!
# Reads return

A read looks at one slot after the other, round the ring, and counts none of them. It ends all the
same: a slot that it passes over is handed back before the next look, and a wait that lets it look
again takes an entry of the script.

* `Reader.facing` : the reader before the slot that it looks at;
* `Reader.Skips`, `Reader.Retries` : the read passes over a slot without a packet, or waits for a
  slot and looks again. A read that does so is from there on another one (`Turn.next_eq`);
* `Reader.Ends` : what the read returns at the slot that it looks at;
* `Reader.budget` : how many such turns are left at most (`Turn.budget_lt`);
* `Reader.next_returns` : no read goes on for ever, and every one comes to its end.
-/

namespace PacketRing.Reader

/-! ## Turns of a read -/

/-- The reader as it looks at a slot: the one it held, of which no record is left, has gone back. -/
def facing (r : Reader) (k : Kernel) : Reader × Kernel :=
  release { r with cursor := (r.cursor.walk k.memory).1 } k

/-- The slot is the reader's and holds no packet: it is taken, to be handed back before the next
look. -/
structure Skips (r : Reader) (k : Kernel) (r' : Reader) (k' : Kernel) : Prop where
  walked : (r.cursor.walk k.memory).2 = none
  user : (r.facing k).1.cursor.isUser (r.facing k).2.memory = true
  empty : ((r.facing k).1.cursor.header (r.facing k).2.memory).length (r.facing k).2.memory = 0
  reader : r' =
    { (r.facing k).1 with cursor := (r.facing k).1.cursor.take (r.facing k).2.memory }
  kernel : k' = (r.facing k).2

/-- The slot is the kernel's, and the wait for it ends in another look. -/
structure Retries (r : Reader) (k : Kernel) (r' : Reader) (k' : Kernel) : Prop where
  walked : (r.cursor.walk k.memory).2 = none
  user : ¬ (r.facing k).1.cursor.isUser (r.facing k).2.memory = true
  verdict : verdict ((r.facing k).2.wait (r.facing k).1.cursor.timeout).1 = none
  reader : r' = (r.facing k).1.countPoll
  kernel : k' = ((r.facing k).2.wait (r.facing k).1.cursor.timeout).2

/-- A read goes on. -/
def Turn (s s' : Reader × Kernel) : Prop :=
  Skips s.1 s.2 s'.1 s'.2 ∨ Retries s.1 s.2 s'.1 s'.2

/-- A read ends: with the next record of the block that it is in, with the packet of the slot that
it looks at, or with what a wait for that slot comes to. -/
inductive Ends (r : Reader) (k : Kernel) : Except CaptureError Frame × Reader × Kernel → Prop where
  | record {h : Header} :
    (r.cursor.walk k.memory).2 = some h →
      Ends r k (emit { r with cursor := (r.cursor.walk k.memory).1 } k h)
  | packet :
    (r.cursor.walk k.memory).2 = none →
      (r.facing k).1.cursor.isUser (r.facing k).2.memory = true →
      ((r.facing k).1.cursor.header (r.facing k).2.memory).length (r.facing k).2.memory ≠ 0 →
      Ends r k (emit
        { (r.facing k).1 with cursor := (r.facing k).1.cursor.take (r.facing k).2.memory }
        (r.facing k).2 ((r.facing k).1.cursor.header (r.facing k).2.memory))
  | stopped {e : CaptureError} :
    (r.cursor.walk k.memory).2 = none →
      ¬ (r.facing k).1.cursor.isUser (r.facing k).2.memory = true →
      verdict ((r.facing k).2.wait (r.facing k).1.cursor.timeout).1 = some e →
      Ends r k (.error e, (r.facing k).1.countPoll,
        ((r.facing k).2.wait (r.facing k).1.cursor.timeout).2)

variable {r r' : Reader} {k k' : Kernel} {s s' : Reader × Kernel}

theorem phase_facing (hw : (r.cursor.walk k.memory).2 = none) :
    (r.facing k).1.cursor.phase ≠ .haveHeader := by
  have hphase := (Cursor.rest_of_walk_none hw).2
  unfold facing release
  split <;> exact hphase

/-- A reader that is not inside a block begins its read with a claim. -/
theorem next_of_phase_ne (h : r.cursor.phase ≠ .haveHeader) (k : Kernel) :
    r.next k = r.claim k := by
  have hw := Cursor.walk_of_phase_ne h k.memory
  rw [next_of_walk_none (by rw [hw]), hw]

theorem Skips.next_eq (h : Skips r k r' k') : r.next k = r'.next k' := by
  obtain ⟨hw, hu, hl, rfl, rfl⟩ := h
  rw [next_of_walk_none hw, claim_of_empty hu hl]
  exact (next_of_phase_ne (Cursor.phase_take_of_length_zero hl) _).symm

theorem Retries.next_eq (h : Retries r k r' k') : r.next k = r'.next k' := by
  obtain ⟨hw, hu, hv, rfl, rfl⟩ := h
  rw [next_of_walk_none hw, claim_of_retry hu hv]
  exact (next_of_phase_ne (r := (r.facing k).1.countPoll) (phase_facing hw) _).symm

theorem Turn.next_eq (h : Turn s s') : s.1.next s.2 = s'.1.next s'.2 :=
  h.elim Skips.next_eq Retries.next_eq

theorem Ends.next_eq {result : Except CaptureError Frame × Reader × Kernel}
    (h : Ends r k result) : r.next k = result := by
  cases h with
  | record hw => exact next_of_walk_some hw
  | packet hw hu hl => exact (next_of_walk_none hw).trans (claim_of_packet hu hl)
  | stopped hw hu hv => exact (next_of_walk_none hw).trans (claim_of_stop hu hv)

theorem ends_or_turns (r : Reader) (k : Kernel) :
    Ends r k (r.next k) ∨ ∃ s', Turn (r, k) s' := by
  cases hw : (r.cursor.walk k.memory).2 with
  | some hd => exact Or.inl (next_of_walk_some hw ▸ .record hw)
  | none =>
    by_cases hu : (r.facing k).1.cursor.isUser (r.facing k).2.memory = true
    · by_cases hl :
          ((r.facing k).1.cursor.header (r.facing k).2.memory).length (r.facing k).2.memory = 0
      · exact Or.inr ⟨(_, _), .inl ⟨hw, hu, hl, rfl, rfl⟩⟩
      · exact Or.inl ((Ends.packet hw hu hl).next_eq ▸ .packet hw hu hl)
    · cases hv : verdict ((r.facing k).2.wait (r.facing k).1.cursor.timeout).1 with
      | none => exact Or.inr ⟨(_, _), .inr ⟨hw, hu, hv, rfl, rfl⟩⟩
      | some e => exact Or.inl ((Ends.stopped hw hu hv).next_eq ▸ .stopped hw hu hv)

/-! ## Turns are bounded -/

/-- How many turns a read has left at most: in a round of the ring, now and after each entry of the
script, it takes every slot once. -/
def budget (r : Reader) (k : Kernel) : Nat :=
  k.script.length * (r.cursor.round + 2) + r.cursor.freeSlots k.memory +
    if r.cursor.pendingRelease then 0 else 1

theorem freeSlots_le_round (c : Cursor) (mem : Region) : c.freeSlots mem ≤ c.round := by
  refine List.countP_le_length.trans_eq ?_
  exact List.length_range

theorem round_facing (r : Reader) (k : Kernel) :
    (r.facing k).1.cursor.round = r.cursor.round := by
  obtain ⟨hv, hg, -⟩ := r.cursor.slot_walk k.memory
  unfold facing release Cursor.round
  split <;> simp only [Cursor.moveOn, hv, hg]

theorem script_facing (r : Reader) (k : Kernel) : (r.facing k).2.script = k.script :=
  script_release ..

theorem Skips.budget_lt (h : Skips r k r' k') : r'.budget k' < r.budget k := by
  obtain ⟨-, hu, -, rfl, rfl⟩ := h
  have hlt := pending_take_lt { r with cursor := (r.cursor.walk k.memory).1 } k
    (r.facing k).1.counts hu
  have hround := round_facing r k
  unfold pending at hlt
  rw [Cursor.freeSlots_walk, (Cursor.slot_walk ..).2.2.2, (Cursor.version_take ..).2.2.2,
    if_pos rfl] at hlt
  unfold budget
  dsimp only
  rw [Cursor.round_take, hround, script_facing, (Cursor.version_take ..).2.2.2, if_pos rfl]
  change 2 * ((r.facing k).1.cursor.take (r.facing k).2.memory).freeSlots (r.facing k).2.memory +
    0 < _ at hlt
  omega

theorem Retries.budget_lt (h : Retries r k r' k') : r'.budget k' < r.budget k := by
  obtain ⟨-, -, hv, rfl, rfl⟩ := h
  obtain ⟨s, rest, hs⟩ := script_of_retry hv
  have hround : (r.facing k).1.countPoll.cursor.round = r.cursor.round := round_facing r k
  have hfree := freeSlots_le_round (r.facing k).1.countPoll.cursor
    ((r.facing k).2.wait (r.facing k).1.cursor.timeout).2.memory
  unfold budget
  rw [hround] at hfree ⊢
  rw [Kernel.script_wait, script_facing, hs, List.tail_cons, List.length_cons, Nat.succ_mul]
  split <;> split <;> omega

theorem Turn.budget_lt (h : Turn s s') : s'.1.budget s'.2 < s.1.budget s.2 :=
  h.elim Skips.budget_lt Retries.budget_lt

theorem length_le_budget {turns : List (Reader × Kernel)}
    (h : ((r, k) :: turns).IsChain Turn) : turns.length ≤ r.budget k := by
  induction turns generalizing r k with
  | nil => exact Nat.zero_le _
  | cons s turns ih =>
    obtain ⟨hturn, hrest⟩ := List.isChain_cons_cons.1 h
    exact (ih hrest).trans_lt hturn.budget_lt

theorem budget_lt (r : Reader) (k : Kernel) :
    r.budget k < (k.script.length + 1) * (r.cursor.round + 2) := by
  have hfree := freeSlots_le_round r.cursor k.memory
  unfold budget
  rw [Nat.succ_mul]
  split <;> omega

/-- As long as it can, a read goes on; so it comes to its end. -/
theorem exists_end (r : Reader) (k : Kernel) :
    ∃ s, Relation.ReflTransGen Turn (r, k) s ∧ Ends s.1 s.2 (r.next k) := by
  induction hn : r.budget k using Nat.strong_induction_on generalizing r k with
  | h n ih =>
    rcases ends_or_turns r k with hend | ⟨s', hturn⟩
    · exact ⟨(r, k), .refl, hend⟩
    · obtain ⟨s, hruns, hend⟩ := ih _ (hn ▸ hturn.budget_lt) s'.1 s'.2 rfl
      exact ⟨s, .head hturn hruns, hturn.next_eq ▸ hend⟩

/-! ## Polls -/

theorem polls_claim_le (r : Reader) (k : Kernel) :
    (r.claim k).2.1.counts.polls ≤ r.counts.polls + k.script.length + 1 := by
  induction r, k using claim_induct with
  | packet r k hu hl =>
    rw [claim_of_packet hu hl]
    show (r.release k).1.counts.polls ≤ _
    rw [counts_release]
    omega
  | empty r k hu hl ih =>
    rw [claim_of_empty hu hl]
    refine ih.trans_eq ?_
    rw [script_release]
    exact congrArg (·.polls + _ + 1) (counts_release r k)
  | retry r k hu hv ih =>
    obtain ⟨s, rest, hs⟩ := script_of_retry hv
    rw [claim_of_retry hu hv]
    refine ih.trans_eq ?_
    rw [Kernel.script_wait, script_release, hs, List.tail_cons, List.length_cons]
    show (r.release k).1.counts.polls + 1 + _ + 1 = _
    rw [counts_release]
    omega
  | stop r k e hu hv =>
    rw [claim_of_stop hu hv]
    show (r.release k).1.counts.polls + 1 ≤ _
    rw [counts_release]
    omega

theorem polls_next_le (r : Reader) (k : Kernel) :
    (r.next k).2.1.counts.polls ≤ r.counts.polls + k.script.length + 1 := by
  cases hw : (r.cursor.walk k.memory).2 with
  | some hd =>
    rw [next_of_walk_some hw]
    exact (Nat.le_add_right ..).trans (Nat.le_add_right ..)
  | none =>
    rw [next_of_walk_none hw]
    exact polls_claim_le ..

/-! ## The end of a read -/

theorem version_facing (r : Reader) (k : Kernel) :
    (r.facing k).1.cursor.version = r.cursor.version :=
  (version_release ..).trans (r.cursor.slot_walk k.memory).1

/-- A slot that is passed over is the reader's when it is looked at, and the kernel's at the next
look. -/
theorem Skips.handed_back (h : Skips r k r' k') :
    isUserSlot (r.facing k).2.memory r.cursor.version (r.facing k).1.cursor.base = true ∧
      isUserSlot (r'.facing k').2.memory r.cursor.version (r.facing k).1.cursor.base = false := by
  obtain ⟨-, hu, hl, rfl, rfl⟩ := h
  rw [← version_facing r k]
  refine ⟨hu, ?_⟩
  obtain ⟨hv, hg, hi, hp⟩ := (r.facing k).1.cursor.version_take (r.facing k).2.memory
  have hbase : ((r.facing k).1.cursor.take (r.facing k).2.memory).base =
      (r.facing k).1.cursor.base := by
    unfold Cursor.base
    rw [hv, hg, hi]
  have hwalk := Cursor.walk_of_phase_ne (Cursor.phase_take_of_length_zero hl) (r.facing k).2.memory
  rw [facing]
  dsimp only
  rw [hwalk, release_of_pending hp, Kernel.memory_release, ← hbase, ← hv]
  exact isUserSlot_clearSlot_self ..

/-- **A read returns**, whatever the reader, the memory and the script. It cannot go on for more
turns than there are slots, with two to spare, now and after each entry of the script; it comes to
its end, at what `next` returns; it makes at most one poll more than the script has entries; and
every slot that it passes over was the reader's, and is no longer when the next slot is looked at.
The sizes are natural numbers here, of which the size of a block can exceed a word even if that of
the mapping does not, in a ring without blocks. Where they are words, reads in words come to the
same. -/
theorem next_returns (r : Reader) (k : Kernel) :
    (∀ turns, ((r, k) :: turns).IsChain Turn →
      turns.length < (k.script.length + 1) * (r.cursor.round + 2)) ∧
    (∃ s, Relation.ReflTransGen Turn (r, k) s ∧ Ends s.1 s.2 (r.next k)) ∧
    (∃ added, (r.next k).2.2.calls = k.calls ++ added ∧
      added.countP Call.isPoll ≤ k.script.length + 1) ∧
    (∀ r₁ k₁ r₂ k₂, Relation.ReflTransGen Turn (r, k) (r₁, k₁) → Skips r₁ k₁ r₂ k₂ →
      isUserSlot (r₁.facing k₁).2.memory r₁.cursor.version (r₁.facing k₁).1.cursor.base = true ∧
        isUserSlot (r₂.facing k₂).2.memory r₁.cursor.version (r₁.facing k₁).1.cursor.base =
          false) ∧
    ∀ c, Reached c r → c.geometry.Small → Machine.next r k = some (r.next k) := by
  refine ⟨fun turns h => (length_le_budget h).trans_lt (budget_lt r k), exists_end r k, ?_,
    fun r₁ k₁ r₂ k₂ _ h => h.handed_back, fun c hr hg => hr.next_eq hg k⟩
  obtain ⟨added, hcalls, hpolls⟩ := polls_next r k
  have hle := polls_next_le r k
  exact ⟨added, hcalls, by omega⟩

/-! ### A ring of two frames without a packet -/

def emptyReader : Reader where
  cursor := { version := .v2, geometry := ⟨64, 1, 2, ⟨0⟩⟩, snapLength := 0, timeout := 0 }

def emptyFrames : Kernel where
  mapping := some <| (Region.zeroed 128).stored [⟨0, [1]⟩, ⟨64, [1]⟩]

theorem small_empty : emptyReader.cursor.geometry.Small :=
  Geometry.small_of_lt (by decide) (by decide) (by decide) (by decide) (by decide)

/-- The first frame has gone back when the read looks at the second, and one poll is all that it
makes. -/
theorem next_returns_emptyFrames :
    Machine.next emptyReader emptyFrames = some (emptyReader.next emptyFrames) ∧
      ∃ r k, Skips emptyReader emptyFrames r k ∧
        isUserSlot (r.facing k).2.memory .v2 0 = false ∧
        ∃ added, (emptyReader.next emptyFrames).2.2.calls = added ∧
          added.countP Call.isPoll ≤ 1 := by
  obtain ⟨-, -, ⟨added, hcalls, hpolls⟩, hback, hwords⟩ := next_returns emptyReader emptyFrames
  have hskips : Skips emptyReader emptyFrames
      { (emptyReader.facing emptyFrames).1 with
        cursor := (emptyReader.facing emptyFrames).1.cursor.take
          (emptyReader.facing emptyFrames).2.memory }
      (emptyReader.facing emptyFrames).2 :=
    ⟨rfl, by decide +kernel, by decide +kernel, rfl, rfl⟩
  exact ⟨hwords emptyReader.cursor .start small_empty, _, _, hskips,
    (hback _ _ _ _ .refl hskips).2, added, hcalls, hpolls⟩

end PacketRing.Reader
