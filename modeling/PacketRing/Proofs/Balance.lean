import Mathlib
import PacketRing.Proofs.Ownership

/-!
# The balance of a ring

The kernel fills slots in ring order, and the reader takes them and gives them back in that order.
So all that matters is how many slots were filled, taken and given back.

* `Balanced given c mem due returned` : the kernel filled slots with the packets `due`, slot by
  slot, of which the reader gave back the first `given` and handed out the packets `returned`;
* `Balanced.fill`, `release`, `take_packet`, `take_empty`, `walk_some`, `walk_none` : what kernel
  and reader do keeps the balance;
* `Balanced.unread_eq` : whatever was not handed out is still in the ring;
* `Balanced.lt_given` : a slot that is the kernel's again was handed out to the end.
-/

namespace PacketRing

namespace Cursor

/-- How many slots the reader has taken, of which it gave back `given`. -/
def taken (c : Cursor) (given : Nat) : Nat := given + if c.pendingRelease then 1 else 0

variable {c c' : Cursor} {mem mem' : Region} {given i : Nat} {fs : List Frame}

theorem taken_of_pending (h : c.pendingRelease = true) : c.taken given = given + 1 := by
  rw [taken, if_pos h]

theorem taken_of_not_pending (h : c.pendingRelease = false) : c.taken given = given := by
  rw [taken, if_neg (h ▸ Bool.false_ne_true)]
  rfl

theorem phase_of_walk (h : (c.walk mem).1.phase = .haveHeader) : c.phase = .haveHeader := by
  unfold walk at h
  split at h
  · next hp _ => exact hp
  · next hp _ => exact hp
  · exact h

end Cursor

theorem Owned.of_start {c c' : Cursor} {i : Nat} {mem : Region} {fs : List Frame}
    (h : Owned c i mem fs) (hs : c'.start = c.start) : Owned c' i mem fs := by
  have hstart : Owned c.start i mem fs := ⟨h.user, h.inside, h.contents⟩
  rw [← hs] at hstart
  exact ⟨hstart.user, hstart.inside, hstart.contents⟩

theorem mod_ne_mod {a b n : Nat} (h : a < b) (hn : b < a + n) : b % n ≠ a % n := by
  intro he
  have hdvd : n ∣ b - a := (Nat.modEq_iff_dvd' h.le).1 he.symm
  have hle := Nat.le_of_dvd (by omega) hdvd
  omega

/-! ## The invariant -/

/-- The kernel filled slots with the packets `due`, slot by slot. The reader gave back the first
`given` of them, and handed out the packets `returned`. -/
structure Balanced (given : Nat) (c : Cursor) (mem : Region) (due : List (List Frame))
    (returned : List Frame) : Prop where
  size : mem.size = c.geometry.mappingSize
  index : c.index = given % c.round
  taken_le : c.taken given ≤ due.length
  length_le : due.length ≤ given + c.round
  phase : c.phase = .haveHeader → c.pendingRelease = true
  steady : c.Steady mem
  /-- What was filled and not given back is there. -/
  owned : ∀ h fs, given ≤ h → due[h]? = some fs → Owned c (h % c.round) mem fs
  /-- The other slots are the kernel's. -/
  kernel : ∀ h, due.length ≤ h → h < given + c.round →
    isUserSlot mem c.version (c.offset (h % c.round)) = false
  /-- The reader handed out what it has taken, but for the rest of the slot that it holds. -/
  split : returned ++ c.rest mem = (due.take (c.taken given)).flatten
  drained : (due.take given).flatten <+: returned

variable {given : Nat} {c : Cursor} {mem mem' : Region} {due : List (List Frame)}
  {returned fs : List Frame}

theorem isUserSlot_zeroed (n : Nat) (v : Version) (base : Nat) :
    isUserSlot (.zeroed n) v base = false := by
  rw [Bool.eq_false_iff, Ne, isUserSlot_iff]
  rintro ⟨-, hb⟩
  rw [Region.byte_zeroed] at hb
  cases hb

theorem balanced_start (c : Cursor) :
    Balanced 0 c.start (.zeroed c.geometry.mappingSize) [] [] where
  size := rfl
  index := (Nat.zero_mod _).symm
  taken_le := Nat.le_refl _
  length_le := Nat.zero_le _
  phase := nofun
  steady := Cursor.steady_of_phase_ne nofun
  owned := by
    intro h fs _ hf
    cases hf
  kernel := fun _ _ _ => isUserSlot_zeroed ..
  split := rfl
  drained := List.prefix_rfl

/-! ## The kernel fills a slot -/

theorem Balanced.length_lt (h : Balanced given c mem due returned) (ha : c.Aligned)
    (hf : Fills c (due.length % c.round) mem mem') : due.length < given + c.round := by
  have hround : 0 < c.round := ha.round_eq ▸ ha.slots
  refine Nat.lt_of_le_of_ne h.length_le fun he => ?_
  have hgiven : given < due.length := by omega
  have howned := (h.owned given due[given] (Nat.le_refl _) (List.getElem?_eq_getElem hgiven)).user
  have hfree := hf.not_isUser ha h.size (Nat.mod_lt _ hround)
  rw [he, Nat.add_mod_right, howned] at hfree
  cases hfree

theorem Balanced.fill (h : Balanced given c mem due returned) (ha : c.Aligned)
    (hf : Fills c (due.length % c.round) mem mem') (ho : Owned c (due.length % c.round) mem' fs) :
    Balanced given c mem' (due ++ [fs]) returned := by
  have hround : 0 < c.round := ha.round_eq ▸ ha.slots
  have hlt := h.length_lt ha hf
  have htaken := h.taken_le
  have hother : ∀ n, n % c.round ≠ due.length % c.round → c.SameSlot (n % c.round) mem mem' :=
    fun n hn => hf.sameSlot ha h.size (Nat.mod_lt _ hround) hn
  have hwalk : c.rest mem = c.rest mem' ∧ c.Steady mem' := by
    by_cases hp : c.phase = .haveHeader
    · rw [Cursor.taken_of_pending (h.phase hp)] at htaken
      refine h.steady.rest_eq ?_
      rw [h.index]
      exact hother given (mod_ne_mod htaken hlt).symm
    · exact ⟨by rw [Cursor.rest_of_phase_ne hp, Cursor.rest_of_phase_ne hp],
        Cursor.steady_of_phase_ne hp⟩
  have hgiven : given ≤ due.length := (Nat.le_add_right _ _).trans htaken
  refine ⟨hf.size ▸ h.size, h.index, ?_, ?_, h.phase, hwalk.2, ?_, ?_, ?_, ?_⟩
  · rw [List.length_append]
    exact htaken.trans (Nat.le_add_right _ _)
  · rw [List.length_append]
    exact hlt
  · intro n gs hn hgs
    by_cases hnew : n < due.length
    · rw [List.getElem?_append_left hnew] at hgs
      exact (h.owned n gs hn hgs).of_sameSlot ha (hother n (mod_ne_mod hnew (by omega)).symm)
    · rw [List.getElem?_append_right (Nat.le_of_not_lt hnew)] at hgs
      obtain ⟨hz, hgs⟩ := List.getElem?_eq_some_iff.1 hgs
      rw [List.length_singleton] at hz
      rw [List.getElem_singleton] at hgs
      have hn' : n = due.length := by omega
      exact hgs ▸ hn' ▸ ho
  · intro n hn hn'
    rw [List.length_append] at hn
    rw [← (hother n (mod_ne_mod hn (by omega))).isUserSlot_eq (Nat.le_refl _) (ha.status_le _)]
    exact h.kernel n (Nat.le_of_succ_le hn) hn'
  · rw [List.take_append_of_le_length htaken, ← hwalk.1]
    exact h.split
  · rw [List.take_append_of_le_length hgiven]
    exact h.drained

/-! ## The reader gives a slot back -/

theorem Balanced.release (h : Balanced given c mem due returned) (ha : c.Aligned)
    (hp : c.pendingRelease = true) (hph : c.phase ≠ .haveHeader) :
    Balanced (given + 1) c.moveOn (clearSlot mem c.version c.base) due returned := by
  have hround : 0 < c.round := ha.round_eq ▸ ha.slots
  have htaken := h.taken_le
  have hsplit := h.split
  rw [Cursor.taken_of_pending hp] at htaken hsplit
  rw [Cursor.rest_of_phase_ne hph, List.append_nil] at hsplit
  have hlen := h.length_le
  have hbase : c.base = c.offset (given % c.round) := by
    rw [← h.index]
    rfl
  refine ⟨(size_clearSlot ..).trans h.size, ?_, htaken, ?_, fun hp' => absurd hp' hph,
    Cursor.steady_of_phase_ne hph, ?_, ?_, ?_, ?_⟩
  · show (c.index + 1) % c.round = (given + 1) % c.round
    rw [h.index, Nat.mod_add_mod]
  · show due.length ≤ given + 1 + c.round
    omega
  · intro n gs hn hgs
    have hlt : n < due.length := (List.getElem?_eq_some_iff.1 hgs).1
    have hne : n % c.round ≠ given % c.round := mod_ne_mod hn (by omega)
    have hsame : c.SameSlot (n % c.round) mem (clearSlot mem c.version c.base) := by
      refine Region.sameOn_clearSlot mem ?_
      rw [hbase]
      rcases Nat.lt_or_gt_of_ne hne with hlt | hgt
      · exact Or.inr (c.offset_le hlt)
      · exact Or.inl ((ha.status_le _).trans (c.offset_le hgt))
    exact ((h.owned n gs (by omega) hgs).of_sameSlot ha hsame).of_start rfl
  · intro n hn hn'
    change n < given + 1 + c.round at hn'
    show isUserSlot (clearSlot mem c.version c.base) c.version (c.offset (n % c.round)) = false
    by_cases he : n = given + c.round
    · rw [he, Nat.add_mod_right, ← hbase]
      exact isUserSlot_clearSlot_self ..
    · have hfree := h.kernel n hn (by omega)
      rw [Bool.eq_false_iff] at hfree ⊢
      exact fun hu => hfree (isUserSlot_of_clearSlot hu)
  · rw [Cursor.rest_of_phase_ne (c := c.moveOn) hph, List.append_nil]
    exact hsplit
  · rw [← hsplit]

/-! ## The reader takes a slot -/

theorem Balanced.lt_length (h : Balanced given c mem due returned) (ha : c.Aligned)
    (hu : c.isUser mem = true) : given < due.length := by
  have hround : 0 < c.round := ha.round_eq ▸ ha.slots
  refine Nat.lt_of_not_le fun hle => ?_
  have hfree := h.kernel given hle (by omega)
  rw [← h.index] at hfree
  rw [show isUserSlot mem c.version (c.offset c.index) = true from hu] at hfree
  cases hfree

/-- Taking a slot hands out its packets, of which some are left for later. -/
theorem Balanced.take (h : Balanced given c mem due returned) (ha : c.Aligned)
    (hp : c.pendingRelease = false) (hu : c.isUser mem = true)
    (hfs : c.contents mem c.index = fs ++ (c.take mem).rest mem) :
    Balanced given (c.take mem) mem due (returned ++ fs) := by
  have hlt := h.lt_length ha hu
  obtain ⟨hv, hg, hi, hpt⟩ := c.version_take mem
  have hround := c.round_take mem
  have hoffset : (c.take mem).offset = c.offset := by
    funext i
    unfold Cursor.offset
    rw [hv, hg]
  have howned := h.owned given due[given] (Nat.le_refl _) (List.getElem?_eq_getElem hlt)
  rw [← h.index] at howned
  have hsplit := h.split
  rw [Cursor.taken_of_not_pending hp, Cursor.rest_of_phase_ne (fun hph => ?_),
    List.append_nil] at hsplit
  · refine ⟨hg ▸ h.size, ?_, ?_, ?_, fun _ => hpt, howned.inside.steady_take, ?_, ?_, ?_, ?_⟩
    · rw [hi, hround, h.index]
    · rw [Cursor.taken_of_pending hpt]
      exact hlt
    · rw [hround]
      exact h.length_le
    · intro n gs hn hgs
      rw [hround]
      exact (h.owned n gs hn hgs).of_start (c.start_take mem)
    · rw [hround, hv, hoffset]
      exact h.kernel
    · rw [Cursor.taken_of_pending hpt, List.append_assoc, ← hfs, howned.contents, hsplit,
        List.take_succ_eq_append_getElem hlt, List.flatten_append, List.flatten_singleton]
    · exact h.drained.trans (List.prefix_append ..)
  · rw [h.phase hph] at hp
    cases hp

theorem Balanced.take_packet (h : Balanced given c mem due returned) (ha : c.Aligned)
    (hp : c.pendingRelease = false) (hu : c.isUser mem = true)
    (hl : (c.header mem).length mem ≠ 0) :
    Balanced given (c.take mem) mem due (returned ++ [c.frame mem (c.header mem)]) :=
  h.take ha hp hu (Cursor.contents_of_length_ne hl)

theorem Balanced.take_empty (h : Balanced given c mem due returned) (ha : c.Aligned)
    (hp : c.pendingRelease = false) (hu : c.isUser mem = true)
    (hl : (c.header mem).length mem = 0) : Balanced given (c.take mem) mem due returned := by
  rw [← List.append_nil returned]
  refine h.take ha hp hu ?_
  rw [Cursor.contents_of_length_zero hl, Cursor.rest_take_of_length_zero hl]
  rfl

/-! ## The reader walks on -/

theorem Balanced.walk (h : Balanced given c mem due returned)
    (hfs : c.rest mem = fs ++ (c.walk mem).1.rest mem) :
    Balanced given (c.walk mem).1 mem due (returned ++ fs) := by
  obtain ⟨hv, hg, hi, hp⟩ := c.slot_walk mem
  have hround : (c.walk mem).1.round = c.round := by
    unfold Cursor.round
    rw [hv, hg]
  have hoffset : (c.walk mem).1.offset = c.offset := by
    funext i
    unfold Cursor.offset
    rw [hv, hg]
  have htaken : (c.walk mem).1.taken given = c.taken given := by
    unfold Cursor.taken
    rw [hp]
  refine ⟨hg ▸ h.size, ?_, htaken ▸ h.taken_le, hround ▸ h.length_le, fun hph => ?_,
    h.steady.walk, ?_, ?_, ?_, ?_⟩
  · rw [hi, hround, h.index]
  · rw [hp]
    exact h.phase (Cursor.phase_of_walk hph)
  · intro n gs hn hgs
    rw [hround]
    exact (h.owned n gs hn hgs).of_start (c.start_walk mem)
  · rw [hround, hv, hoffset]
    exact h.kernel
  · rw [htaken, List.append_assoc, ← hfs]
    exact h.split
  · exact h.drained.trans (List.prefix_append ..)

theorem Balanced.walk_some {hd : Header} (h : Balanced given c mem due returned)
    (hw : (c.walk mem).2 = some hd) :
    Balanced given (c.walk mem).1 mem due (returned ++ [c.frame mem hd]) :=
  h.walk (Cursor.rest_of_walk_some hw)

theorem Balanced.walk_none (h : Balanced given c mem due returned)
    (hw : (c.walk mem).2 = none) : Balanced given (c.walk mem).1 mem due returned := by
  obtain ⟨hr, hph⟩ := Cursor.rest_of_walk_none hw
  rw [← List.append_nil returned]
  refine h.walk ?_
  rw [hr, Cursor.rest_of_phase_ne hph]
  rfl

/-! ## What is in the ring -/

theorem flatMap_range_getElem? {α : Type} (l : List (List α)) {n : Nat} (h : l.length ≤ n) :
    ((List.range n).flatMap fun j => l[j]?.getD []) = l.flatten := by
  induction n generalizing l with
  | zero =>
    rw [List.eq_nil_of_length_eq_zero (Nat.le_zero.1 h)]
    rfl
  | succ n ih =>
    rw [List.range_succ_eq_map, List.flatMap_cons, List.flatMap_map]
    cases l with
    | nil => exact ih [] (Nat.zero_le n)
    | cons a l =>
      rw [List.flatten_cons]
      exact congrArg (a ++ ·) (ih l (Nat.le_of_succ_le_succ h))

theorem flatMap_filter_eq {α β : Type} (p : α → Bool) (f : α → List β) (l : List α) :
    (l.filter p).flatMap f = l.flatMap fun a => if p a then f a else [] := by
  induction l with
  | nil => rfl
  | cons a l ih =>
    rw [List.flatMap_cons, ← ih]
    cases hp : p a with
    | true => rw [List.filter_cons_of_pos hp, List.flatMap_cons, if_pos rfl]
    | false => rw [List.filter_cons_of_neg (by rw [hp]; exact Bool.false_ne_true)]; rfl

/-- The slots to come are those that were filled and not taken. -/
theorem Balanced.isFree_iff (h : Balanced given c mem due returned) {j : Nat} (hj : j < c.round) :
    c.isFree mem ((given + j) % c.round) = true ↔
      c.taken given ≤ given + j ∧ given + j < due.length := by
  have huser : isUserSlot mem c.version (c.geometry.slotOffset c.version ((given + j) % c.round)) =
      true ↔ given + j < due.length := by
    by_cases hlt : given + j < due.length
    · have howned := h.owned (given + j) due[given + j] (Nat.le_add_right _ _)
        (List.getElem?_eq_getElem hlt)
      exact iff_of_true howned.user hlt
    · have hkernel := h.kernel (given + j) (Nat.le_of_not_lt hlt) (by omega)
      exact iff_of_false (Bool.eq_false_iff.1 hkernel) hlt
  have hheld : (c.pendingRelease && (given + j) % c.round == c.index) = true ↔
      ¬ c.taken given ≤ given + j := by
    cases hp : c.pendingRelease with
    | false =>
      rw [Cursor.taken_of_not_pending hp]
      exact iff_of_false Bool.false_ne_true (not_not_intro (Nat.le_add_right _ _))
    | true =>
      rw [Cursor.taken_of_pending hp, Bool.true_and, beq_iff_eq, h.index]
      constructor
      · intro he hle
        exact mod_ne_mod (show given < given + j by omega) (by omega) he
      · intro hlt
        rw [show j = 0 by omega, Nat.add_zero]
  unfold Cursor.isFree
  rw [Bool.and_eq_true, huser, Bool.not_eq_true', ← Bool.not_eq_true, hheld, not_not]
  exact and_comm

/-- The slot `j` further on has the packets that it was filled with, unless it is the one that the
reader holds. -/
theorem Balanced.free_contents (h : Balanced given c mem due returned) {j : Nat}
    (hj : j < c.round) :
    (if c.isFree mem ((c.index + j) % c.round) then c.contents mem ((c.index + j) % c.round)
      else []) =
      (List.replicate (c.taken given - given) [] ++ due.drop (c.taken given))[j]?.getD [] := by
  have hle : given ≤ c.taken given := Nat.le_add_right _ _
  rw [h.index, Nat.mod_add_mod, if_congr (h.isFree_iff hj) rfl rfl]
  by_cases hheld : j < c.taken given - given
  · rw [List.getElem?_append_left (by rw [List.length_replicate]; exact hheld),
      List.getElem?_replicate, if_pos hheld, if_neg (by omega)]
    rfl
  · rw [List.getElem?_append_right (by rw [List.length_replicate]; omega), List.length_replicate,
      List.getElem?_drop, show c.taken given + (j - (c.taken given - given)) = given + j by omega]
    by_cases hlt : given + j < due.length
    · have howned := h.owned (given + j) due[given + j] (Nat.le_add_right _ _)
        (List.getElem?_eq_getElem hlt)
      rw [if_pos ⟨by omega, hlt⟩, howned.contents, List.getElem?_eq_getElem hlt, Option.getD_some]
    · rw [if_neg (fun hc => hlt hc.2), List.getElem?_eq_none (Nat.le_of_not_lt hlt)]
      rfl

/-- What the kernel filled in is what the reader handed out, then what it has yet to hand out. -/
theorem Balanced.unread_eq (h : Balanced given c mem due returned) :
    returned ++ c.unread mem = due.flatten := by
  have htaken := h.taken_le
  have hlen := h.length_le
  have hle : given ≤ c.taken given := Nat.le_add_right _ _
  have hahead : (c.ahead.filter (c.isFree mem)).flatMap (c.contents mem) =
      (due.drop (c.taken given)).flatten := by
    calc (c.ahead.filter (c.isFree mem)).flatMap (c.contents mem)
        = (List.range c.round).flatMap fun j =>
            if c.isFree mem ((c.index + j) % c.round) then
              c.contents mem ((c.index + j) % c.round) else [] := by
          unfold Cursor.ahead
          rw [flatMap_filter_eq, List.flatMap_map]
      _ = (List.range c.round).flatMap fun j =>
            (List.replicate (c.taken given - given) [] ++ due.drop (c.taken given))[j]?.getD [] :=
          List.flatMap_congr fun j hj => h.free_contents (List.mem_range.1 hj)
      _ = (due.drop (c.taken given)).flatten := by
          rw [flatMap_range_getElem?, List.flatten_append, List.flatten_replicate_nil,
            List.nil_append]
          rw [List.length_append, List.length_replicate, List.length_drop]
          omega
  unfold Cursor.unread
  rw [hahead, ← List.append_assoc, h.split, ← List.flatten_append, List.take_append_drop]

/-- A slot that was filled and is the kernel's again was given back. -/
theorem Balanced.lt_given (h : Balanced given c mem due returned) {n : Nat} (hn : n < due.length)
    (hback : n + c.round < due.length ∨
      isUserSlot mem c.version (c.offset (n % c.round)) = false) : n < given := by
  refine Nat.lt_of_not_le fun hle => ?_
  rcases hback with hlt | hfree
  · exact absurd h.length_le (by omega)
  · rw [(h.owned n due[n] hle (List.getElem?_eq_getElem hn)).user] at hfree
    cases hfree

theorem Balanced.back_of_lt (h : Balanced given c mem due returned) {n : Nat} (hn : n < given) :
    n + c.round < due.length ∨ isUserSlot mem c.version (c.offset (n % c.round)) = false := by
  by_cases hlt : n + c.round < due.length
  · exact Or.inl hlt
  · refine Or.inr ?_
    have hkernel := h.kernel (n + c.round) (Nat.le_of_not_lt hlt) (by omega)
    rw [Nat.add_mod_right] at hkernel
    exact hkernel

end PacketRing
