import Mathlib
import PacketRing.Proofs.Contents
import PacketRing.Proofs.Polling

/-!
# Reading a block

What the reads make of one block, whatever is in it. Other memory may change between them as it
likes.

* `Clears` : a read takes a block from the reader, at its end or before one of its polls;
* `Reader.after`, `Reader.log` : reads one after the other, and their results;
* `Cursor.visited` : the records that a walk through the block visits, `Cursor.drained` those that
  the reads hand out: all of them, but none if the first has no length;
* `after_drained` : the reads hand these out one by one and then give the block back;
* `Reader.returned_iff_of_atBlock` : when the reads have handed out every record with a length.
-/

namespace PacketRing

/-! ## Giving a block back -/

/-- A read takes the slot at `base` from the reader: the kernel has it at a poll, or at the end. -/
def Clears (read : Reading) (k : Kernel) (v : Version) (base : Nat) : Prop :=
  isUserSlot (read k).2.2.memory v base = false ∨
    ∃ n < polled read k, isUserSlot (found read k n) v base = false

theorem Clears.of_goesOn {read read' : Reading} {k k' : Kernel} {v : Version} {base : Nat}
    (h : Clears read' k' v base) (hgo : GoesOn read k read' k') : Clears read k v base := by
  rcases h with hend | ⟨n, hn, hpoll⟩
  · exact Or.inl (hgo.whole ▸ hend)
  · exact Or.inr ⟨n, hgo.polled_eq ▸ hn, hgo.found_eq n ▸ hpoll⟩

namespace Reader

variable {r : Reader} {k : Kernel} {base : Nat}

theorem version_release (r : Reader) (k : Kernel) :
    (r.release k).1.cursor.version = r.cursor.version := by
  unfold release
  split <;> rfl

theorem not_user_release (h : isUserSlot k.memory r.cursor.version base = false) :
    isUserSlot (r.release k).2.memory r.cursor.version base = false := by
  cases hp : r.cursor.pendingRelease with
  | true =>
    rw [release_of_pending hp, Kernel.memory_release]
    rw [Bool.eq_false_iff] at h ⊢
    exact fun hu => h (isUserSlot_of_clearSlot hu)
  | false =>
    rw [release_of_not_pending hp]
    exact h

theorem clears_of_not_user (r : Reader) (k : Kernel)
    (h : isUserSlot k.memory r.cursor.version base = false) :
    Clears r.claim k r.cursor.version base := by
  induction r, k using claim_induct with
  | packet r k hu hl =>
    refine Or.inl ?_
    rw [claim_of_packet hu hl]
    exact not_user_release h
  | empty r k hu hl ih =>
    have hv : ((r.release k).1.cursor.take (r.release k).2.memory).version = r.cursor.version :=
      (Cursor.version_take ..).1.trans (version_release r k)
    rw [hv] at ih
    exact (ih (not_user_release h)).of_goesOn (goesOn_of_empty hu hl)
  | retry r k hu hv ih =>
    refine Or.inr ⟨0, polled_of_retry hu hv ▸ Nat.succ_pos _, ?_⟩
    rw [(cut_zero hu).2]
    exact not_user_release h
  | stop r k e hu hv =>
    have hpolled := polled_of_stop hu hv
    cases hs : k.script with
    | nil =>
      refine Or.inl ?_
      rw [claim_of_stop hu hv, Kernel.memory_wait_nil ((script_release r k).trans hs)]
      exact not_user_release h
    | cons s rest =>
      rw [hs, List.tail_cons, List.length_cons, Nat.add_sub_cancel_left] at hpolled
      refine Or.inr ⟨0, hpolled ▸ Nat.one_pos, ?_⟩
      rw [(cut_zero hu).2]
      exact not_user_release h

theorem claim_release (r : Reader) (k : Kernel) :
    r.claim k = (r.release k).1.claim (r.release k).2 := by
  refine claim_congr ?_
  rw [release_of_not_pending (pendingRelease_release r k)]

theorem goesOn_release (r : Reader) (k : Kernel) :
    GoesOn r.claim k (r.release k).1.claim (r.release k).2 := by
  refine ⟨(script_release r k).symm, claim_release r k, fun n => ?_⟩
  rw [claim_release, release_cut]

theorem clears_of_pending (hp : r.cursor.pendingRelease = true) :
    Clears r.claim k r.cursor.version r.cursor.base := by
  have hcleared : isUserSlot (r.release k).2.memory r.cursor.version r.cursor.base = false := by
    rw [release_of_pending hp, Kernel.memory_release]
    exact isUserSlot_clearSlot_self ..
  rw [← version_release r k] at hcleared
  have hclaim := clears_of_not_user _ _ hcleared
  rw [version_release] at hclaim
  exact hclaim.of_goesOn (goesOn_release r k)

/-! ## Reads one after the other -/

/-- The readers of reads one after the other; read number `n` meets the kernel `ks n`. -/
def after (r : Reader) (ks : Nat → Kernel) : Nat → Reader
  | 0 => r
  | n + 1 => ((after r ks n).next (ks n)).2.1

/-- The first `n` of these reads: the memory that each met, and its result. -/
def log (r : Reader) (ks : Nat → Kernel) (n : Nat) : List (Region × Except CaptureError Frame) :=
  (List.range n).map fun i => ((ks i).memory, ((r.after ks i).next (ks i)).1)

end Reader

namespace Cursor

/-- The reader is between slots, before a block of its own. -/
structure AtBlock (c : Cursor) (mem : Region) : Prop where
  version : c.version = .v3
  pendingRelease : c.pendingRelease = false
  phase : c.phase ≠ .haveHeader
  user : c.isUser mem = true

/-- The records that a walk through the block at the cursor visits. -/
def visited (c : Cursor) (mem : Region) : List BlockPosition :=
  (BlockPosition.first mem c.base c.geometry.blockSize).trail mem c.geometry.blockSize

def lengthAt (c : Cursor) (mem : Region) (p : BlockPosition) : Nat :=
  (Header.ofPosition c.geometry.blockSize p).length mem

/-- The records that reads hand out. A first record without a length hides the others. -/
def drained (c : Cursor) (mem : Region) : List BlockPosition :=
  if c.lengthAt mem (.first mem c.base c.geometry.blockSize) = 0 then [] else c.visited mem

/-- A read hands out the packet of a record, as it finds it. -/
def Returns (c : Cursor) (p : BlockPosition) (read : Region × Except CaptureError Frame) : Prop :=
  read.2 = .ok (c.frame read.1 (.ofPosition c.geometry.blockSize p))

/-- The reader `c` has come from `c₀` to the record at `p` of the block there. -/
structure Standing (c₀ : Cursor) (p : BlockPosition) (c : Cursor) : Prop where
  start : c.start = c₀.start
  index : c.index = c₀.index
  pendingRelease : c.pendingRelease = true
  phase : c.phase = .haveHeader
  block : c.block = some p

variable {c c₀ : Cursor} {mem : Region} {p q : BlockPosition}

theorem Standing.geometry (h : Standing c₀ p c) : c.geometry = c₀.geometry := by
  have hg := congrArg Cursor.geometry h.start
  exact hg

theorem Standing.version (h : Standing c₀ p c) : c.version = c₀.version := by
  have hv := congrArg Cursor.version h.start
  exact hv

theorem Standing.base (h : Standing c₀ p c) : c.base = c₀.base := by
  unfold Cursor.base
  rw [h.geometry, h.version, h.index]

theorem header_of_v3 (hv : c.version = .v3) (mem : Region) :
    c.header mem =
      .ofPosition c.geometry.blockSize (.first mem c.base c.geometry.blockSize) := by
  unfold header
  rw [hv]
  rfl

theorem walk_of_phase_ne (hph : c.phase ≠ .haveHeader) (mem : Region) : c.walk mem = (c, none) := by
  unfold walk
  split
  · next hp _ => exact absurd hp hph
  · next hp _ => exact absurd hp hph
  · rfl

theorem walk_of_advance (hph : c.phase = .haveHeader) (hb : c.block = some p)
    (hq : p.advance? mem c.geometry.blockSize = some q) :
    c.walk mem = ({ c with block := some q }, some (.ofPosition c.geometry.blockSize q)) := by
  unfold walk
  rw [hph, hb]
  dsimp only
  rw [hq]

theorem walk_of_end (hph : c.phase = .haveHeader) (hb : c.block = some p)
    (hq : p.advance? mem c.geometry.blockSize = none) :
    c.walk mem = ({ c with phase := .blockExhausted }, none) := by
  unfold walk
  rw [hph, hb]
  dsimp only
  rw [hq]

theorem standing_take (h : c.AtBlock mem) (hl : (c.header mem).length mem ≠ 0) :
    Standing c (.first mem c.base c.geometry.blockSize) (c.take mem) := by
  refine ⟨c.start_take mem, (c.version_take mem).2.2.1, (c.version_take mem).2.2.2, ?_, ?_⟩
  · rw [take, if_neg hl]
  · rw [take, if_neg hl, if_pos h.version]

end Cursor

namespace Reader

variable {r : Reader} {k : Kernel} {c₀ : Cursor} {p q : BlockPosition}

/-- With no slot held and one to take, a read hands out its first packet. -/
theorem next_of_packet (hph : r.cursor.phase ≠ .haveHeader)
    (hp : r.cursor.pendingRelease = false) (hu : r.cursor.isUser k.memory = true)
    (hl : (r.cursor.header k.memory).length k.memory ≠ 0) :
    r.next k =
      emit { r with cursor := r.cursor.take k.memory } k (r.cursor.header k.memory) := by
  have hwalk := Cursor.walk_of_phase_ne hph k.memory
  have hpacket := claim_of_packet (r := r) (k := k)
  rw [release_of_not_pending hp] at hpacket
  rw [next_of_walk_none (by rw [hwalk]), hwalk]
  exact hpacket hu hl

theorem clears_first (h : r.cursor.AtBlock k.memory)
    (hl : (r.cursor.header k.memory).length k.memory = 0) :
    Clears r.next k r.cursor.version r.cursor.base := by
  have hwalk := Cursor.walk_of_phase_ne h.phase k.memory
  have hnext := goesOn_of_walk_none (r := r) (k := k) (by rw [hwalk])
  have hempty := goesOn_of_empty (r := r) (k := k)
  rw [release_of_not_pending h.pendingRelease] at hempty
  rw [hwalk] at hnext
  obtain ⟨hv, hg, hi, hp⟩ := r.cursor.version_take k.memory
  have htaken := clears_of_pending (r := { r with cursor := r.cursor.take k.memory }) (k := k) hp
  unfold Cursor.base at htaken ⊢
  dsimp only at htaken
  rw [hv, hg, hi] at htaken
  exact htaken.of_goesOn (hnext.trans (hempty h.user hl))

theorem next_advance (h : Cursor.Standing c₀ p r.cursor)
    (hq : p.advance? k.memory r.cursor.geometry.blockSize = some q) :
    r.next k = emit { r with cursor := { r.cursor with block := some q } } k
      (.ofPosition r.cursor.geometry.blockSize q) := by
  have hwalk := Cursor.walk_of_advance h.phase h.block hq
  rw [next_of_walk_some (by rw [hwalk]), hwalk]

theorem clears_end (h : Cursor.Standing c₀ p r.cursor)
    (hq : p.advance? k.memory r.cursor.geometry.blockSize = none) :
    Clears r.next k r.cursor.version r.cursor.base := by
  have hwalk := Cursor.walk_of_end h.phase h.block hq
  have hnext := goesOn_of_walk_none (r := r) (k := k) (by rw [hwalk])
  have hp : (r.cursor.walk k.memory).1.pendingRelease = true := by
    rw [hwalk]
    exact h.pendingRelease
  have hclaim := clears_of_pending
    (r := { r with cursor := (r.cursor.walk k.memory).1 }) (k := k) hp
  rw [hwalk] at hclaim hnext
  exact hclaim.of_goesOn hnext

variable {ks : Nat → Kernel} {i n : Nat} {rest : List BlockPosition}

/-- Read number `i` hands out the record at `p` of the block, and leaves the records `rest`. -/
structure HandsOut (r : Reader) (ks : Nat → Kernel) (i : Nat) (p : BlockPosition)
    (rest : List BlockPosition) : Prop where
  trail : p.trail (ks 0).memory r.cursor.geometry.blockSize = p :: rest
  low : r.cursor.base ≤ p.packet
  high : p.packet + BlockPosition.headerSize ≤ r.cursor.base + r.cursor.geometry.blockSize
  block : p.block = r.cursor.base
  standing : Cursor.Standing r.cursor p (r.after ks (i + 1)).cursor
  returns : r.cursor.Returns p ((ks i).memory, ((r.after ks i).next (ks i)).1)
  kernel : ((r.after ks i).next (ks i)).2.2 = ks i

abbrev SameBlock (r : Reader) (mem mem' : Region) : Prop :=
  mem.SameOn r.cursor.base (r.cursor.base + r.cursor.geometry.blockSize) mem'

theorem handsOut_first (h : r.cursor.AtBlock (ks 0).memory)
    (hl : (r.cursor.header (ks 0).memory).length (ks 0).memory ≠ 0) :
    ∃ p rest, r.cursor.visited (ks 0).memory = p :: rest ∧ HandsOut r ks 0 p rest := by
  have hnext := next_of_packet h.phase h.pendingRelease h.user hl
  have hheader := Cursor.header_of_v3 h.version (ks 0).memory
  have hroom : ¬ (BlockPosition.first (ks 0).memory r.cursor.base
      r.cursor.geometry.blockSize).total = 0 := by
    intro hz
    refine hl ?_
    rw [hheader]
    unfold Header.length Header.ofPosition
    rw [hz]
    rfl
  obtain ⟨hlow, hhigh⟩ := BlockPosition.first_inside hroom
  refine ⟨_, _, BlockPosition.trail_eq_cons .., BlockPosition.trail_eq_cons .., hlow, hhigh, rfl,
    ?_, ?_, ?_⟩
  · show Cursor.Standing _ _ (r.next (ks 0)).2.1.cursor
    rw [hnext]
    exact Cursor.standing_take h hl
  · show (r.next (ks 0)).1 = _
    rw [hnext, hheader]
    show Except.ok ((r.cursor.take (ks 0).memory).frame _ _) = _
    rw [Cursor.frame_of_start (Cursor.start_take ..)]
  · show (r.next (ks 0)).2.2 = ks 0
    rw [hnext]
    rfl

theorem HandsOut.next (h : HandsOut r ks i p (q :: rest))
    (hsame : r.SameBlock (ks 0).memory (ks (i + 1)).memory) : HandsOut r ks (i + 1) q rest := by
  have hadvance : p.advance? (ks 0).memory r.cursor.geometry.blockSize = some q := by
    have htrail := h.trail
    cases hq : p.advance? (ks 0).memory r.cursor.geometry.blockSize with
    | none =>
      rw [BlockPosition.trail_of_end hq] at htrail
      cases htrail
    | some q' =>
      rw [BlockPosition.trail_of_advance hq, BlockPosition.trail_eq_cons] at htrail
      cases htrail
      rfl
  obtain ⟨hblock, -, -, -, hlt, hle⟩ := BlockPosition.advance?_bounds hadvance
  have htrail := h.trail
  rw [BlockPosition.trail_of_advance hadvance] at htrail
  have hstep := hadvance
  rw [BlockPosition.advance?_eq_of_sameOn hsame h.low h.high, ← h.standing.geometry] at hstep
  have hnext := next_advance h.standing hstep
  refine ⟨(List.cons.inj htrail).2, h.low.trans hlt.le, h.block ▸ hle, hblock.trans h.block,
    ?_, ?_, ?_⟩
  · show Cursor.Standing _ _ ((r.after ks (i + 1)).next (ks (i + 1))).2.1.cursor
    rw [hnext]
    exact ⟨h.standing.start, h.standing.index, h.standing.pendingRelease, h.standing.phase, rfl⟩
  · show ((r.after ks (i + 1)).next (ks (i + 1))).1 = _
    rw [hnext]
    show Except.ok ((r.after ks (i + 1)).cursor.frame _ _) = _
    rw [Cursor.frame_of_start h.standing.start, h.standing.geometry]
  · rw [hnext]
    rfl

/-- As long as records are left, the next read hands out the next one. -/
theorem after_drained (h : r.cursor.AtBlock (ks 0).memory)
    (hl : (r.cursor.header (ks 0).memory).length (ks 0).memory ≠ 0)
    (hsame : ∀ j ≤ n, r.SameBlock (ks 0).memory (ks j).memory)
    (hn : n < (r.cursor.visited (ks 0).memory).length) :
    ∃ p rest, (r.cursor.visited (ks 0).memory).drop n = p :: rest ∧ HandsOut r ks n p rest := by
  induction n with
  | zero => exact handsOut_first h hl
  | succ n ih =>
    obtain ⟨p, rest, hdrop, hout⟩ :=
      ih (fun j hj => hsame j (Nat.le_succ_of_le hj)) (Nat.lt_of_succ_lt hn)
    have hdrop' : (r.cursor.visited (ks 0).memory).drop (n + 1) = rest := by
      rw [← List.drop_drop, hdrop]
      rfl
    cases rest with
    | nil =>
      rw [List.drop_eq_nil_iff] at hdrop'
      omega
    | cons q rest => exact ⟨q, rest, hdrop', hout.next (hsame _ (Nat.le_refl _))⟩

theorem HandsOut.not_clears (h : HandsOut r ks i p rest) (hat : r.cursor.AtBlock (ks 0).memory)
    (hsame : r.SameBlock (ks 0).memory (ks i).memory) :
    ¬ Clears (r.after ks i).next (ks i) r.cursor.version r.cursor.base := by
  have hroom : 48 ≤ r.cursor.geometry.blockSize := by
    have hlow := h.low
    have hhigh := h.high
    change p.packet + 48 ≤ _ at hhigh
    omega
  have huser : isUserSlot (ks i).memory r.cursor.version r.cursor.base = true := by
    rw [← hsame.isUserSlot_eq (Nat.le_refl _) ?_]
    · exact hat.user
    · rw [hat.version]
      show r.cursor.base + 8 + 4 ≤ _
      omega
  have hpolled : polled (r.after ks i).next (ks i) = 0 := polled_eq_zero (by rw [h.kernel])
  rintro (hend | ⟨n, hn, -⟩)
  · rw [h.kernel, huser] at hend
    cases hend
  · rw [hpolled] at hn
    exact absurd hn (Nat.not_lt_zero _)

theorem HandsOut.clears (h : HandsOut r ks i p [])
    (hsame : r.SameBlock (ks 0).memory (ks (i + 1)).memory) :
    Clears (r.after ks (i + 1)).next (ks (i + 1)) r.cursor.version r.cursor.base := by
  have hend : p.advance? (ks 0).memory r.cursor.geometry.blockSize = none := by
    have htrail := h.trail
    cases hq : p.advance? (ks 0).memory r.cursor.geometry.blockSize with
    | none => rfl
    | some q =>
      rw [BlockPosition.trail_of_advance hq, BlockPosition.trail_eq_cons] at htrail
      cases htrail
  rw [BlockPosition.advance?_eq_of_sameOn hsame h.low h.high, ← h.standing.geometry] at hend
  rw [← h.standing.version, ← h.standing.base]
  exact clears_end h.standing hend

/-! ## Until the block goes back -/

section Until

theorem header_eq_lengthAt (hat : r.cursor.AtBlock (ks 0).memory) :
    (r.cursor.header (ks 0).memory).length (ks 0).memory =
      r.cursor.lengthAt (ks 0).memory
        (.first (ks 0).memory r.cursor.base r.cursor.geometry.blockSize) := by
  rw [Cursor.header_of_v3 hat.version]
  rfl

theorem visited_length_pos (r : Reader) (ks : Nat → Kernel) :
    0 < (r.cursor.visited (ks 0).memory).length := by
  unfold Cursor.visited
  rw [BlockPosition.trail_eq_cons]
  exact Nat.succ_pos _

theorem clears_length (hat : r.cursor.AtBlock (ks 0).memory)
    (hl : (r.cursor.header (ks 0).memory).length (ks 0).memory ≠ 0)
    (hn : n = (r.cursor.visited (ks 0).memory).length)
    (hsame : ∀ j ≤ n, r.SameBlock (ks 0).memory (ks j).memory) :
    Clears (r.after ks n).next (ks n) r.cursor.version r.cursor.base := by
  have hpos := visited_length_pos r ks
  obtain ⟨m, rfl⟩ : ∃ m, n = m + 1 := ⟨n - 1, by omega⟩
  obtain ⟨p, rest, hdrop, hout⟩ := after_drained hat hl
    (fun j hj => hsame j (Nat.le_succ_of_le hj)) (show m < _ by omega)
  have hrest : rest = [] := by
    have hlen := congrArg List.length hdrop
    rw [List.length_drop, List.length_cons] at hlen
    exact List.eq_nil_of_length_eq_zero (by omega)
  subst hrest
  exact hout.clears (hsame _ (Nat.le_refl _))

/-- Reads that leave the block with the reader are no more than the records to hand out, and only
the one after these gives it back. -/
theorem clears_iff (hat : r.cursor.AtBlock (ks 0).memory)
    (hsame : ∀ j ≤ n, r.SameBlock (ks 0).memory (ks j).memory)
    (hheld : ∀ i < n, ¬ Clears (r.after ks i).next (ks i) r.cursor.version r.cursor.base) :
    n ≤ (r.cursor.drained (ks 0).memory).length ∧
      (Clears (r.after ks n).next (ks n) r.cursor.version r.cursor.base ↔
        n = (r.cursor.drained (ks 0).memory).length) := by
  by_cases hl : (r.cursor.header (ks 0).memory).length (ks 0).memory = 0
  · have hdrained : r.cursor.drained (ks 0).memory = [] := if_pos (header_eq_lengthAt hat ▸ hl)
    have hclears := clears_first hat hl
    have hn : n = 0 := Nat.eq_zero_of_not_pos fun hpos => hheld 0 hpos hclears
    subst hn
    rw [hdrained]
    exact ⟨Nat.le_refl _, fun _ => rfl, fun _ => hclears⟩
  · have hdrained : r.cursor.drained (ks 0).memory = r.cursor.visited (ks 0).memory :=
      if_neg (header_eq_lengthAt hat ▸ hl)
    rw [hdrained]
    have hle : n ≤ (r.cursor.visited (ks 0).memory).length := by
      by_contra hlt
      exact hheld _ (Nat.lt_of_not_le hlt)
        (clears_length hat hl rfl fun j hj => hsame j (by omega))
    refine ⟨hle, fun hclears => ?_, fun hn => clears_length hat hl hn hsame⟩
    by_contra hne
    obtain ⟨p, rest, -, hout⟩ := after_drained hat hl hsame (by omega)
    exact hout.not_clears hat (hsame n (Nat.le_refl _)) hclears

theorem log_succ (r : Reader) (ks : Nat → Kernel) (n : Nat) :
    r.log ks (n + 1) = r.log ks n ++ [((ks n).memory, ((r.after ks n).next (ks n)).1)] := by
  unfold log
  rw [List.range_succ, List.map_append]
  rfl

theorem log_visited (hat : r.cursor.AtBlock (ks 0).memory)
    (hl : (r.cursor.header (ks 0).memory).length (ks 0).memory ≠ 0)
    (hsame : ∀ j ≤ n, r.SameBlock (ks 0).memory (ks j).memory)
    (hn : n ≤ (r.cursor.visited (ks 0).memory).length) :
    List.Forall₂ r.cursor.Returns ((r.cursor.visited (ks 0).memory).take n) (r.log ks n) := by
  induction n with
  | zero => exact .nil
  | succ n ih =>
    obtain ⟨p, rest, hdrop, hout⟩ := after_drained hat hl
      (fun j hj => hsame j (Nat.le_succ_of_le hj)) (show n < _ by omega)
    rw [List.drop_eq_getElem_cons hn] at hdrop
    rw [List.take_succ_eq_append_getElem hn, (List.cons.inj hdrop).1, log_succ]
    exact List.rel_append (ih (fun j hj => hsame j (Nat.le_succ_of_le hj)) (Nat.le_of_succ_le hn))
      (.cons hout.returns .nil)

end Until

end Reader

theorem sublistForall₂_filter {α β : Type} {R : α → β → Prop} {l : List α} {l' : List β}
    (h : List.Forall₂ R l l') (p : α → Bool) : List.SublistForall₂ R (l.filter p) l' := by
  induction h with
  | nil => exact .nil
  | @cons a b l l' hab _ ih =>
    cases hp : p a with
    | true =>
      rw [List.filter_cons_of_pos hp]
      exact .cons hab ih
    | false =>
      rw [List.filter_cons_of_neg (by rw [hp]; exact Bool.false_ne_true)]
      exact .cons_right ih

/-- Take a reader before a block of its own, whatever the block holds, and reads of which all but
the last leave the block with it, while the kernel writes elsewhere only. The reads hand out the
drained records one by one, and the read after these gives the block back. So every record with a
length was handed out before, in order, just when the first record has a length or none of them
has. -/
theorem Reader.returned_iff_of_atBlock (r : Reader) (ks : Nat → Kernel) (n : Nat)
    (hat : r.cursor.AtBlock (ks 0).memory)
    (hsame : ∀ j ≤ n, r.SameBlock (ks 0).memory (ks j).memory)
    (hheld : ∀ i < n, ¬ Clears (r.after ks i).next (ks i) .v3 r.cursor.base) :
    (Clears (r.after ks n).next (ks n) .v3 r.cursor.base ↔
        n = (r.cursor.drained (ks 0).memory).length) ∧
      List.Forall₂ r.cursor.Returns ((r.cursor.drained (ks 0).memory).take n) (r.log ks n) ∧
      (Clears (r.after ks n).next (ks n) .v3 r.cursor.base →
        (List.SublistForall₂ r.cursor.Returns
            ((r.cursor.visited (ks 0).memory).filter fun p => r.cursor.lengthAt (ks 0).memory p ≠ 0)
            (r.log ks n) ↔
          r.cursor.lengthAt (ks 0).memory
              (.first (ks 0).memory r.cursor.base r.cursor.geometry.blockSize) ≠ 0 ∨
            ∀ p ∈ r.cursor.visited (ks 0).memory, r.cursor.lengthAt (ks 0).memory p = 0)) := by
  rw [← hat.version] at hheld ⊢
  obtain ⟨hle, hclears⟩ := Reader.clears_iff hat hsame hheld
  have hheader := Reader.header_eq_lengthAt hat
  by_cases hl : (r.cursor.header (ks 0).memory).length (ks 0).memory = 0
  · -- The block goes back at once.
    have hdrained : r.cursor.drained (ks 0).memory = [] := if_pos (hheader ▸ hl)
    rw [hdrained] at hle hclears ⊢
    obtain rfl : n = 0 := Nat.le_zero.1 hle
    refine ⟨hclears, .nil, fun _ => ?_⟩
    rw [← hheader]
    constructor
    · intro hall
      refine Or.inr fun p hp => ?_
      by_contra hne
      have hmem : p ∈ (r.cursor.visited (ks 0).memory).filter
          fun p => r.cursor.lengthAt (ks 0).memory p ≠ 0 :=
        List.mem_filter.2 ⟨hp, decide_eq_true hne⟩
      obtain ⟨l, hall, hsub⟩ := List.sublistForall₂_iff.1 hall
      have hlen := hall.length_eq
      rw [List.eq_nil_of_sublist_nil hsub] at hlen
      rw [List.eq_nil_of_length_eq_zero hlen] at hmem
      cases hmem
    · intro hall
      rw [List.filter_eq_nil_iff.2]
      · exact .nil
      · intro p hp
        rw [hall.resolve_left (fun hne => hne hl) p hp]
        decide
  · -- The block goes back after its last record.
    have hdrained : r.cursor.drained (ks 0).memory = r.cursor.visited (ks 0).memory :=
      if_neg (hheader ▸ hl)
    rw [hdrained] at hle hclears ⊢
    have hlog := Reader.log_visited hat hl hsame hle
    refine ⟨hclears, hlog, fun hback => ?_⟩
    rw [hclears.1 hback, List.take_length] at hlog
    rw [hclears.1 hback]
    exact iff_of_true (sublistForall₂_filter hlog _) (Or.inl (hheader ▸ hl))

end PacketRing
