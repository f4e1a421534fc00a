import Mathlib
import PacketRing.Proofs.Contents

/-!
# Slots and what the kernel leaves in them

* `Cursor.Aligned` : a ring whose status words can be accessed (`Aligned.accessible`);
* `Fills` : the kernel fills a slot of its own and gives it to the reader;
* `Owned` : a slot is the reader's and holds certain packets. What happens in other slots does not
  change that (`Owned.of_sameSlot`);
* `Cursor.Steady` : the walk that the reader is in keeps to its slot, so other slots do not matter
  to it either (`Steady.rest_eq`).
-/

namespace PacketRing

namespace Cursor

def offset (c : Cursor) (i : Nat) : Nat := c.geometry.slotOffset c.version i

/-- There is a slot, and the slots are a multiple of 16 bytes long. -/
structure Aligned (c : Cursor) : Prop where
  slots : 0 < c.geometry.slots c.version
  room : 0 < c.geometry.slotSize c.version
  size : c.geometry.slotSize c.version % 16 = 0

abbrev SameSlot (c : Cursor) (i : Nat) (mem mem' : Region) : Prop :=
  mem.SameOn (c.offset i) (c.offset (i + 1)) mem'

variable {c : Cursor} {mem mem' : Region} {i j : Nat}

theorem offset_succ (c : Cursor) (i : Nat) :
    c.offset (i + 1) = c.offset i + c.geometry.slotSize c.version := Nat.succ_mul ..

theorem offset_succ_of_v3 (hv : c.version = .v3) (i : Nat) :
    c.offset (i + 1) = c.offset i + c.geometry.blockSize := by
  rw [c.offset_succ, hv]
  rfl

theorem offset_le (c : Cursor) (h : i < j) : c.offset (i + 1) ≤ c.offset j :=
  Nat.mul_le_mul_right _ h

theorem offset_slots (c : Cursor) :
    c.offset (c.geometry.slots c.version) = c.geometry.mappingSize :=
  c.geometry.slots_mul_slotSize c.version

theorem offset_of_start {c' : Cursor} (hs : c'.start = c.start) : c'.offset = c.offset := by
  have hoffset : c'.start.offset = c.start.offset := by rw [hs]
  exact hoffset

theorem Aligned.round_eq (ha : c.Aligned) : c.round = c.geometry.slots c.version :=
  Nat.max_eq_left ha.slots

theorem Aligned.offset_le_size (ha : c.Aligned) (hm : mem.size = c.geometry.mappingSize)
    (hi : i < c.round) : c.offset (i + 1) ≤ mem.size := by
  rw [ha.round_eq] at hi
  rw [hm, ← c.offset_slots]
  exact c.offset_le hi

theorem Aligned.status_le (ha : c.Aligned) (i : Nat) :
    c.offset i + c.version.statusWord.offset + c.version.statusWord.width ≤ c.offset (i + 1) := by
  obtain ⟨-, hr, hs⟩ := ha
  have hw : c.version.statusWord.offset + c.version.statusWord.width ≤ 12 := by
    cases c.version <;> decide
  rw [c.offset_succ]
  omega

theorem Aligned.accessible (ha : c.Aligned) (hm : mem.size = c.geometry.mappingSize)
    (hi : i < c.round) :
    mem.Accessible (statusOffset c.version (c.offset i)) c.version.statusWord.width := by
  refine ⟨(ha.status_le i).trans (ha.offset_le_size hm hi), ?_⟩
  have ho : c.offset i % 16 = 0 := by
    unfold offset Geometry.slotOffset
    rw [Nat.mul_mod, ha.size, Nat.mul_zero, Nat.zero_mod]
  unfold statusOffset
  cases c.version <;> simp only [Version.statusWord] <;> omega

end Cursor

/-- A status word that can be accessed gives its slot to the reader by the reader's bit. -/
theorem isUserSlot_eq_hasBit {mem : Region} {v : Version} {base : Nat}
    (h : mem.Accessible (statusOffset v base) v.statusWord.width) :
    isUserSlot mem v base = hasBit (mem.word (statusOffset v base) v.statusWord.width) userBit := by
  unfold isUserSlot slotStatus Region.aligned?
  rw [if_pos h, Option.getD_some]
  unfold hasBit userBit UInt32.size
  congr 1
  omega

/-! ## Filling a slot -/

/-- The kernel fills slot `i`, which is its own, and gives it to the reader. -/
structure Fills (c : Cursor) (i : Nat) (mem mem' : Region) : Prop where
  kernel : mem.word (statusOffset c.version (c.offset i)) c.version.statusWord.width = statusKernel
  size : mem.size = mem'.size
  outside : ∀ x < mem.size, x < c.offset i ∨ c.offset (i + 1) ≤ x → mem.byte x = mem'.byte x
  user : hasBit (mem'.word (statusOffset c.version (c.offset i)) c.version.statusWord.width)
    userBit = true

section Filling
variable {c : Cursor} {mem mem' : Region} {i j : Nat}

theorem Fills.not_isUser (h : Fills c i mem mem') (ha : c.Aligned)
    (hm : mem.size = c.geometry.mappingSize) (hi : i < c.round) :
    isUserSlot mem c.version (c.offset i) = false := by
  rw [isUserSlot_eq_hasBit (ha.accessible hm hi), h.kernel]
  decide

theorem Fills.isUser (h : Fills c i mem mem') (ha : c.Aligned)
    (hm : mem.size = c.geometry.mappingSize) (hi : i < c.round) :
    isUserSlot mem' c.version (c.offset i) = true := by
  rw [isUserSlot_eq_hasBit (ha.accessible (h.size ▸ hm) hi), h.user]

theorem Fills.sameSlot (h : Fills c i mem mem') (ha : c.Aligned)
    (hm : mem.size = c.geometry.mappingSize) (hj : j < c.round) (hne : j ≠ i) :
    c.SameSlot j mem mem' := by
  refine ⟨h.size, fun x hx hx' => h.outside x ?_ ?_⟩
  · exact hx'.trans_le (ha.offset_le_size hm hj)
  · rcases Nat.lt_or_gt_of_ne hne with hlt | hlt
    · exact Or.inl (hx'.trans_le (c.offset_le hlt))
    · exact Or.inr ((c.offset_le hlt).trans hx)

end Filling

/-! ## Slots of the reader -/

namespace Cursor

/-- The records of slot `i` lie in it with their addresses, unless it is a block without any. -/
def Inside (c : Cursor) (mem : Region) (i : Nat) : Prop :=
  (c.front mem i).vacant = true ∨
    ∀ h ∈ c.records mem i, h.version = c.version ∧ h.slot = c.offset i ∧ c.offset i ≤ h.record ∧
      h.record + c.version.layout.address + 8 ≤ c.offset (i + 1)

/-- The walk that the reader is in keeps to the slot: its records lie there with their addresses. -/
def Steady (c : Cursor) (mem : Region) : Prop :=
  ∀ p, c.phase = .haveHeader → c.block = some p →
    c.version = .v3 ∧ ∀ q ∈ p.trail mem c.geometry.blockSize, q.block = c.base ∧ c.base ≤ q.packet ∧
      q.packet + (Version.layout .v3).address + 8 ≤ c.base + c.geometry.blockSize

variable {c : Cursor} {mem mem' : Region} {i : Nat}

theorem contents_of_vacant (h : (c.front mem i).vacant = true) : c.contents mem i = [] := by
  refine if_pos ?_
  unfold Header.length
  rw [if_pos h]

theorem records_eq_cons (c : Cursor) (mem : Region) (i : Nat) :
    c.records mem i = c.front mem i :: (c.records mem i).tail := by
  obtain ⟨v, g, snap, t, ix, ph, pr, bl⟩ := c
  cases v with
  | v1 => rfl
  | v2 => rfl
  | v3 =>
    unfold records
    dsimp only
    rw [BlockPosition.trail_eq_cons]
    rfl

theorem front_mem_records (c : Cursor) (mem : Region) (i : Nat) :
    c.front mem i ∈ c.records mem i := by
  rw [records_eq_cons]
  exact List.mem_cons_self

theorem frame_eq_of_sameSlot {h : Header} (hs : c.SameSlot i mem mem') (hv : h.version = c.version)
    (hslot : h.slot = c.offset i) (hlow : c.offset i ≤ h.record)
    (hhigh : h.record + c.version.layout.address + 8 ≤ c.offset (i + 1)) :
    c.frame mem h = c.frame mem' h := by
  refine hs.frame_eq c (hslot ▸ Nat.le_refl _) (hslot ▸ hlow) ?_
  rw [hv]
  exact hhigh

theorem records_eq_of_sameSlot (hs : c.SameSlot i mem mem')
    (hin : ∀ h ∈ c.records mem i, c.offset i ≤ h.record ∧
      h.record + c.version.layout.address + 8 ≤ c.offset (i + 1)) :
    c.records mem i = c.records mem' i := by
  have hfront := hin _ (c.front_mem_records mem i)
  have hnext := c.offset_succ i
  obtain ⟨v, g, snap, t, ix, ph, pr, bl⟩ := c
  cases v with
  | v1 => rfl
  | v2 => rfl
  | v3 =>
    obtain ⟨hlow, hhigh⟩ := hfront
    change g.slotOffset .v3 i ≤
      (BlockPosition.first mem (g.slotOffset .v3 i) g.blockSize).packet at hlow
    change (BlockPosition.first mem (g.slotOffset .v3 i) g.blockSize).packet + 48 + 8 ≤
      g.slotOffset .v3 (i + 1) at hhigh
    change g.slotOffset .v3 (i + 1) = g.slotOffset .v3 i + g.blockSize at hnext
    change mem.SameOn (g.slotOffset .v3 i) (g.slotOffset .v3 (i + 1)) mem' at hs
    have hfirst : BlockPosition.first mem (g.slotOffset .v3 i) g.blockSize =
        BlockPosition.first mem' (g.slotOffset .v3 i) g.blockSize :=
      BlockPosition.first_eq_of_sameOn hs (Nat.le_refl _)
        (show g.slotOffset .v3 i + 20 ≤ g.slotOffset .v3 (i + 1) by omega)
    unfold records
    dsimp only
    rw [← hfirst, BlockPosition.trail_eq_of_sameOn hs hlow
      (show _ + 48 ≤ g.slotOffset .v3 (i + 1) by omega) hnext.ge]

theorem vacant_of_sameSlot (hs : c.SameSlot i mem mem') (h : (c.front mem i).vacant = true) :
    (c.front mem' i).vacant = true := by
  have hnext := c.offset_succ i
  obtain ⟨v, g, snap, t, ix, ph, pr, bl⟩ := c
  cases v with
  | v1 => exact h
  | v2 => exact h
  | v3 =>
    change g.slotOffset .v3 (i + 1) = g.slotOffset .v3 i + g.blockSize at hnext
    change mem.SameOn (g.slotOffset .v3 i) (g.slotOffset .v3 (i + 1)) mem' at hs
    change ((BlockPosition.first mem (g.slotOffset .v3 i) g.blockSize).total == 0) = true at h
    change ((BlockPosition.first mem' (g.slotOffset .v3 i) g.blockSize).total == 0) = true
    by_cases hsize : g.blockSize < BlockPosition.headerSize
    · rw [BlockPosition.total_first_of_lt hsize]
      rfl
    · have hroom : 48 ≤ g.blockSize := Nat.le_of_not_lt hsize
      rw [← BlockPosition.first_eq_of_sameOn hs (Nat.le_refl _) (by omega)]
      exact h

theorem Inside.of_sameSlot (hin : c.Inside mem i) (hs : c.SameSlot i mem mem') :
    c.Inside mem' i := by
  rcases hin with hv | hin
  · exact Or.inl (vacant_of_sameSlot hs hv)
  · refine Or.inr ?_
    rw [← records_eq_of_sameSlot hs fun h hh => (hin h hh).2.2]
    exact hin

theorem Inside.contents_eq (hin : c.Inside mem i) (hs : c.SameSlot i mem mem') :
    c.contents mem i = c.contents mem' i := by
  rcases hin with hv | hin
  · rw [contents_of_vacant hv, contents_of_vacant (vacant_of_sameSlot hs hv)]
  · have hrec := records_eq_of_sameSlot hs fun h hh => (hin h hh).2.2
    have hfront : c.front mem i = c.front mem' i := by
      rw [records_eq_cons, c.records_eq_cons mem'] at hrec
      exact (List.cons.inj hrec).1
    have hlen : (c.front mem i).length mem = (c.front mem i).length mem' := by
      obtain ⟨hver, -, hlow, hhigh⟩ := hin _ (c.front_mem_records mem i)
      obtain ⟨-, -, -, -, -, hsize⟩ := Region.fields_le_header c.version
      refine hs.length_eq hlow ?_
      rw [hver]
      omega
    have hframes : ∀ h ∈ c.records mem i, c.frame mem h = c.frame mem' h := by
      intro h hh
      obtain ⟨hver, hslot, hlow, hhigh⟩ := hin h hh
      exact frame_eq_of_sameSlot hs hver hslot hlow hhigh
    unfold contents
    rw [hlen, hfront, ← hrec, List.map_congr_left hframes]

end Cursor

/-- Slot `i` is the reader's and holds the packets `fs`. -/
structure Owned (c : Cursor) (i : Nat) (mem : Region) (fs : List Frame) : Prop where
  user : isUserSlot mem c.version (c.offset i) = true
  inside : c.Inside mem i
  contents : c.contents mem i = fs

theorem Owned.of_sameSlot {c : Cursor} {i : Nat} {mem mem' : Region} {fs : List Frame}
    (h : Owned c i mem fs) (ha : c.Aligned) (hs : c.SameSlot i mem mem') : Owned c i mem' fs := by
  refine ⟨?_, h.inside.of_sameSlot hs, ?_⟩
  · rw [← hs.isUserSlot_eq (Nat.le_refl _) (ha.status_le i)]
    exact h.user
  · rw [← h.inside.contents_eq hs]
    exact h.contents

/-! ## The walk through a slot -/

namespace Cursor

variable {c : Cursor} {mem mem' : Region}

theorem steady_of_phase_ne (h : c.phase ≠ .haveHeader) : c.Steady mem :=
  fun _ hp => absurd hp h

/-- What is left in the slot of the reader is the same in memory that agrees on the slot. -/
theorem Steady.rest_eq (h : c.Steady mem) (hs : c.SameSlot c.index mem mem') :
    c.rest mem = c.rest mem' ∧ c.Steady mem' := by
  have htrail : ∀ p, c.phase = .haveHeader → c.block = some p →
      p.trail mem c.geometry.blockSize = p.trail mem' c.geometry.blockSize := by
    intro p hp hb
    obtain ⟨hv, hall⟩ := h p hp hb
    have hself : p ∈ p.trail mem c.geometry.blockSize := by
      rw [BlockPosition.trail_eq_cons]
      exact List.mem_cons_self
    obtain ⟨hblock, hlow, hhigh⟩ := hall p hself
    have hend := offset_succ_of_v3 hv c.index
    refine BlockPosition.trail_eq_of_sameOn hs hlow ?_ ?_
    · rw [hend]
      exact (Nat.le_add_right _ 8).trans hhigh
    · rw [hend, hblock]
      exact Nat.le_refl _
  refine ⟨?_, fun p hp hb => ?_⟩
  · unfold rest
    split
    · next p hp hb =>
      obtain ⟨hv, hall⟩ := h p hp hb
      rw [← htrail p hp hb]
      refine List.map_congr_left fun q hq => ?_
      obtain ⟨hblock, hlow, hhigh⟩ := hall q (List.mem_of_mem_tail hq)
      have hend := offset_succ_of_v3 hv c.index
      refine frame_eq_of_sameSlot hs hv.symm hblock hlow ?_
      rw [hv, hend]
      exact hhigh
    · rfl
  · rw [← htrail p hp hb]
    exact h p hp hb

theorem Inside.steady_take (h : c.Inside mem c.index) : (c.take mem).Steady mem := by
  by_cases hl : (c.header mem).length mem = 0
  · exact steady_of_phase_ne (phase_take_of_length_zero hl)
  intro p hp hb
  rcases h with hv | h
  · refine absurd ?_ hl
    unfold Header.length
    exact if_pos hv
  rw [take, if_neg hl] at hb ⊢
  obtain ⟨v, g, snap, t, ix, ph, pr, bl⟩ := c
  cases v with
  | v1 => cases hb
  | v2 => cases hb
  | v3 =>
    cases hb
    refine ⟨rfl, fun q hq => ?_⟩
    obtain ⟨-, hslot, hlow, hhigh⟩ := h _ (List.mem_map_of_mem hq)
    rw [offset_succ] at hhigh
    exact ⟨hslot, hlow, hhigh⟩

theorem Steady.walk (h : c.Steady mem) : (c.walk mem).1.Steady mem := by
  cases hw : (c.walk mem).2 with
  | none => exact steady_of_phase_ne (rest_of_walk_none hw).2
  | some hd =>
    obtain ⟨p, q, hb, hq, he⟩ := walk_eq_some hw
    rw [he]
    intro q' hp hq'
    cases hq'
    obtain ⟨hv, hall⟩ := h p hp hb
    refine ⟨hv, fun x hx => hall x ?_⟩
    rw [BlockPosition.trail_of_advance hq]
    exact List.mem_cons_of_mem _ hx

end Cursor

end PacketRing
