import Mathlib
import PacketRing.Options

/-!
# Options that pass their check

* `Options.Admissible` : which options pass (`Options.check_eq_ok_iff`);
* `Options.of_check` : what the check ensures of the sizes asked for;
* `blockSize_of_check`, `mappingSize_of_check` : the ring then has the blocks that were asked for,
  and bytes to map;
* `Admissible.mappingSize_lt`, `Admissible.retireTimeout_ne` : their number does not wrap in 64
  bits, and a timeout is none of zero milliseconds.
-/

namespace PacketRing

namespace Options

variable {o : Options} {pageSize : Nat}

/-- What the check is to ensure: whole pages and frames in a block, sizes and counts that fit a
32-bit word, and a block timeout of a millisecond or more, if there is one. -/
structure Admissible (o : Options) (pageSize : Nat) : Prop where
  positive : 1 ≤ pageSize ∧ 1 ≤ o.frameSize ∧ 1 ≤ o.blockSize ∧ 1 ≤ o.numBlocks
  pages : pageSize ∣ o.blockSize
  frames : o.frameSize ∣ o.blockSize
  blockSize_lt : o.blockSize < 2 ^ 32
  frameSize_lt : o.frameSize < 2 ^ 32
  numBlocks_lt : o.numBlocks < 2 ^ 32
  frameCount_lt : o.blockSize / o.frameSize * o.numBlocks < 2 ^ 32
  timeout : o.blockTimeout.nanos = 0 ∨ (Duration.ofMillis 1).nanos ≤ o.blockTimeout.nanos

theorem frameCount_geometry (h : 1 ≤ o.frameSize) :
    o.geometry.frameCount = o.blockSize / o.frameSize * o.numBlocks := by
  show o.blockSize / max o.frameSize 1 * o.numBlocks = _
  rw [Nat.max_eq_left h]

theorem problem?_eq_none_iff : o.problem? pageSize = none ↔ o.Admissible pageSize := by
  unfold problem?
  dsimp only
  constructor
  · intro h
    split at h
    · cases h
    next hsizes =>
    split at h
    · cases h
    next hpages =>
    split at h
    · cases h
    next hframes =>
    split at h
    · cases h
    next hblocks =>
    split at h
    · cases h
    next hlarge =>
    split at h
    · cases h
    next htimeout =>
    have hframe : 1 ≤ o.frameSize := by omega
    rw [frameCount_geometry hframe] at hlarge
    change ¬ (2 ^ 32 ≤ _ ∨ 2 ^ 32 ≤ _ ∨ 2 ^ 32 ≤ _ ∨ 2 ^ 32 ≤ _) at hlarge
    refine ⟨⟨by omega, hframe, by omega, by omega⟩, Nat.dvd_of_mod_eq_zero (by omega),
      Nat.dvd_of_mod_eq_zero (by omega), ?_, ?_, ?_, ?_, by omega⟩ <;> omega
  · intro h
    obtain ⟨hpage, hframe, hblock, hnum⟩ := h.positive
    have hpages := Nat.mod_eq_zero_of_dvd h.pages
    have hframes := Nat.mod_eq_zero_of_dvd h.frames
    have hlarge : ¬ (UInt32.size ≤ o.blockSize ∨ UInt32.size ≤ o.frameSize ∨
        UInt32.size ≤ o.numBlocks ∨ UInt32.size ≤ o.geometry.frameCount) := by
      rw [frameCount_geometry hframe]
      simp only [not_or, Nat.not_le]
      exact ⟨h.blockSize_lt, h.frameSize_lt, h.numBlocks_lt, h.frameCount_lt⟩
    have htimeout := h.timeout
    rw [if_neg (by omega), if_neg (by omega), if_neg (by omega), if_neg (by omega),
      if_neg hlarge, if_neg (by omega)]

theorem check_eq_ok_iff : o.check pageSize = .ok () ↔ o.Admissible pageSize := by
  rw [← problem?_eq_none_iff]
  unfold check
  cases o.problem? pageSize with
  | none => simp
  | some p => simp

theorem of_check (h : o.check pageSize = .ok ()) :
    0 < o.frameSize ∧ 0 < o.blockSize ∧ o.blockSize % o.frameSize = 0 ∧ 0 < o.numBlocks := by
  have hadmissible := check_eq_ok_iff.1 h
  obtain ⟨-, hframe, hblock, hnum⟩ := hadmissible.positive
  exact ⟨hframe, hblock, Nat.mod_eq_zero_of_dvd hadmissible.frames, hnum⟩

theorem blockSize_of_check (h : o.check pageSize = .ok ()) :
    o.geometry.blockSize = o.blockSize := by
  obtain ⟨hframe, -, hdvd, -⟩ := of_check h
  show o.frameSize * (o.blockSize / max o.frameSize 1) = o.blockSize
  rw [Nat.max_eq_left hframe, Nat.mul_div_cancel' (Nat.dvd_of_mod_eq_zero hdvd)]

theorem mappingSize_of_check (h : o.check pageSize = .ok ()) : 0 < o.geometry.mappingSize := by
  obtain ⟨-, hblock, -, hnum⟩ := of_check h
  show 0 < o.geometry.blockSize * o.numBlocks
  rw [blockSize_of_check h]
  exact Nat.mul_pos hblock hnum

/-- The retire timeout in whole milliseconds, cut to what a 32-bit word holds. -/
def retireTimeout (o : Options) : Nat := min o.blockTimeout.millis (2 ^ 32 - 1)

namespace Admissible

theorem blockSize_geometry (h : o.Admissible pageSize) : o.geometry.blockSize = o.blockSize :=
  blockSize_of_check (check_eq_ok_iff.2 h)

theorem mappingSize_geometry (h : o.Admissible pageSize) :
    o.geometry.mappingSize = o.blockSize * o.numBlocks := by
  show o.geometry.blockSize * o.numBlocks = _
  rw [h.blockSize_geometry]

/-- Sizes in words of 32 bits leave room beyond the mapping: two words of it. -/
theorem mappingSize_le (h : o.Admissible pageSize) :
    o.geometry.mappingSize ≤ (2 ^ 32 - 1) * (2 ^ 32 - 1) := by
  rw [h.mappingSize_geometry]
  exact Nat.mul_le_mul (Nat.le_pred_of_lt h.blockSize_lt) (Nat.le_pred_of_lt h.numBlocks_lt)

theorem mappingSize_lt (h : o.Admissible pageSize) : o.geometry.mappingSize < 2 ^ 64 :=
  h.mappingSize_le.trans_lt (by norm_num)

/-- Zero would leave the timeout to the kernel. -/
theorem retireTimeout_ne (h : o.Admissible pageSize) (ht : o.blockTimeout.nanos ≠ 0) :
    o.retireTimeout ≠ 0 := by
  have hmillis := h.timeout.resolve_left ht
  change 1 * 1000000 ≤ o.blockTimeout.nanos at hmillis
  unfold retireTimeout Duration.millis
  omega

end Admissible

end Options

end PacketRing
