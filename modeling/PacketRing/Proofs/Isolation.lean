import Mathlib
import PacketRing.Proofs.Boundary
import PacketRing.Proofs.Checking
import PacketRing.Proofs.Opening
import PacketRing.Ring.Region.Lemmas

/-!
# What a packet depends on

Two reads of one reader, from memories that agree on a slot and nowhere else.

* `Reader.Due` : the next read finds a packet at once, in a given slot;
* `Reader.Due.view_eq` : both reads find it under the same header;
* `Cursor.Hangs` : the interface behind the header of the packet lies past the end of the slot;
* `Reader.frame_of_slot` : both reads hand out the same packet but for the interface, which is the
  same whatever lies outside the slot just if the packet does not hang;
* `Reader.interface_behind_block` : a record at the end of a block with its interface in the next.
-/

namespace PacketRing

/-! ## Memory that agrees -/

namespace Region

variable {a b i : Nat} {r s : Region}

theorem SameOn.symm (h : r.SameOn a b s) : s.SameOn a b r :=
  ⟨h.size.symm, fun i ha hb => (h.byte i ha hb).symm⟩

theorem SameOn.trans {t : Region} (h : r.SameOn a b s) (h' : s.SameOn a b t) : r.SameOn a b t :=
  ⟨h.size.trans h'.size, fun i ha hb => (h.byte i ha hb).trans (h'.byte i ha hb)⟩

theorem SameOn.clearSlot (h : r.SameOn a b s) (v : Version) (base : Nat) :
    (clearSlot r v base).SameOn a b (clearSlot s v base) := by
  refine ⟨by rw [size_clearSlot, size_clearSlot, h.size], fun i ha hb => ?_⟩
  rw [byte_clearSlot, byte_clearSlot, if_congr (and_congr_left' (accessible_congr h.size ..)) rfl
    (h.byte i ha hb)]

theorem sameOn_store {bs : Bytes} (r : Region) (h : i + bs.length ≤ a ∨ b ≤ i) :
    r.SameOn a b (r.store i bs) := by
  refine ⟨(size_store ..).symm, fun j ha hb => (byte_store_of_disjoint ?_).symm⟩
  omega

theorem field_of_size_lt {w : Nat} (h : r.size < i + w) : r.field i w = 0 := by
  unfold field word?
  rw [if_neg (by omega), Option.getD_none]

theorem field_of_le_size {w : Nat} (h : i + w ≤ r.size) : r.field i w = r.word i w := by
  unfold field word?
  rw [if_pos h, Option.getD_some]

/-- The word of four bytes at `i` tells what its last byte is. -/
theorem word_store_last_ne (r : Region) (hi : i + 4 ≤ r.size) :
    (r.store (i + 3) [r.byte (i + 3) + 1]).word i 4 ≠ r.word i 4 := by
  have hbyte : (r.byte (i + 3) + 1).toNat ≠ (r.byte (i + 3)).toNat := by
    intro h
    have hone := UInt8.toNat_inj.1 h
    simp at hone
  unfold word
  simp only [List.range'_succ, List.range'_zero, List.map_cons, List.map_nil, ofLE, byte_store,
    List.length_singleton, Nat.add_assoc, Nat.reduceAdd]
  rw [if_neg (by omega), if_neg (by omega), if_neg (by omega), if_pos (by omega)]
  simp only [Nat.sub_self, List.getD_cons_zero]
  omega

end Region

theorem signed_injective {size m n : Nat} (hm : m < size) (hn : n < size)
    (h : signed size m = signed size n) : m = n := by
  unfold signed at h
  split at h <;> split at h <;> omega

/-! ## Reads that find a packet at once -/

namespace Cursor

variable {c : Cursor} {mem mem' : Region} {i : Nat}

/-- A walk through the block goes on in memory that agrees on it. -/
theorem Holding.walk_eq (h : c.Holding) (hs : c.SameSlot c.index mem mem') :
    c.walk mem = c.walk mem' := by
  unfold walk
  split
  · next p hp hb =>
    obtain ⟨hv, hin⟩ := h.block p hb
    have hnext : p.advance? mem c.geometry.blockSize = p.advance? mem' c.geometry.blockSize := by
      refine BlockPosition.advance?_eq_of_sameOn hs hin.low ?_
      rw [offset_succ_of_v3 hv]
      exact hin.high
    rw [hnext]
  · rfl
  · rfl

/-- Walks that come to an end leave the same cursor. -/
theorem walk_eq_of_none (h : (c.walk mem).2 = none) (h' : (c.walk mem').2 = none) :
    c.walk mem = c.walk mem' := by
  by_cases hph : c.phase = .haveHeader
  · cases hb : c.block with
    | none =>
      unfold walk
      rw [hph, hb]
    | some p =>
      have hend : ∀ m, (c.walk m).2 = none → p.advance? m c.geometry.blockSize = none := by
        intro m hm
        cases hq : p.advance? m c.geometry.blockSize with
        | none => rfl
        | some q =>
          rw [walk_of_advance hph hb hq] at hm
          cases hm
      rw [walk_of_end hph hb (hend mem h), walk_of_end hph hb (hend mem' h')]
  · rw [walk_of_phase_ne hph, walk_of_phase_ne hph]

theorem isUser_eq (hs : c.SameSlot c.index mem mem') (hsize : 64 ≤ c.geometry.slotSize c.version) :
    c.isUser mem = c.isUser mem' := by
  refine hs.isUserSlot_eq (Nat.le_refl _) ?_
  have hw : c.version.statusWord.offset + c.version.statusWord.width ≤ 12 := by
    cases c.version <;> decide
  rw [c.offset_succ]
  change c.offset c.index + _ + _ ≤ _
  omega

theorem header_eq (hs : c.SameSlot c.index mem mem') (hsize : 64 ≤ c.geometry.slotSize c.version) :
    c.header mem = c.header mem' := by
  have hroom : c.base + 20 ≤ c.offset (c.index + 1) := by
    rw [c.offset_succ]
    change c.offset c.index + 20 ≤ _
    omega
  by_cases hv : c.version = .v3
  · have hfirst : BlockPosition.first mem c.base c.geometry.blockSize =
        BlockPosition.first mem' c.base c.geometry.blockSize :=
      BlockPosition.first_eq_of_sameOn hs (Nat.le_refl _) hroom
    rw [header_of_v3 hv, header_of_v3 hv, hfirst]
  · unfold header
    cases hc : c.version with
    | v1 | v2 => rfl
    | v3 => exact absurd hc hv

/-- The interface of the packet handed out last is read from memory past the end of its slot. -/
def Hangs (c : Cursor) (mem : Region) : Prop :=
  c.offset (c.index + 1) < c.view.record + c.version.layout.address + 8 ∧
    c.view.record + c.version.layout.address + 8 ≤ mem.size

theorem Holding.header_fits (h : c.Holding) (hsize : 64 ≤ c.geometry.frameSize) :
    c.view.record + c.version.layout.headerSize ≤ c.offset (c.index + 1) := by
  obtain ⟨hframe, hblock⟩ := h.view_record
  cases hv : c.version with
  | v1 | v2 =>
    rw [hframe (by rw [hv]; nofun), c.offset_succ, hv]
    change c.offset c.index + 32 ≤ c.offset c.index + c.geometry.frameSize
    omega
  | v3 => exact (hblock hv).2

theorem Free.length_eq (h : c.Free) (hsize : 64 ≤ c.geometry.frameSize)
    (hslot : 64 ≤ c.geometry.slotSize c.version) (hs : c.SameSlot c.index mem mem')
    (hl : (c.header mem).length mem ≠ 0) :
    (c.header mem').length mem' = (c.header mem).length mem := by
  have hstart := c.start_take mem
  have hholding := h.holding_take hl
  have hview := view_take h.block hl
  have hlow := hholding.base_le_record
  have hfits := hholding.header_fits (by rw [geometry_of_start hstart]; exact hsize)
  rw [hview] at hlow hfits
  rw [offset_of_start hstart, version_of_start hstart, (c.version_take mem).2.2.1] at hfits
  have hbase : (c.take mem).base = c.offset c.index := by
    unfold base
    rw [geometry_of_start hstart, version_of_start hstart, (c.version_take mem).2.2.1]
    rfl
  rw [← header_eq hs hslot]
  refine (hs.length_eq (hbase ▸ hlow) ?_).symm
  rw [← hview, hholding.view_inside.1, version_of_start hstart, hview]
  exact hfits

/-- A frame has room for a header and the address behind it. -/
theorem Holding.not_hangs (h : c.Holding) (hsize : 64 ≤ c.geometry.frameSize)
    (hv : c.version ≠ .v3) : ¬ c.Hangs mem := by
  rintro ⟨hlt, -⟩
  rw [h.view_record.1 hv, c.offset_succ] at hlt
  change c.offset c.index + c.geometry.slotSize c.version <
    c.offset c.index + c.version.layout.address + 8 at hlt
  cases hc : c.version with
  | v1 | v2 =>
    rw [hc] at hlt
    simp only [Geometry.slotSize, Version.layout] at hlt
    omega
  | v3 => exact hv hc

/-- In memory that agrees on the slot a packet is the same but for its interface, and with it unless
the packet hangs. -/
theorem Holding.frame_of_sameSlot (h : c.Holding) (hsize : 64 ≤ c.geometry.frameSize)
    (hs : c.SameSlot c.index mem mem') :
    c.frame mem' c.view = { c.frame mem c.view with
      info := { (c.frame mem c.view).info with ifindex := c.view.ifindex mem' } } ∧
    (¬ c.Hangs mem → c.frame mem' c.view = c.frame mem c.view) := by
  obtain ⟨hv, hslot, -⟩ := h.view_inside
  have hfits := h.header_fits hsize
  rw [← hv] at hfits
  have hlow : c.offset c.index ≤ c.view.slot := hslot.ge
  have hrecord : c.view.slot ≤ c.view.record := hslot.le.trans h.base_le_record
  have hframe := hs.symm.frame_eq_of_header c hlow hrecord hfits
  refine ⟨hframe, fun hhangs => ?_⟩
  have hifindex : c.view.ifindex mem' = c.view.ifindex mem := by
    unfold Hangs at hhangs
    rw [← hv, not_and_or, Nat.not_lt, Nat.not_le] at hhangs
    rcases hhangs with hin | hout
    · exact (hs.ifindex_eq (hlow.trans hrecord) hin).symm
    · have hout' := hout
      rw [hs.size] at hout'
      unfold Header.ifindex Header.field addressIfindex
      rw [Region.field_of_size_lt (by omega), Region.field_of_size_lt (by omega)]
  rw [hframe, hifindex]
  rfl

/-- Another interface for a packet that hangs is a change outside its slot. -/
theorem Hangs.exists_other (h : c.Hangs mem) (hc : c.Holding) (hsize : 64 ≤ c.geometry.frameSize) :
    ∃ mem', c.SameSlot c.index mem mem' ∧ c.view.ifindex mem' ≠ c.view.ifindex mem := by
  obtain ⟨hend, hmem⟩ := h
  obtain ⟨hv, -⟩ := hc.view_inside
  have hfits := hc.header_fits hsize
  obtain ⟨-, -, -, -, -, haddress⟩ := Region.fields_le_header c.version
  have hin : c.view.record + (c.version.layout.address + 4) + 4 ≤ mem.size := by omega
  let i := c.view.record + (c.version.layout.address + 4)
  refine ⟨mem.store (i + 3) [mem.byte (i + 3) + 1], Region.sameOn_store mem (Or.inr ?_), ?_⟩
  · omega
  · intro heq
    unfold Header.ifindex Header.field addressIfindex at heq
    rw [hv, Region.field_of_le_size (by rw [Region.size_store]; exact hin),
      Region.field_of_le_size hin] at heq
    exact Region.word_store_last_ne mem hin
      (signed_injective (Region.word_lt ..) (Region.word_lt ..) heq)

end Cursor

namespace Reader

/-- The reader and the kernel once the block at the cursor has no more records: the slot held is
given back. -/
def passed (r : Reader) (k : Kernel) : Reader × Kernel :=
  { r with cursor := (r.cursor.walk k.memory).1 }.release k

/-- The next read finds a packet at once, in slot `i`: the next record of the block that is held, or
what lies at the front of a slot that is the reader's. -/
inductive Due (r : Reader) (k : Kernel) (i : Nat) : Prop where
  | held {hd : Header} : r.cursor.index = i → (r.cursor.walk k.memory).2 = some hd → Due r k i
  | front : (r.passed k).1.cursor.index = i → (r.cursor.walk k.memory).2 = none →
    (r.passed k).1.cursor.isUser (r.passed k).2.memory = true →
    ((r.passed k).1.cursor.header (r.passed k).2.memory).length (r.passed k).2.memory ≠ 0 →
      Due r k i

variable {r : Reader} {k k' : Kernel} {i : Nat}

theorem free_passed (h : r.cursor.Free ∨ r.cursor.Holding)
    (hw : (r.cursor.walk k.memory).2 = none) :
    (r.passed k).1.cursor.Free := by
  refine free_release ?_
  rcases h with h | h
  · dsimp only
    rw [h.walk]
    exact h.passing
  · exact h.walk_none hw

theorem next_of_front (hw : (r.cursor.walk k.memory).2 = none)
    (hu : (r.passed k).1.cursor.isUser (r.passed k).2.memory = true)
    (hl : ((r.passed k).1.cursor.header (r.passed k).2.memory).length (r.passed k).2.memory ≠ 0) :
    r.next k = emit
      { (r.passed k).1 with cursor := (r.passed k).1.cursor.take (r.passed k).2.memory }
      (r.passed k).2 ((r.passed k).1.cursor.header (r.passed k).2.memory) := by
  rw [next_of_walk_none hw]
  exact claim_of_packet hu hl

theorem Due.next (hd : r.Due k i) (h : r.cursor.Free ∨ r.cursor.Holding) :
    (r.next k).1 = .ok ((r.next k).2.1.cursor.frame (r.next k).2.2.memory
      (r.next k).2.1.cursor.view) ∧
    (r.next k).2.1.cursor.Holding ∧ (r.next k).2.1.cursor.index = i := by
  have hends := next_settles (k := k) h
  have hok : ∃ f, (r.next k).1 = .ok f ∧ (r.next k).2.1.cursor.index = i := by
    cases hd with
    | held hi hw =>
      rw [next_of_walk_some hw]
      exact ⟨_, rfl, (r.cursor.slot_walk k.memory).2.2.1.trans hi⟩
    | front hi hw hu hl =>
      rw [next_of_front hw hu hl]
      exact ⟨_, rfl, (Cursor.version_take ..).2.2.1.trans hi⟩
  obtain ⟨f, hf, hi⟩ := hok
  unfold Settles at hends
  rw [hf] at hends
  exact ⟨hf.trans (congrArg Except.ok hends.2), hends.1, hi⟩

theorem walk_eq_of_index (h : r.cursor.Free ∨ r.cursor.Holding)
    (hs : r.cursor.SameSlot i k.memory k'.memory) (hi : r.cursor.index = i) :
    r.cursor.walk k.memory = r.cursor.walk k'.memory := by
  subst hi
  rcases h with h | h
  · rw [h.walk, h.walk]
  · exact h.walk_eq hs

theorem passed_eq (hw : (r.cursor.walk k.memory).2 = none)
    (hw' : (r.cursor.walk k'.memory).2 = none) : (r.passed k).1 = (r.passed k').1 := by
  unfold passed release
  rw [Cursor.walk_eq_of_none hw hw']
  split <;> rfl

theorem start_passed (r : Reader) (k : Kernel) :
    (r.passed k).1.cursor.start = r.cursor.start := by
  unfold passed
  rw [start_release]
  exact Cursor.start_walk ..

theorem sameOn_passed {a b : Nat} (hw : (r.cursor.walk k.memory).2 = none)
    (hw' : (r.cursor.walk k'.memory).2 = none) (hs : k.memory.SameOn a b k'.memory) :
    (r.passed k).2.memory.SameOn a b (r.passed k').2.memory := by
  unfold passed release
  rw [Cursor.walk_eq_of_none hw hw']
  split
  · rw [Kernel.memory_release, Kernel.memory_release]
    exact hs.clearSlot ..
  · exact hs

theorem sameSlot_passed (hi : (r.passed k).1.cursor.index = i)
    (hw : (r.cursor.walk k.memory).2 = none) (hw' : (r.cursor.walk k'.memory).2 = none)
    (hs : r.cursor.SameSlot i k.memory k'.memory) :
    (r.passed k).1.cursor.SameSlot (r.passed k).1.cursor.index (r.passed k).2.memory
      (r.passed k').2.memory := by
  unfold Cursor.SameSlot
  rw [Cursor.offset_of_start (start_passed r k), hi]
  exact sameOn_passed hw hw' hs

/-- The slot that is due is due in memory that agrees on it, if the reader gets to it there. -/
theorem Due.of_sameSlot (hd : r.Due k i) (h : r.cursor.Free ∨ r.cursor.Holding)
    (hsize : 64 ≤ r.cursor.geometry.frameSize)
    (hslot : 64 ≤ r.cursor.geometry.slotSize r.cursor.version)
    (hs : r.cursor.SameSlot i k.memory k'.memory)
    (hpass : (r.cursor.walk k.memory).2 = none → (r.cursor.walk k'.memory).2 = none) :
    r.Due k' i := by
  cases hd with
  | held hi hw =>
    rw [walk_eq_of_index h hs hi] at hw
    exact .held hi hw
  | front hi hw hu hl =>
    have hw' := hpass hw
    have hstart := start_passed r k
    have hs' := sameSlot_passed hi hw hw' hs
    rw [← Cursor.geometry_of_start hstart] at hsize
    rw [← Cursor.geometry_of_start hstart, ← Cursor.version_of_start hstart] at hslot
    have hlength := (free_passed h hw).length_eq hsize hslot hs' hl
    rw [Cursor.isUser_eq hs' hslot] at hu
    refine .front ?_ hw' ?_ ?_
    · rw [← passed_eq hw hw']
      exact hi
    · rw [← passed_eq hw hw']
      exact hu
    · rw [← passed_eq hw hw', hlength]
      exact hl

/-- Both reads find their packet under the same header, and the memory that they leave agrees on the
slot as before. -/
theorem Due.view_eq (hd : r.Due k i) (hd' : r.Due k' i) (h : r.cursor.Free ∨ r.cursor.Holding)
    (hsize : 64 ≤ r.cursor.geometry.slotSize r.cursor.version)
    (hs : r.cursor.SameSlot i k.memory k'.memory) :
    (r.next k).2.1.cursor.view = (r.next k').2.1.cursor.view ∧
      r.cursor.SameSlot i (r.next k).2.2.memory (r.next k').2.2.memory := by
  have hwalk := walk_eq_of_index h hs
  cases hd with
  | @held hd hi hw =>
    have hw' : (r.cursor.walk k'.memory).2 = some hd := hwalk hi ▸ hw
    rw [next_of_walk_some hw, next_of_walk_some hw']
    refine ⟨?_, hs⟩
    change (r.cursor.walk k.memory).1.view = (r.cursor.walk k'.memory).1.view
    rw [hwalk hi]
  | front hi hw hu hl =>
    cases hd' with
    | held hi' hw' =>
      rw [← hwalk hi', hw] at hw'
      cases hw'
    | front hi' hw' hu' hl' =>
      have hfree := free_passed h hw
      have hstart := start_passed r k
      have hslot := sameSlot_passed hi hw hw' hs
      rw [← Cursor.geometry_of_start hstart, ← Cursor.version_of_start hstart] at hsize
      rw [next_of_front hw hu hl, next_of_front hw' hu' hl']
      refine ⟨?_, sameOn_passed hw hw' hs⟩
      rw [← passed_eq hw hw'] at hl' ⊢
      change ((r.passed k).1.cursor.take _).view = ((r.passed k).1.cursor.take _).view
      rw [Cursor.view_take hfree.block hl, Cursor.view_take hfree.block hl',
        Cursor.header_eq hslot hsize]

/-- **A packet depends on its slot alone, but for its interface.** If memories agree on the slot in
which the next read finds its packet, and in neither a block held has more records before that slot,
the read hands out the same packet from both but for the interface; and the same in all, unless the
packet is a record of a block so close to its end that the interface behind its header lies in the
next block. Then there is always memory that agrees on the slot and gives another interface. -/
theorem frame_of_slot {o : Options} {pageSize : Nat} {v : Version} {r : Reader} {k k' : Kernel}
    {i : Nat} (hcheck : o.check pageSize = .ok ()) (hframe : 64 ≤ o.frameSize)
    (hr : Reached (opened o 0 v).reader.cursor r) (hd : r.Due k i)
    (hs : r.cursor.SameSlot i k.memory k'.memory)
    (hpass : (r.cursor.walk k.memory).2 = none → (r.cursor.walk k'.memory).2 = none) :
    ∃ f f', (r.next k).1 = .ok f ∧ (r.next k').1 = .ok f' ∧
      f' = { f with info := { f.info with ifindex := f'.info.ifindex } } ∧
      (v ≠ .v3 → f' = f) ∧
      (¬ (r.next k).2.1.cursor.Hangs (r.next k).2.2.memory → f' = f) ∧
      ((r.next k).2.1.cursor.Hangs (r.next k).2.2.memory →
        ∃ mem', r.cursor.SameSlot i (r.next k).2.2.memory mem' ∧
          (r.next k).2.1.cursor.frame mem' (r.next k).2.1.cursor.view ≠ f) := by
  obtain ⟨hstart, hsettled⟩ := hr.settled
  have hgeometry : r.cursor.geometry = o.geometry := Cursor.geometry_of_start hstart
  have hversion : r.cursor.version = v := Cursor.version_of_start hstart
  have hframeSize : 64 ≤ r.cursor.geometry.frameSize := by
    rw [hgeometry]
    exact hframe
  have hslotSize : 64 ≤ r.cursor.geometry.slotSize r.cursor.version := by
    obtain ⟨-, hblock, hdvd, -⟩ := Options.of_check hcheck
    have hle := Nat.le_of_dvd hblock (Nat.dvd_of_mod_eq_zero hdvd)
    have hblockSize := Options.blockSize_of_check hcheck
    rw [hgeometry]
    cases r.cursor.version with
    | v1 | v2 => exact hframe
    | v3 =>
      change 64 ≤ o.geometry.blockSize
      omega
  have hd' := hd.of_sameSlot hsettled hframeSize hslotSize hs hpass
  obtain ⟨hview, hslot⟩ := hd.view_eq hd' hsettled hslotSize hs
  obtain ⟨hok, hholding, hindex⟩ := hd.next hsettled
  obtain ⟨hok', -, -⟩ := hd'.next hsettled
  have hnext := start_next r k
  rw [← hview, Cursor.frame_of_start ((start_next r k').trans hnext.symm)] at hok'
  have hsize : 64 ≤ (r.next k).2.1.cursor.geometry.frameSize := by
    rw [Cursor.geometry_of_start hnext]
    exact hframeSize
  unfold Cursor.SameSlot at hslot
  rw [← Cursor.offset_of_start hnext] at hslot
  subst hindex
  obtain ⟨heq, hall⟩ := hholding.frame_of_sameSlot hsize hslot
  refine ⟨_, _, hok, hok', ?_, ?_, hall, ?_⟩
  · rw [heq]
  · intro hv
    refine hall (hholding.not_hangs hsize ?_)
    rw [Cursor.version_of_start hnext, hversion]
    exact hv
  · intro hhangs
    obtain ⟨mem', hs', hne⟩ := hhangs.exists_other hholding hsize
    unfold Cursor.SameSlot at hs'
    rw [Cursor.offset_of_start hnext] at hs'
    exact ⟨mem', hs', fun hf => hne (congrArg (fun f => f.info.ifindex) hf)⟩

/-! ## A record at the end of its block -/

def hangingOptions : Options where
  version := .exactly .v3
  frameSize := 2048
  blockSize := 4096
  numBlocks := 2

/-- The first block is the reader's and holds one record, whose header ends with the block. Where
its interface is read, the second block has `n`. -/
def hangingKernel (n : UInt8) : Kernel where
  mapping := some <| (((Region.zeroed 8192).store 8 [1, 0, 0, 0, 1, 0, 0, 0, 208, 15]).store 4064
    [60]).store 4100 [n]

theorem sameSlot_hanging (m n : UInt8) :
    (opened hangingOptions 0 .v3).reader.cursor.SameSlot 0 (hangingKernel m).memory
      (hangingKernel n).memory := by
  have hend : (opened hangingOptions 0 .v3).reader.cursor.offset (0 + 1) ≤ 4100 := by decide
  exact .trans (.symm (Region.sameOn_store _ (Or.inr hend))) (Region.sameOn_store _ (Or.inr hend))

variable {n : UInt8}

theorem due_hanging (hn : n = 0 ∨ n = 7) :
    (opened hangingOptions 0 .v3).reader.Due (hangingKernel n) 0 := by
  rcases hn with rfl | rfl <;> exact .front (by decide +kernel) rfl (by decide +kernel)
    (by decide +kernel)

theorem next_hanging (hn : n = 0 ∨ n = 7) :
    (opened hangingOptions 0 .v3).reader.next (hangingKernel n) =
      emit
        { (opened hangingOptions 0 .v3).reader with
          cursor := (opened hangingOptions 0 .v3).reader.cursor.take (hangingKernel n).memory }
        (hangingKernel n)
        ((opened hangingOptions 0 .v3).reader.cursor.header (hangingKernel n).memory) := by
  rcases hn with rfl | rfl <;>
    exact next_of_packet nofun rfl (by decide +kernel) (by decide +kernel)

/-- Both memories give the same packet there but for its interface. -/
theorem frame_of_slot_hanging :
    let r := (opened hangingOptions 0 .v3).reader
    let k := hangingKernel 0
    let k' := hangingKernel 7
    hangingOptions.check 4096 = .ok () ∧ 64 ≤ hangingOptions.frameSize ∧
      Reached (opened hangingOptions 0 .v3).reader.cursor r ∧ r.Due k 0 ∧
      r.cursor.SameSlot 0 k.memory k'.memory ∧
      ((r.cursor.walk k.memory).2 = none → (r.cursor.walk k'.memory).2 = none) ∧
      ∃ f f', (r.next k).1 = .ok f ∧ (r.next k').1 = .ok f' ∧
        f' = { f with info := { f.info with ifindex := f'.info.ifindex } } := by
  intro r k k'
  have hcheck : hangingOptions.check 4096 = .ok () := by decide
  have hframe : 64 ≤ hangingOptions.frameSize := by decide
  have hd : r.Due k 0 := due_hanging (Or.inl rfl)
  have hs : r.cursor.SameSlot 0 k.memory k'.memory := sameSlot_hanging 0 7
  obtain ⟨f, f', hf, hf', heq, -⟩ := frame_of_slot hcheck hframe .start hd hs fun _ => rfl
  exact ⟨hcheck, hframe, .start, hd, hs, fun _ => rfl, f, f', hf, hf', heq⟩

/-- The interface of a packet is read from the block behind its own: memories that differ there only
give different packets. -/
theorem interface_behind_block :
    let r := (opened hangingOptions 0 .v3).reader
    let k := hangingKernel 0
    let k' := hangingKernel 7
    hangingOptions.check 4096 = .ok () ∧ 64 ≤ hangingOptions.frameSize ∧
      Reached (opened hangingOptions 0 .v3).reader.cursor r ∧ r.Due k 0 ∧ r.Due k' 0 ∧
      k.memory.size = hangingOptions.geometry.mappingSize ∧
      r.cursor.SameSlot 0 k.memory k'.memory ∧
      ∃ f f', (r.next k).1 = .ok f ∧ (r.next k').1 = .ok f' ∧
        f.info.ifindex = 0 ∧ f'.info.ifindex = 7 := by
  intro r k k'
  have hok := congrArg Prod.fst (next_hanging (n := 0) (Or.inl rfl))
  have hok' := congrArg Prod.fst (next_hanging (n := 7) (Or.inr rfl))
  exact ⟨by decide, by decide, .start, due_hanging (Or.inl rfl), due_hanging (Or.inr rfl), rfl,
    sameSlot_hanging 0 7, _, _, hok, hok', by decide +kernel, by decide +kernel⟩

end Reader

end PacketRing
