import Mathlib
import PacketRing.Proofs.Closing

/-!
# Where the bytes of a packet lie

Whatever is in memory, the bytes handed out of a packet come from the slot that the packet was
found in.

* `Region.length_slice_of_le`, `Region.getElem?_slice` : a run of bytes inside a region is as long
  as was asked for, and has the bytes from there on;
* `Cursor.dataStart`, `Cursor.room` : where its bytes begin, and how many the slot has from there;
* `Cursor.Holding.frame_inside`, `Cursor.Holding.length_data`, `Cursor.Holding.getElem?_data` : they
  lie in the slot, are as many as it says, and are what memory holds there;
* `Session.Gives` : a read of a session hands out a packet;
* `Session.spans_stay_in_slots` : its bytes are as many as it says, are those that lie in its slot,
  and are not those of a packet in another slot.
-/

namespace PacketRing

theorem Region.length_slice_of_le {r : Region} {i n : Nat} (h : i + n ≤ r.size ∨ n = 0) :
    (r.slice i n).length = n := by
  unfold slice
  rw [List.length_map, List.length_range']
  omega

theorem Region.getElem?_slice {r : Region} {i n j : Nat} (h : i + n ≤ r.size) (hj : j < n) :
    (r.slice i n)[j]? = some (r.byte (i + j)) := by
  have hstart : min i r.size = i := by omega
  have hlength : min n (r.size - i) = n := by omega
  unfold slice
  dsimp only
  rw [hstart, hlength, List.getElem?_map, List.getElem?_range' hj, Option.map_some, Nat.one_mul]

namespace Cursor

/-- Where the bytes of the packet handed out last begin: at the distance from its header that the
header gives. -/
def dataStart (c : Cursor) (mem : Region) : Nat :=
  c.view.record + mem.field (c.view.record + c.version.layout.dataOffset) 2

/-- How many bytes there are from there to the end of the slot, none if it begins behind that. -/
def room (c : Cursor) (mem : Region) : Nat := c.offset (c.index + 1) - c.dataStart mem

/-- How many bytes of the packet were captured, as its header has it. -/
def captured (c : Cursor) (mem : Region) : Nat :=
  mem.field (c.view.record + c.version.layout.snapLength) 4

variable {c : Cursor} {mem : Region}

theorem Holding.frame_eq (h : c.Holding) (mem : Region) :
    (c.frame mem c.view).offset = c.dataStart mem ∧
      (c.frame mem c.view).size = (c.frame mem c.view).info.captureLength ∧
      (c.frame mem c.view).info.captureLength =
        if 0 < c.snapLength then min (min (c.captured mem) (c.room mem)) c.snapLength
        else min (c.captured mem) (c.room mem) := by
  obtain ⟨hv, -, hvacant, hlimit⟩ := h.view_inside
  have hspan : c.view.span mem = (c.dataStart mem, min (c.captured mem) (c.room mem)) := by
    unfold Header.span Header.clamp Header.field dataStart captured room dataStart
    rw [hvacant, hv, hlimit, if_neg Bool.false_ne_true]
    refine Prod.ext rfl ?_
    dsimp only
    omega
  unfold Cursor.frame
  rw [hspan]
  exact ⟨rfl, rfl, rfl⟩

theorem slots_pos (h : 0 < c.geometry.mappingSize) : 0 < c.geometry.slots c.version := by
  rw [← c.geometry.slots_mul_slotSize c.version] at h
  exact Nat.pos_of_mul_pos_right h

theorem Holding.index_lt (h : c.Holding) (hmapping : 0 < c.geometry.mappingSize) :
    c.index < c.geometry.slots c.version := by
  have hindex := h.index
  unfold round at hindex
  rwa [Nat.max_eq_left (slots_pos hmapping)] at hindex

/-- If the ring is mapped as a whole, the bytes of a packet lie in its slot, and the slot in the
mapping. -/
theorem Holding.frame_inside (h : c.Holding) (hmapping : 0 < c.geometry.mappingSize)
    (hsize : mem.size = c.geometry.mappingSize) (hpos : 0 < (c.frame mem c.view).size) :
    c.base ≤ (c.frame mem c.view).offset ∧
      (c.frame mem c.view).offset + (c.frame mem c.view).size ≤ c.offset (c.index + 1) ∧
      c.offset (c.index + 1) ≤ mem.size := by
  obtain ⟨hoffset, hlength, hcaptured⟩ := h.frame_eq mem
  refine ⟨?_, ?_, ?_⟩
  · rw [hoffset]
    exact h.base_le_record.trans (Nat.le_add_right ..)
  · rw [hlength, hcaptured] at hpos ⊢
    rw [hoffset]
    unfold room at hpos ⊢
    split at hpos <;> split <;> omega
  · rw [hsize, ← c.offset_slots]
    exact c.offset_le (h.index_lt hmapping)

/-- There are as many of them as it says. -/
theorem Holding.length_data {k : Kernel} (h : c.Holding) (hmapping : 0 < c.geometry.mappingSize)
    (hsize : k.memory.size = c.geometry.mappingSize) :
    (Handle.data k (c.frame k.memory c.view)).length =
      (c.frame k.memory c.view).info.captureLength := by
  rw [← (h.frame_eq k.memory).2.1]
  refine Region.length_slice_of_le ?_
  rcases Nat.eq_zero_or_pos (c.frame k.memory c.view).size with hzero | hpos
  · exact Or.inr hzero
  · obtain ⟨-, hhigh, hend⟩ := h.frame_inside hmapping hsize hpos
    exact Or.inl (hhigh.trans hend)

/-- They are what memory holds from where they begin. -/
theorem Holding.getElem?_data {k : Kernel} {i : Nat} (h : c.Holding)
    (hmapping : 0 < c.geometry.mappingSize) (hsize : k.memory.size = c.geometry.mappingSize)
    (hi : i < (c.frame k.memory c.view).info.captureLength) :
    (Handle.data k (c.frame k.memory c.view))[i]? =
      some (k.memory.byte (c.dataStart k.memory + i)) := by
  obtain ⟨hoffset, hlength, -⟩ := h.frame_eq k.memory
  rw [← hlength] at hi
  obtain ⟨-, hhigh, hend⟩ := h.frame_inside hmapping hsize (Nat.zero_lt_of_lt hi)
  rw [← hoffset]
  exact Region.getElem?_slice (hhigh.trans hend) hi

end Cursor

/-- How the packet `f` lies in the slot at the cursor `c`: where its header is, where its bytes are,
how many, and which. -/
structure Frame.InSlot (f : Frame) (o : Options) (c : Cursor) (k : Kernel) : Prop where
  slot : c.geometry = o.geometry ∧ c.index < c.geometry.slots c.version
  frameHeader : c.version ≠ .v3 → c.view.record = c.base
  blockHeader : c.version = .v3 → c.base ≤ c.view.record ∧
    c.view.record + BlockPosition.headerSize ≤ c.offset (c.index + 1)
  offset : f.offset = c.dataStart k.memory
  length : (Handle.data k f).length = f.info.captureLength
  bytes : ∀ i < f.info.captureLength,
    (Handle.data k f)[i]? = some (k.memory.byte (c.dataStart k.memory + i))
  captureLength : f.info.captureLength =
    if 0 < o.snapLength then min (min (c.captured k.memory) (c.room k.memory)) o.snapLength
    else min (c.captured k.memory) (c.room k.memory)
  inside : 0 < f.size → c.base ≤ f.offset ∧ f.offset + f.size ≤ c.offset (c.index + 1) ∧
    c.offset (c.index + 1) ≤ k.memory.size

namespace Session

/-- `s.Gives f c k` : after some steps of the session a read hands out `f`; the cursor is `c` then,
and the kernel `k`. -/
def Gives (s : Session) (f : Frame) (c : Cursor) (k : Kernel) : Prop :=
  ∃ steps w h, (s.after steps).handle.read ((s.after steps).kernel.within w) = (.ok f, h, k) ∧
    c = h.reader.cursor

variable {s : Session} {o : Options} {pageSize : Nat} {k k' : Kernel} {f g : Frame} {c d : Cursor}

/-- What is known where a packet was handed out. -/
theorem Begins.gives (hb : s.Begins o pageSize k) (hf : s.Gives f c k') :
    c.start = (opened o 0 s.handle.version).reader.cursor ∧ c.Holding ∧
      f = c.frame k'.memory c.view ∧ k'.memory.size = o.geometry.mappingSize := by
  obtain ⟨steps, w, h, hread, rfl⟩ := hf
  obtain ⟨hsound, -⟩ := hb.sound_after steps
  cases hc : (s.after steps).handle.closed with
  | true =>
    rw [Handle.read_of_closed hc] at hread
    cases hread
  | false =>
    have hsettled := hsound.reader.settled
    have hends := Reader.next_settles (k := (s.after steps).kernel.within w) hsettled.2
    have hstart := Reader.start_next (s.after steps).handle.reader
      ((s.after steps).kernel.within w)
    have hwaited := (waited_within (s.after steps).kernel w).trans
      (Reader.waited_next (s.after steps).handle.reader _)
    rw [Handle.read_of_open hc] at hread
    obtain ⟨hok, hrest⟩ := Prod.mk.inj hread
    obtain ⟨rfl, rfl⟩ := Prod.mk.inj hrest
    unfold Reader.Settles at hends
    rw [hok] at hends
    exact ⟨hstart.trans hsettled.1, hends.1, hends.2, hwaited.size.trans (hsound.size hc)⟩

theorem Begins.inSlot (hb : s.Begins o pageSize k) (hf : s.Gives f c k') : f.InSlot o c k' := by
  obtain ⟨hcheck, -⟩ := hb.state
  obtain ⟨hstart, hholding, rfl, hsize⟩ := hb.gives hf
  obtain ⟨hframe, hblock⟩ := hholding.view_record
  obtain ⟨hoffset, -, hcaptured⟩ := hholding.frame_eq k'.memory
  have hgeometry : c.geometry = o.geometry := congrArg Cursor.geometry hstart
  have hsnap : c.snapLength = o.snapLength := congrArg Cursor.snapLength hstart
  have hmapping : 0 < c.geometry.mappingSize := by
    rw [hgeometry]
    exact Options.mappingSize_of_check hcheck
  rw [← hgeometry] at hsize
  refine ⟨⟨hgeometry, hholding.index_lt hmapping⟩, hframe, hblock, hoffset,
    hholding.length_data hmapping hsize, ?_, ?_, hholding.frame_inside hmapping hsize⟩
  · intro i hi
    exact hholding.getElem?_data hmapping hsize hi
  · rw [← hsnap]
    exact hcaptured

/-- **Every byte handed out lies in the slot it came from**, whatever memory holds at any moment: a
packet has the bytes of memory that its header announces, from the distance that the header gives
on, cut to its slot and to the bound on what is handed out. Packets of two slots have no bytes in
common. -/
theorem spans_stay_in_slots (hb : s.Begins o pageSize k) :
    (∀ f c k', s.Gives f c k' → f.InSlot o c k') ∧
    (∀ f c k₁ g d k₂, s.Gives f c k₁ → s.Gives g d k₂ → c.index ≠ d.index →
      0 < f.size → 0 < g.size → f.offset + f.size ≤ g.offset ∨ g.offset + g.size ≤ f.offset) := by
  refine ⟨fun f c k' hf => hb.inSlot hf, ?_⟩
  intro f c k₁ g d k₂ hf hg hne hposf hposg
  obtain ⟨hlowf, hhighf, -⟩ := (hb.inSlot hf).inside hposf
  obtain ⟨hlowg, hhighg, -⟩ := (hb.inSlot hg).inside hposg
  have hsame : d.offset = c.offset :=
    Cursor.offset_of_start ((hb.gives hg).1.trans (hb.gives hf).1.symm)
  have hbase : d.base = c.offset d.index := congrFun hsame d.index
  rw [hsame] at hhighg
  rw [hbase] at hlowg
  change c.offset c.index ≤ f.offset at hlowf
  rcases Nat.lt_or_gt_of_ne hne with hlt | hgt
  · have hle := c.offset_le hlt
    exact Or.inl (by omega)
  · have hle := c.offset_le hgt
    exact Or.inr (by omega)

/-- A header that announces 5000 bytes, 3 bytes before the end of its slot. -/
theorem spans_stay_in_slots_cut :
    let s := small .v2
    s.Begins (smallOptions .v2) 4096 {} ∧ ∃ f c k, s.Gives f c k ∧
      f.InSlot (smallOptions .v2) c k ∧ f.offset = 2045 ∧ Handle.data k f = [7, 8, 9] := by
  intro s
  let w : Surroundings :=
    { writes := [⟨0, [1, 0, 0, 0, 60, 0, 0, 0, 136, 19, 0, 0, 253, 7]⟩, ⟨2045, [7, 8, 9, 10]⟩] }
  let k : Kernel := s.kernel.within w
  have hnext := Reader.next_of_packet (r := s.handle.reader) (k := k) nofun rfl
    (by decide +kernel) (by decide +kernel)
  have hread := Handle.read_of_open (h := s.handle) (k := k) rfl
  rw [hnext] at hread
  have hgives := (⟨[], w, _, hread, rfl⟩ : s.Gives _ _ _)
  obtain ⟨hslots, -⟩ := spans_stay_in_slots (begins_small .v2)
  exact ⟨begins_small .v2, _, _, _, hgives, hslots _ _ _ hgives, by decide +kernel,
    by decide +kernel⟩

end Session

end PacketRing
