import Mathlib
import PacketRing.Proofs.Looks

/-!
# What reading writes

A read writes nothing into the ring but the status words of slots that it hands back.

* `Cursor.held`, `Cursor.onwards` : the slot held, and the slots from the cursor on in ring order;
* `Reader.released`, `Reader.skipped` : the slots that a read hands back, and its looks at slots
  without a packet. It hands back the slot it held, then those (`released_eq`), one after the other
  in the ring (`released_eq_onwards`);
* `byte_touches` : a byte is as the kernel's writes have made it, or a zero in the status word of a
  slot handed back;
* `Reader.released_status_cleared` : what a read leaves in memory.
-/

namespace PacketRing

/-! ## Bytes -/

namespace Region

theorem stored_append (mem : Region) (writes writes' : List Store) :
    mem.stored (writes ++ writes') = (mem.stored writes).stored writes' := List.foldl_append

/-- A byte after writes is the last one written to it, or as it was. -/
theorem byte_stored_cases {r s : Region} (h : r.size = s.size) (writes : List Store) (x : Nat) :
    (r.stored writes).byte x = (s.stored writes).byte x ∨
      (r.stored writes).byte x = r.byte x ∧ (s.stored writes).byte x = s.byte x := by
  induction writes generalizing r s with
  | nil => exact .inr ⟨rfl, rfl⟩
  | cons w writes ih =>
    show ((r.store w.offset w.bytes).stored writes).byte x =
      ((s.store w.offset w.bytes).stored writes).byte x ∨ _
    rcases ih (r := r.store w.offset w.bytes) (s := s.store w.offset w.bytes)
      (by rw [size_store, size_store, h]) with heq | ⟨hr, hs⟩
    · exact .inl heq
    · rw [byte_store] at hr hs
      by_cases hin : w.offset ≤ x ∧ x < w.offset + w.bytes.length ∧ x < r.size
      · rw [if_pos hin] at hr
        rw [if_pos (h ▸ hin)] at hs
        exact .inl (hr.trans hs.symm)
      · rw [if_neg hin] at hr
        rw [if_neg (h ▸ hin)] at hs
        exact .inr ⟨hr, hs⟩

end Region

namespace Cursor

/-- The byte at `x` belongs to the status word of slot `i`. -/
structure StatusByte (c : Cursor) (mem : Region) (i x : Nat) : Prop where
  accessible : mem.Accessible (statusOffset c.version (c.offset i)) c.version.statusWord.width
  low : statusOffset c.version (c.offset i) ≤ x
  high : x < statusOffset c.version (c.offset i) + c.version.statusWord.width

/-- The slot at the cursor, if it is held. -/
def held (c : Cursor) : List Nat := if c.pendingRelease then [c.index] else []

/-- The first `n` slots from the cursor on, in ring order. -/
def onwards (c : Cursor) (n : Nat) : List Nat :=
  (List.range n).map fun j => (c.index + j) % c.round

variable {c c' : Cursor} {mem : Region} {i x n : Nat}

theorem byte_clearSlot_cases (c : Cursor) (mem : Region) (i x : Nat) :
    (clearSlot mem c.version (c.offset i)).byte x = mem.byte x ∨
      (clearSlot mem c.version (c.offset i)).byte x = 0 ∧ c.StatusByte mem i x := by
  rw [byte_clearSlot]
  split
  · next h => exact .inr ⟨rfl, h.1, h.2.1, h.2.2⟩
  · exact .inl rfl

theorem StatusByte.of_size {mem' : Region} (h : c.StatusByte mem i x)
    (hs : mem.size = mem'.size) : c.StatusByte mem' i x :=
  ⟨(Region.accessible_congr hs _ _).1 h.accessible, h.low, h.high⟩

theorem onwards_zero (c : Cursor) : c.onwards 0 = [] := rfl

/-- Going on from the next slot is going on from this one, which comes first. -/
theorem onwards_succ (hi : c.index < c.round) (hround : c'.round = c.round)
    (hindex : c'.index = (c.index + 1) % c.round) :
    c.onwards (n + 1) = c.index :: c'.onwards n := by
  unfold onwards
  rw [List.range_succ_eq_map, List.map_cons, List.map_map, hround, hindex]
  congr 1
  · exact Nat.mod_eq_of_lt hi
  · refine List.map_congr_left fun j _ => ?_
    rw [Nat.mod_add_mod]
    show (c.index + (j + 1)) % _ = _
    congr 1
    omega

theorem onwards_eq (hround : c'.round = c.round) (hindex : c'.index = c.index) :
    c'.onwards n = c.onwards n := by
  unfold onwards
  rw [hround, hindex]

end Cursor

namespace Look

variable {c : Cursor} {l : Look}

theorem size_freed (c : Cursor) (l : Look) (mem : Region) : (l.freed c mem).size = mem.size := by
  unfold freed
  split
  · exact size_clearSlot ..
  · rfl

theorem size_touch (c : Cursor) (mem : Region) (l : Look) : (touch c mem l).size = mem.size :=
  (Region.size_stored ..).trans (l.size_freed c mem)

theorem byte_freed_cases (c : Cursor) (l : Look) (mem : Region) (x : Nat) :
    (l.freed c mem).byte x = mem.byte x ∨
      (l.freed c mem).byte x = 0 ∧ ∃ i, l.released = some i ∧ c.StatusByte mem i x := by
  unfold freed
  split
  · next i hi =>
    rcases c.byte_clearSlot_cases mem i x with h | ⟨h, hx⟩
    · exact .inl h
    · exact .inr ⟨h, i, hi, hx⟩
  · exact .inl rfl

/-- A byte after the looks of a read is as the kernel's writes alone have made it, or a zero in the
status word of a slot handed back. -/
theorem byte_touches (c : Cursor) (x : Nat) (looks : List Look) {mem mem' : Region}
    (hsize : mem.size = mem'.size) {P : Prop} (h : mem.byte x = mem'.byte x ∨ mem.byte x = 0 ∧ P)
    (hP : ∀ l ∈ looks, ∀ i, l.released = some i → c.StatusByte mem i x → P) :
    (looks.foldl (touch c) mem).byte x = (mem'.stored (looks.flatMap (·.writes))).byte x ∨
      (looks.foldl (touch c) mem).byte x = 0 ∧ P := by
  induction looks generalizing mem mem' with
  | nil => exact h
  | cons l looks ih =>
    rw [List.foldl_cons, List.flatMap_cons, Region.stored_append]
    have hfreed : (l.freed c mem).byte x = mem'.byte x ∨ (l.freed c mem).byte x = 0 ∧ P := by
      rcases l.byte_freed_cases c mem x with heq | ⟨hzero, i, hi, hx⟩
      · rw [heq]
        exact h
      · exact .inr ⟨hzero, hP l List.mem_cons_self i hi hx⟩
    refine ih ?_ ?_ fun l' hl' i hi hx =>
      hP l' (List.mem_cons_of_mem _ hl') i hi (hx.of_size (size_touch ..))
    · rw [size_touch, Region.size_stored, hsize]
    · rcases Region.byte_stored_cases ((l.size_freed c mem).trans hsize) l.writes x with
        heq | ⟨hl, hr⟩
      · exact .inl heq
      · rw [touch, hl, hr]
        exact hfreed

theorem Concludes.not_passes {result : Except CaptureError Frame} (h : l.Concludes c result) :
    ¬ l.Passes c := by
  rintro ⟨ha, hl⟩
  cases h with
  | packet _ hne => exact hne hl
  | stopped hs =>
    rw [hs] at ha
    cases ha

end Look

namespace Reader

variable {r : Reader} {k : Kernel} {s : Reader × Kernel}
  {result : Except CaptureError Frame × Reader × Kernel}

/-! ## The slots handed back -/

/-- The slots that a read hands back, in order. -/
def released (r : Reader) (k : Kernel) : List Nat := (r.looks k).filterMap (·.released)

/-- The looks of a read at slots of the reader's without a packet. -/
def skipped (r : Reader) (k : Kernel) : List Look := (r.looks k).filter (·.Passes r.cursor)

theorem released_of_turn (h : Turn (r, k) s) :
    r.released k = r.cursor.held ++ s.1.released s.2 := by
  unfold released Cursor.held
  rw [looks_of_turn h, List.filterMap_cons]
  unfold look
  dsimp only
  cases r.cursor.pendingRelease <;> rfl

theorem released_of_last (h : Ends r k result) (hw : (r.cursor.walk k.memory).2 = none) :
    r.released k = r.cursor.held := by
  unfold released Cursor.held
  rw [looks_of_last h hw, List.filterMap_cons]
  unfold look
  dsimp only
  cases r.cursor.pendingRelease <;> rfl

theorem released_of_walk_some {hd : Header} (hw : (r.cursor.walk k.memory).2 = some hd) :
    r.released k = [] := by
  unfold released
  rw [looks_of_walk_some hw]
  rfl

theorem skipped_of_turn (h : Turn (r, k) s) :
    r.skipped k =
      if (r.look k).Passes r.cursor then r.look k :: s.1.skipped s.2 else s.1.skipped s.2 := by
  have hsame : s.1.skipped s.2 = (s.1.looks s.2).filter (·.Passes r.cursor) := by
    refine List.filter_congr fun l _ => ?_
    exact decide_eq_decide.2 (Look.passes_of_start h.start)
  rw [hsame]
  unfold skipped
  rw [looks_of_turn h, List.filter_cons]
  simp only [decide_eq_true_eq]

theorem skipped_of_ends (h : Ends r k result) : r.skipped k = [] := by
  unfold skipped
  cases hw : (r.cursor.walk k.memory).2 with
  | some hd => rw [looks_of_walk_some hw, List.filter_nil]
  | none =>
    rw [looks_of_last h hw, List.filter_cons_of_neg, List.filter_nil]
    rw [decide_eq_true_eq]
    exact (concludes_of_ends h hw).not_passes

/-- A read that needs a new slot hands back the one it held, then those it finds no packet in. -/
theorem released_eq (hw : (r.cursor.walk k.memory).2 = none) :
    r.released k = r.cursor.held ++ (r.skipped k).map (·.slot) := by
  induction r, k using next_induct with
  | ends r k h => rw [released_of_last h hw, skipped_of_ends h, List.map_nil, List.append_nil]
  | turn r k s h ih =>
    have hheld : s.1.cursor.held =
        if (r.look k).answer.isNone then [(r.look k).slot] else [] := by
      unfold Cursor.held
      rw [h.pendingRelease, h.index]
    rw [released_of_turn h, ih h.walk, skipped_of_turn h, hheld]
    rcases h.goesOn with hp | ⟨a, ha, -⟩
    · rw [if_pos hp, if_pos hp.1]
      rfl
    · have hn : ¬ (r.look k).answer.isNone = true := by
        rw [ha]
        exact Bool.false_ne_true
      rw [if_neg hn, if_neg fun hp : (r.look k).Passes r.cursor => hn hp.1, List.nil_append]

theorem slot_look_lt (h : r.cursor.index < r.cursor.round) :
    (r.look k).slot < r.cursor.round := by
  rw [slot_look]
  split
  · exact Nat.mod_lt _ (Nat.zero_lt_of_lt h)
  · exact h

theorem onwards_held (hi : r.cursor.index < r.cursor.round) (n : Nat) {c : Cursor}
    (hround : c.round = r.cursor.round) (hindex : c.index = (r.look k).slot) :
    r.cursor.held ++ c.onwards n = r.cursor.onwards (r.cursor.held.length + n) := by
  rw [slot_look] at hindex
  unfold Cursor.held
  cases hp : r.cursor.pendingRelease with
  | true =>
    rw [hp, if_pos rfl] at hindex
    rw [if_pos rfl, List.length_singleton, Nat.add_comm,
      Cursor.onwards_succ hi hround hindex]
    rfl
  | false =>
    rw [hp, if_neg Bool.false_ne_true] at hindex
    rw [if_neg Bool.false_ne_true, List.length_nil, Nat.zero_add]
    exact Cursor.onwards_eq hround hindex

/-- The slots handed back lie one after the other in the ring, from the cursor on. -/
theorem released_eq_onwards (hi : r.cursor.index < r.cursor.round) :
    r.released k = r.cursor.onwards (r.released k).length := by
  induction r, k using next_induct with
  | ends r k h =>
    cases hw : (r.cursor.walk k.memory).2 with
    | some hd =>
      rw [released_of_walk_some hw]
      rfl
    | none =>
      rw [released_of_last h hw]
      have hheld := onwards_held (k := k) hi 0
        (c := { r.cursor with index := (r.look k).slot }) rfl rfl
      rw [Cursor.onwards_zero, List.append_nil, Nat.add_zero] at hheld
      exact hheld
  | turn r k s h ih =>
    have hround := Cursor.round_of_start h.start
    have his : s.1.cursor.index < s.1.cursor.round := by
      rw [hround, h.index]
      exact slot_look_lt hi
    rw [released_of_turn h, List.length_append, ← onwards_held hi _ hround h.index, ← ih his]

/-! ## What the kernel writes -/

theorem writes_of_look (r : Reader) (k : Kernel) :
    (r.look k).writes = (k.script.take (r.look k).answer.toList.length).flatMap (·.writes) := by
  by_cases hu : (r.facing k).1.cursor.isUser (r.facing k).2.memory = true
  · rw [(look_of_user hu).1, (look_of_user hu).2]
    rfl
  · rw [(look_of_kernel hu).1, (look_of_kernel hu).2]
    unfold Kernel.upcoming
    rw [script_facing]
    cases k.script with
    | nil => rfl
    | cons s rest => exact (List.append_nil _).symm

/-- The kernel writes what the entries of the script say that the polls take. -/
theorem writes_of_looks (r : Reader) (k : Kernel) :
    (r.looks k).flatMap (·.writes) =
      (k.script.take (r.answers k).length).flatMap (·.writes) := by
  induction r, k using next_induct with
  | ends r k h =>
    cases hw : (r.cursor.walk k.memory).2 with
    | some hd =>
      rw [looks_of_walk_some hw, answers_of_walk_some hw]
      rfl
    | none =>
      rw [looks_of_last h hw, answers_of_last h hw, List.flatMap_singleton, writes_of_look]
  | turn r k s h ih =>
    rw [looks_of_turn h, answers_of_turn h, List.flatMap_cons, ih, writes_of_look, h.script,
      List.length_append, List.take_add, List.flatMap_append]

theorem take_polled (r : Reader) (k : Kernel) :
    k.script.take (polled r.next k) = k.script.take (r.answers k).length := by
  unfold polled
  rw [List.take_eq_take_iff, script_next, List.length_drop]
  omega

/-! ## What a read leaves -/

theorem mem_skipped {l : Look} (h : l ∈ r.skipped k) :
    isUserSlot l.memory r.cursor.version (r.cursor.offset l.slot) = true ∧
      (r.cursor.front l.memory l.slot).length l.memory = 0 := by
  obtain ⟨hl, hp⟩ := List.mem_filter.1 h
  obtain ⟨ha, hzero⟩ := of_decide_eq_true hp
  refine ⟨?_, hzero⟩
  rw [← isNone_answer_of_mem hl]
  exact ha

/-- What memory holds when a read finds its packet. -/
def seen (r : Reader) (k : Kernel) : Region := ((r.looks k).getLast?.map (·.memory)).getD k.memory

/-- Since a read found its packet, nothing was written; and the slot, if it was taken in this read,
is the reader's. -/
theorem memory_of_packet {f : Frame} (hf : (r.next k).1 = .ok f) :
    (r.next k).2.2.memory = r.seen k ∧
      (r.looks k ≠ [] → (r.next k).2.1.cursor.isUser (r.next k).2.2.memory = true) := by
  unfold seen
  rcases List.eq_nil_or_concat' (r.looks k) with hnil | ⟨before, l, hlooks⟩
  · obtain ⟨hd, hw⟩ := exists_of_looks_nil hnil
    rw [hnil, next_of_walk_some hw]
    exact ⟨rfl, fun hne => absurd rfl hne⟩
  · obtain ⟨hconcludes, hmemory, hindex⟩ := next_of_last_look hlooks
    have hmem := mem_of_looks hlooks
    have huser := isNone_answer_of_mem hmem
    rw [hf] at hconcludes
    cases hconcludes with
    | packet ha hl =>
      rw [writes_of_answer_none hmem ha] at hmemory
      rw [ha] at huser
      have hsame : (r.next k).2.2.memory = l.memory := hmemory
      rw [hlooks, List.getLast?_concat, hsame]
      refine ⟨rfl, fun _ => ?_⟩
      show isUserSlot _ _ ((r.next k).2.1.cursor.offset _) = true
      rw [Cursor.version_of_start (start_next r k), Cursor.offset_of_start (start_next r k), hindex]
      exact huser.symm

/-- **Reading writes nothing into the ring but the status words of slots handed back.** These are
the slot held before, unless its block has another record, and those found to be the reader's but
without a packet, one after the other in the ring from the cursor on. Each of their status words is
set to zero as a whole, between the writes of the kernel: so a byte that is not as the kernel's
writes alone would have made it is a zero in one of these words. Once a packet was found, nothing is
written, and its slot stays the reader's. Where the sizes of the ring are words, reads in words come
to the same. -/
theorem released_status_cleared {c : Cursor} (hr : Reached c r) (k : Kernel) :
    Looked r k ∧
    (r.released k =
      match (r.cursor.walk k.memory).2 with
      | some _ => []
      | none => r.cursor.held ++ (r.skipped k).map (·.slot)) ∧
    (∀ l ∈ r.skipped k, isUserSlot l.memory r.cursor.version (r.cursor.offset l.slot) = true ∧
      (r.cursor.front l.memory l.slot).length l.memory = 0) ∧
    r.released k = r.cursor.onwards (r.released k).length ∧
    (r.next k).2.2.memory = (r.looks k).foldl (Look.touch r.cursor) k.memory ∧
    (r.looks k).flatMap (·.writes) = (k.script.take (polled r.next k)).flatMap (·.writes) ∧
    (∀ x, (r.next k).2.2.memory.byte x =
        (k.memory.stored ((k.script.take (polled r.next k)).flatMap (·.writes))).byte x ∨
      (r.next k).2.2.memory.byte x = 0 ∧
        ∃ i ∈ r.released k, r.cursor.StatusByte k.memory i x) ∧
    (c.geometry.Small → Machine.next r k = some (r.next k)) ∧
    ∀ f, (r.next k).1 = .ok f →
      f = (r.next k).2.1.cursor.frame (r.next k).2.2.memory (r.next k).2.1.cursor.view ∧
        (r.next k).2.2.memory = r.seen k ∧
        (r.looks k ≠ [] → (r.next k).2.1.cursor.isUser (r.next k).2.2.memory = true) := by
  refine ⟨looked r k, ?_, fun l hl => mem_skipped hl, released_eq_onwards hr.index_lt,
    memory_next r k, ?_, fun x => ?_, fun hg => hr.next_eq hg k,
    fun f hf => ⟨?_, memory_of_packet hf⟩⟩
  · cases hw : (r.cursor.walk k.memory).2 with
    | some hd => exact released_of_walk_some hw
    | none => exact released_eq hw
  · rw [take_polled]
    exact writes_of_looks r k
  · rw [take_polled, ← writes_of_looks, memory_next]
    refine Look.byte_touches r.cursor x (r.looks k) rfl (.inl rfl) fun l hl i hi hx => ?_
    exact ⟨i, List.mem_filterMap.2 ⟨l, hl, hi⟩, hx⟩
  · have hends := next_settles (k := k) hr.settled.2
    unfold Settles at hends
    rw [hf] at hends
    exact hends.2

/-! ### A frame without a packet before one with a packet -/

/-- Both frames are the reader's, and the second has a packet of 60 bytes. -/
def secondFrame : Kernel where
  mapping := some <| (Region.zeroed 128).stored [⟨0, [1]⟩, ⟨64, [1, 0, 0, 0, 60]⟩]

/-- The reader once it has taken the first frame. -/
def pastFirst : Reader :=
  { emptyReader with cursor := emptyReader.cursor.take secondFrame.memory }

theorem skips_secondFrame : Skips emptyReader secondFrame pastFirst secondFrame :=
  ⟨rfl, by decide +kernel, by decide +kernel, rfl, rfl⟩

theorem ends_secondFrame : ∃ f r k, Ends pastFirst secondFrame (.ok f, r, k) :=
  have hends := Ends.packet (r := pastFirst) (k := secondFrame) (by decide +kernel)
    (by decide +kernel) (by decide +kernel)
  ⟨_, _, _, hends⟩

theorem looks_secondFrame :
    emptyReader.looks secondFrame =
      [emptyReader.look secondFrame, pastFirst.look secondFrame] := by
  obtain ⟨f, r, k, hends⟩ := ends_secondFrame
  have hturn : Turn (emptyReader, secondFrame) (pastFirst, secondFrame) := .inl skips_secondFrame
  rw [looks_of_turn hturn]
  show _ :: pastFirst.looks secondFrame = _
  rw [looks_of_last hends (by decide +kernel)]

/-- Reading the second frame clears the first one's status, and nothing else. -/
theorem released_status_cleared_secondFrame :
    Reached emptyReader.cursor emptyReader ∧ emptyReader.released secondFrame = [0] ∧
      (emptyReader.next secondFrame).2.2.memory = clearSlot secondFrame.memory .v2 0 ∧
      Machine.next emptyReader secondFrame = some (emptyReader.next secondFrame) ∧
      (emptyReader.next secondFrame).2.1.cursor.isUser
        (emptyReader.next secondFrame).2.2.memory = true := by
  have hreached : Reached emptyReader.cursor emptyReader := .start
  obtain ⟨-, -, -, -, hmemory, -, -, hwords, hpacket⟩ :=
    released_status_cleared hreached secondFrame
  obtain ⟨f, r, k, hends⟩ := ends_secondFrame
  have hnext := skips_secondFrame.next_eq.trans hends.next_eq
  refine ⟨hreached, ?_, ?_, hwords small_empty, (hpacket _ (congrArg Prod.fst hnext)).2.2 ?_⟩
  · unfold released
    rw [looks_secondFrame]
    decide +kernel
  · rw [hmemory, looks_secondFrame]
    rfl
  · rw [looks_secondFrame]
    exact List.cons_ne_nil _ _

end Reader

end PacketRing
