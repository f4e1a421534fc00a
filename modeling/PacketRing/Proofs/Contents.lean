import Mathlib
import PacketRing.Proofs.Memory

/-!
# The packets in a slot

* `BlockPosition.trail` : the records that a walk visits from a position on;
* `Cursor.contents` : what the reader finds in a slot that it takes;
* `Cursor.rest` : what is left of it in the slot that the reader holds. Taking a slot with packets
  hands out the first and leaves the others (`contents_of_length_ne`), a step of a walk hands out
  the next one (`rest_of_walk_some`), and a walk ends when none is left (`rest_of_walk_none`);
* `Cursor.unread` : all that the reader has yet to hand out, in ring order from the cursor;
* `Cursor.start` : what reading leaves alone.
-/

namespace PacketRing

/-! ## Records of a block -/

namespace BlockPosition

/-- The records that a walk visits: the one it stands on and all that follow. -/
def trail (mem : Region) (blockSize : Nat) (p : BlockPosition) : List BlockPosition :=
  match _ : p.advance? mem blockSize with
  | some q => p :: trail mem blockSize q
  | none => [p]
termination_by p.total - p.used
decreasing_by
  rename_i h
  have := advance?_bounds h
  omega

variable {mem : Region} {blockSize : Nat} {p q : BlockPosition}

theorem trail_of_advance (h : p.advance? mem blockSize = some q) :
    p.trail mem blockSize = p :: q.trail mem blockSize := by
  rw [trail]
  split
  · next q' hq =>
    rw [h] at hq
    cases hq
    rfl
  · next hq => rw [h] at hq; cases hq

theorem trail_of_end (h : p.advance? mem blockSize = none) : p.trail mem blockSize = [p] := by
  rw [trail]
  split
  · next hq => rw [h] at hq; cases hq
  · rfl

theorem trail_eq_cons (mem : Region) (blockSize : Nat) (p : BlockPosition) :
    p.trail mem blockSize = p :: (p.trail mem blockSize).tail := by
  cases h : p.advance? mem blockSize with
  | some q => rw [trail_of_advance h, List.tail_cons]
  | none => rw [trail_of_end h, List.tail_cons]

/-- A walk stays in its block, and every record it comes to has its header there. -/
theorem mem_trail (h : q ∈ p.trail mem blockSize) :
    q.block = p.block ∧ q.total = p.total ∧
      (q = p ∨ p.packet < q.packet ∧ q.packet + headerSize ≤ p.block + blockSize) := by
  fun_induction trail mem blockSize p with
  | case1 p p' hp ih =>
    obtain ⟨hb, ht, -, -, hlt, hle⟩ := advance?_bounds hp
    rcases List.mem_cons.1 h with rfl | h
    · exact ⟨rfl, rfl, Or.inl rfl⟩
    · obtain ⟨hb', ht', hq⟩ := ih h
      refine ⟨hb'.trans hb, ht'.trans ht, Or.inr ?_⟩
      rcases hq with rfl | hq
      · exact ⟨hlt, hle⟩
      · rw [hb] at hq
        exact ⟨by omega, hq.2⟩
  | case2 p hp =>
    rw [List.mem_singleton] at h
    exact h ▸ ⟨rfl, rfl, Or.inl rfl⟩

theorem first_inside {block : Nat} (h : ¬ (first mem block blockSize).total = 0) :
    block ≤ (first mem block blockSize).packet ∧
      (first mem block blockSize).packet + headerSize ≤ block + blockSize := by
  refine ⟨Nat.le_add_right _ _, ?_⟩
  by_contra hfit
  exact h (if_neg hfit)

/-- A block that is too small for a record has none, whatever its descriptor says. -/
theorem total_first_of_lt {block : Nat} (h : blockSize < headerSize) :
    (first mem block blockSize).total = 0 := if_neg (by omega)

/-! ### Walks in memory that agrees -/

variable {a b : Nat} {r s : Region}

theorem first_eq_of_sameOn (h : r.SameOn a b s) {block : Nat} (ha : a ≤ block)
    (hb : block + 20 ≤ b) : first r block blockSize = first s block blockSize := by
  unfold first Block.firstPacketField Block.packetCountField
  rw [h.field_eq (by omega) (by omega), h.field_eq (by omega) (by omega)]

theorem advance?_eq_of_sameOn (h : r.SameOn a b s) (ha : a ≤ p.packet)
    (hb : p.packet + headerSize ≤ b) : p.advance? r blockSize = p.advance? s blockSize := by
  have hb' : p.packet + 48 ≤ b := hb
  have hn : p.nextPacket r = p.nextPacket s := by
    unfold nextPacket nextOffsetField
    simp only [Version.layout]
    rw [h.field_eq (by omega) (by omega), h.field_eq (i := p.packet + 12) (by omega) (by omega),
      h.field_eq (i := p.packet + 24) (by omega) (by omega)]
  unfold advance? step
  rw [hn]

theorem trail_eq_of_sameOn (h : r.SameOn a b s) (ha : a ≤ p.packet)
    (hp : p.packet + headerSize ≤ b) (hb : p.block + blockSize ≤ b) :
    p.trail r blockSize = p.trail s blockSize := by
  fun_induction trail r blockSize p with
  | case1 p q hq ih =>
    obtain ⟨hblock, -, -, -, hlt, hle⟩ := advance?_bounds hq
    rw [advance?_eq_of_sameOn h ha hp] at hq
    rw [trail_of_advance hq, ih (by omega) (by omega) (by omega)]
  | case2 p hq =>
    rw [advance?_eq_of_sameOn h ha hp] at hq
    rw [trail_of_end hq]

end BlockPosition

/-! ## Slots -/

namespace Cursor

def front (c : Cursor) (mem : Region) (i : Nat) : Header :=
  .atSlot mem c.geometry c.version (c.geometry.slotOffset c.version i)

/-- The views of the packets in slot `i`: its only one in v1 and v2, the records of the block in
v3. -/
def records (c : Cursor) (mem : Region) (i : Nat) : List Header :=
  match c.version with
  | .v3 =>
    ((BlockPosition.first mem (c.geometry.slotOffset .v3 i) c.geometry.blockSize).trail mem
      c.geometry.blockSize).map (Header.ofPosition c.geometry.blockSize)
  | _ => [c.front mem i]

/-- The packets that the reader finds in slot `i`: none if the header at its front tells of no
length, else one under every header. -/
def contents (c : Cursor) (mem : Region) (i : Nat) : List Frame :=
  if (c.front mem i).length mem = 0 then [] else (c.records mem i).map (c.frame mem)

/-- The packets left in the slot that the reader holds. -/
def rest (c : Cursor) (mem : Region) : List Frame :=
  match c.phase, c.block with
  | .haveHeader, some p =>
    (p.trail mem c.geometry.blockSize).tail.map fun q =>
      c.frame mem (.ofPosition c.geometry.blockSize q)
  | _, _ => []

def ahead (c : Cursor) : List Nat := (List.range c.round).map fun j => (c.index + j) % c.round

/-- The packets that the reader has yet to hand out: what is left in the slot it holds, then what
is in the other slots that are the reader's, in ring order from the cursor. -/
def unread (c : Cursor) (mem : Region) : List Frame :=
  c.rest mem ++ (c.ahead.filter (c.isFree mem)).flatMap (c.contents mem)

variable {c : Cursor} {mem mem' : Region} {h : Header}

theorem rest_of_phase_ne (hp : c.phase ≠ .haveHeader) : c.rest mem = [] := by
  unfold rest
  split
  · next hph _ => exact absurd hph hp
  · rfl

theorem rest_of_block_none (hb : c.block = none) : c.rest mem = [] := by
  unfold rest
  rw [hb]
  split
  · next hb' => cases hb'
  · rfl

/-! ### Taking a slot -/

theorem contents_of_length_zero (hl : (c.header mem).length mem = 0) :
    c.contents mem c.index = [] := if_pos hl

theorem phase_take_of_length_zero (hl : (c.header mem).length mem = 0) :
    (c.take mem).phase ≠ .haveHeader := by
  simp [take, hl]

theorem rest_take_of_length_zero (hl : (c.header mem).length mem = 0) :
    (c.take mem).rest mem' = [] :=
  rest_of_phase_ne (phase_take_of_length_zero hl)

theorem contents_of_length_ne (hl : (c.header mem).length mem ≠ 0) :
    c.contents mem c.index = c.frame mem (c.header mem) :: (c.take mem).rest mem := by
  have hc : c.contents mem c.index = (c.records mem c.index).map (c.frame mem) := if_neg hl
  rw [hc, take, if_neg hl]
  obtain ⟨v, g, snap, t, i, ph, pr, bl⟩ := c
  cases v with
  | v1 => rfl
  | v2 => rfl
  | v3 =>
    unfold records rest
    dsimp only
    rw [BlockPosition.trail_eq_cons, List.map_cons, List.map_cons, List.map_map]
    rfl

/-! ### Walking on -/

theorem rest_of_walk_some (hw : (c.walk mem).2 = some h) :
    c.rest mem = c.frame mem h :: (c.walk mem).1.rest mem := by
  obtain ⟨p, q, hb, hq, he⟩ := walk_eq_some hw
  rw [he] at hw ⊢
  cases hw
  have hp : c.phase = .haveHeader := by
    by_contra hp
    have hn : (c.walk mem).2 = none := by
      unfold walk
      split
      · next hph _ => exact absurd hph hp
      · rfl
      · rfl
    rw [he] at hn
    cases hn
  unfold rest
  rw [hp, hb]
  dsimp only
  rw [BlockPosition.trail_of_advance hq, List.tail_cons, BlockPosition.trail_eq_cons, List.map_cons,
    List.tail_cons]
  rfl

theorem rest_of_walk_none (hw : (c.walk mem).2 = none) :
    c.rest mem = [] ∧ (c.walk mem).1.phase ≠ .haveHeader := by
  unfold walk at hw ⊢
  split
  · next p hp hb =>
    rw [hp, hb] at hw
    dsimp only at hw
    split
    · next q hq => rw [hq] at hw; cases hw
    · next hq =>
      refine ⟨?_, nofun⟩
      unfold rest
      rw [hp, hb]
      dsimp only
      rw [BlockPosition.trail_of_end hq]
      rfl
  · next hb => exact ⟨rest_of_block_none hb, nofun⟩
  · next hn =>
    have hp : c.phase ≠ .haveHeader := by
      intro hp
      cases hb : c.block with
      | none => exact absurd hb (by simpa [hp] using hn)
      | some p => simp_all
    exact ⟨rest_of_phase_ne hp, hp⟩

/-! ### What reading leaves alone -/

def start (c : Cursor) : Cursor :=
  { version := c.version, geometry := c.geometry, snapLength := c.snapLength, timeout := c.timeout }

theorem start_take (c : Cursor) (mem : Region) : (c.take mem).start = c.start := by
  unfold take
  split <;> rfl

theorem start_walk (c : Cursor) (mem : Region) : (c.walk mem).1.start = c.start := by
  unfold walk
  split
  · split <;> rfl
  all_goals rfl

variable {c' : Cursor}

theorem version_of_start (hs : c'.start = c.start) : c'.version = c.version := by
  have hversion : c'.start.version = c.start.version := by rw [hs]
  exact hversion

theorem geometry_of_start (hs : c'.start = c.start) : c'.geometry = c.geometry := by
  have hgeometry : c'.start.geometry = c.start.geometry := by rw [hs]
  exact hgeometry

theorem round_of_start (hs : c'.start = c.start) : c'.round = c.round := by
  have hround : c'.start.round = c.start.round := by rw [hs]
  exact hround

theorem frame_of_start (hs : c'.start = c.start) : c'.frame = c.frame := by
  have hframe : c'.start.frame = c.start.frame := by rw [hs]
  exact hframe

end Cursor

end PacketRing
