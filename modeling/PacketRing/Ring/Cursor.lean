import PacketRing.Ring.Header

/-!
# The cursor

The reader's place in the ring: its slot, whether that slot still has to go back to the kernel, and
how far a v3 block has been walked.

* `Cursor` : the place, with what decides how packets are read there;
* `Cursor.header`, `Cursor.isUser` : the slot at the cursor;
* `Cursor.moveOn` : the place after the slot is handed back;
* `Cursor.walk` : the next record of the block at the cursor;
* `Cursor.frame` : a packet as it is handed out;
* `Cursor.freeSlots` : how many slots are the reader's and not yet taken, which falls when a slot
  is taken after the one before it was handed back (`freeSlots_take_lt`).
-/

namespace PacketRing

/-- How far the reader is with the slot at the cursor. -/
inductive Phase where
  /-- No header since the start or since a slot was found empty. -/
  | needHeader
  /-- A packet of the slot was handed out. -/
  | haveHeader
  /-- The block has no packets left. -/
  | blockExhausted
  deriving DecidableEq, Repr

/-- A packet located in the ring. -/
structure Frame where
  /-- Where its bytes begin in the mapping. -/
  offset : Nat
  /-- How many there are. -/
  size : Nat
  info : CaptureInfo
  deriving DecidableEq, Repr

/-- The reader's place in the ring. -/
structure Cursor where
  version : Version
  geometry : Geometry
  /-- The most bytes to hand out of a packet; zero sets no bound. -/
  snapLength : Nat
  /-- The wait of one poll in milliseconds. -/
  timeout : Int
  /-- The slot, a frame in v1 and v2 and a block in v3. -/
  index : Nat := 0
  phase : Phase := .needHeader
  /-- The slot has to go back to the kernel. -/
  pendingRelease : Bool := false
  /-- The place in the block. -/
  block : Option BlockPosition := none
  deriving DecidableEq, Repr

namespace Cursor

def base (c : Cursor) : Nat := c.geometry.slotOffset c.version c.index

def header (c : Cursor) (mem : Region) : Header := .atSlot mem c.geometry c.version c.base

def isUser (c : Cursor) (mem : Region) : Bool := isUserSlot mem c.version c.base

/-- The number of slots that the cursor passes through in a round; at least one. -/
def round (c : Cursor) : Nat := max (c.geometry.slots c.version) 1

def moveOn (c : Cursor) : Cursor :=
  { c with index := (c.index + 1) % c.round, pendingRelease := false, block := none }

/-- The place after the slot was taken and turned out to hold a packet or nothing. -/
def take (c : Cursor) (mem : Region) : Cursor :=
  if (c.header mem).length mem = 0 then { c with pendingRelease := true, phase := .needHeader }
  else
    { c with
      pendingRelease := true
      phase := .haveHeader
      block := if c.version = .v3 then some (.first mem c.base c.geometry.blockSize) else none }

/-- The next record of the block at the cursor, if the reader is inside one that has more; else
the place where a new slot is due. -/
def walk (c : Cursor) (mem : Region) : Cursor × Option Header :=
  match c.phase, c.block with
  | .haveHeader, some p =>
    match p.advance? mem c.geometry.blockSize with
    | some q => ({ c with block := some q }, some (.ofPosition c.geometry.blockSize q))
    | none => ({ c with phase := .blockExhausted }, none)
  | .haveHeader, none => ({ c with phase := .needHeader }, none)
  | _, _ => (c, none)

/-- A record found by a walk is the next one of its block. -/
theorem walk_eq_some {c : Cursor} {mem : Region} {h : Header} (hw : (c.walk mem).2 = some h) :
    ∃ p q, c.block = some p ∧ p.advance? mem c.geometry.blockSize = some q ∧
      c.walk mem = ({ c with block := some q }, some (.ofPosition c.geometry.blockSize q)) := by
  unfold walk at hw ⊢
  split at hw
  · next p hp hb =>
    split at hw
    · next q hq => exact ⟨p, q, hb, hq, by simp [hp]⟩
    · simp at hw
  all_goals simp at hw

theorem slot_walk (c : Cursor) (mem : Region) :
    (c.walk mem).1.version = c.version ∧ (c.walk mem).1.geometry = c.geometry ∧
      (c.walk mem).1.index = c.index ∧ (c.walk mem).1.pendingRelease = c.pendingRelease := by
  unfold walk
  split
  · split <;> exact ⟨rfl, rfl, rfl, rfl⟩
  all_goals exact ⟨rfl, rfl, rfl, rfl⟩

/-- The packet under a header, with as many bytes as the cursor allows. -/
def frame (c : Cursor) (mem : Region) (h : Header) : Frame :=
  let (start, found) := h.span mem
  let size := if 0 < c.snapLength then min found c.snapLength else found
  { offset := start
    size
    info :=
      { timestamp := h.timestamp mem
        captureLength := size
        length := h.length mem
        ifindex := h.ifindex mem
        vlan := h.vlan? mem } }

/-! ## Slots still to be taken -/

/-- Slot `i` is the reader's and is not held at the cursor. -/
def isFree (c : Cursor) (mem : Region) (i : Nat) : Bool :=
  isUserSlot mem c.version (c.geometry.slotOffset c.version i) &&
    !(c.pendingRelease && i == c.index)

/-- How many slots are the reader's and not held at the cursor. -/
def freeSlots (c : Cursor) (mem : Region) : Nat := (List.range c.round).countP (c.isFree mem)

theorem freeSlots_walk (c : Cursor) (mem mem' : Region) :
    (c.walk mem).1.freeSlots mem' = c.freeSlots mem' := by
  obtain ⟨hv, hg, hi, hp⟩ := c.slot_walk mem
  have hf : (c.walk mem).1.isFree mem' = c.isFree mem' := by
    funext i; unfold isFree; rw [hv, hg, hi, hp]
  unfold freeSlots round
  rw [hf, hv, hg]

theorem countP_lt_countP {α : Type} {p q : α → Bool} {l : List α} {y : α}
    (h : ∀ x ∈ l, p x → q x) (hy : y ∈ l) (hq : q y = true) (hp : p y = false) :
    l.countP p < l.countP q := by
  induction l with
  | nil => simp at hy
  | cons a l ih =>
    have hl : ∀ x ∈ l, p x → q x := fun x hx => h x (by simp [hx])
    have hle : l.countP p ≤ l.countP q := List.countP_mono_left hl
    have ha : p a → q a := h a (by simp)
    rw [List.countP_cons, List.countP_cons]
    rcases List.mem_cons.1 hy with rfl | hy
    · simp [hp, hq]; omega
    · have := ih hl hy
      cases hpa : p a
      · cases q a <;> simp <;> omega
      · simp [ha hpa, this]

@[simp] theorem round_moveOn (c : Cursor) : c.moveOn.round = c.round := rfl

theorem index_moveOn_lt (c : Cursor) : c.moveOn.index < c.round :=
  Nat.mod_lt _ (by unfold round; omega)

theorem version_take (c : Cursor) (mem : Region) :
    (c.take mem).version = c.version ∧ (c.take mem).geometry = c.geometry ∧
      (c.take mem).index = c.index ∧ (c.take mem).pendingRelease = true := by
  unfold take; split <;> exact ⟨rfl, rfl, rfl, rfl⟩

theorem isFree_take (c : Cursor) (mem : Region) (i : Nat) :
    (c.take mem).isFree mem i =
      (isUserSlot mem c.version (c.geometry.slotOffset c.version i) && !(i == c.index)) := by
  obtain ⟨hv, hg, hi, hp⟩ := c.version_take mem
  unfold isFree
  rw [hv, hg, hi, hp, Bool.true_and]

theorem round_take (c : Cursor) (mem : Region) : (c.take mem).round = c.round := by
  obtain ⟨hv, hg, -⟩ := c.version_take mem
  unfold round; rw [hv, hg]

theorem freeSlots_take_le (c : Cursor) (mem : Region) :
    (c.take mem).freeSlots mem ≤ c.freeSlots mem := by
  unfold freeSlots
  rw [round_take]
  refine List.countP_mono_left fun i _ hi => ?_
  rw [isFree_take, Bool.and_eq_true] at hi
  cases hp : c.pendingRelease <;> simp_all [isFree]

/-- Handing the held slot back and taking the next one lowers the number of free slots. -/
theorem freeSlots_take_lt {c : Cursor} {mem : Region}
    (hu : c.moveOn.isUser (clearSlot mem c.version c.base) = true) :
    (c.moveOn.take (clearSlot mem c.version c.base)).freeSlots (clearSlot mem c.version c.base) <
      c.freeSlots mem := by
  have hself : isUserSlot (clearSlot mem c.version c.base) c.version c.base = false :=
    isUserSlot_clearSlot_self ..
  unfold freeSlots
  rw [round_take, round_moveOn]
  refine countP_lt_countP (y := c.moveOn.index) (fun i _ hi => ?_)
    (List.mem_range.2 c.index_moveOn_lt) ?_ ?_
  · rw [isFree_take, Bool.and_eq_true] at hi
    have hi' := hi.1
    change isUserSlot (clearSlot mem c.version c.base) c.version
      (c.geometry.slotOffset c.version i) = true at hi'
    have hne : i ≠ c.index := by
      rintro rfl
      exact absurd hi' (by simpa [base] using hself)
    simp [isFree, isUserSlot_of_clearSlot hi', hne]
  · change isUserSlot (clearSlot mem c.version c.base) c.version
      (c.geometry.slotOffset c.version c.moveOn.index) = true at hu
    have hne : c.moveOn.index ≠ c.index := by
      intro he
      rw [he] at hu
      exact absurd hu (by simpa [base] using hself)
    simp [isFree, isUserSlot_of_clearSlot hu, hne]
  · rw [isFree_take]; simp

end Cursor

end PacketRing
