import Mathlib
import PacketRing.Proofs.Returning

/-!
# The looks of a read

A read looks at one slot after the other until it comes to its end. What it does on the way is told
by what it sees.

* `Look` : the slot that went back before a look, the slot looked at, what memory holds then, and
  the poll that is made if the slot is the kernel's;
* `Again`, `Halts` : what the answer of a poll comes to;
* `Reader.looks` : the looks of a read, none if it finds a record of the block that it is in;
* `Look.Follows` : how one look comes from the one before (`looks_chain`);
* `Reader.looked` : what the looks tell of the read;
* `exists_of_looks` : a read is, from any of its looks on, the read of a reader that looks there
  first;
* `Reader.next_induct` : induction over the looks of a read.
-/

namespace PacketRing

/-! ## Polls -/

namespace Region

theorem stored_of_size_zero {mem : Region} (h : mem.size = 0) (writes : List Store) :
    mem.stored writes = mem := by
  have hstore : ∀ (bs : Bytes) (i : Nat), mem.store i bs = mem := by
    intro bs
    induction bs with
    | nil => exact fun _ => rfl
    | cons b bs ih =>
      intro i
      rw [store, put, if_neg (by omega)]
      exact ih _
  induction writes with
  | nil => rfl
  | cons w writes ih =>
    show (mem.store w.offset w.bytes).stored writes = mem
    rw [hstore, ih]

end Region

namespace Kernel

/-- What the kernel writes in its next poll. -/
def upcoming (k : Kernel) : List Store :=
  match k.script with
  | [] => []
  | s :: _ => s.writes

theorem memory_wait (k : Kernel) (t : Int) :
    (k.wait t).2.memory = k.memory.stored k.upcoming := by
  cases hs : k.script with
  | nil =>
    rw [memory_wait_nil hs]
    unfold upcoming
    rw [hs]
    rfl
  | cons s rest =>
    have hupcoming : k.upcoming = s.writes := by
      unfold upcoming
      rw [hs]
    rw [hupcoming]
    cases hm : k.mapping with
    | some mem => exact memory_wait_cons (by rw [hm]; rfl) hs t
    | none =>
      have hk : k.memory = .zeroed 0 := by
        unfold memory
        rw [hm]
        rfl
      have hwaited : (k.wait t).2.memory = .zeroed 0 := by
        unfold memory
        rw [mapping_wait_cons hs, deliver, withMemory, hm]
        rfl
      rw [hwaited, hk, Region.stored_of_size_zero rfl]

end Kernel

/-- The answer of a poll lets a read look again: a signal came in between, or there are events, but
neither is the reader woken nor is anything wrong with the socket. -/
inductive Again : Except Errno (Nat × Nat) → Prop where
  | interrupted : Again (.error interruptedErrno)
  | events {socket waker : Nat} : (socket, waker) ≠ (0, 0) → hasBit waker pollIn = false →
      hasBit socket pollErr = false → hasBit socket pollNval = false → Again (.ok (socket, waker))

/-- The answer of a poll ends a read. Being woken comes before errors of the socket. -/
inductive Halts : Except Errno (Nat × Nat) → CaptureError → Prop where
  | timedOut : Halts (.ok (0, 0)) .pollTimeout
  | refused {e : Errno} : e ≠ interruptedErrno → Halts (.error e) (.syscall .poll e)
  | woken {socket waker : Nat} : hasBit waker pollIn = true → Halts (.ok (socket, waker)) .closed
  | failed {socket waker : Nat} : hasBit waker pollIn = false →
      (hasBit socket pollErr = true ∨ hasBit socket pollNval = true) →
        Halts (.ok (socket, waker)) .pollFailure

theorem verdict_wait (k : Kernel) (t : Int) :
    match Reader.verdict (k.wait t).1 with
    | none => Again (k.poll t).1
    | some e => Halts (k.poll t).1 e := by
  unfold Kernel.wait
  obtain ⟨answer, k'⟩ := k.poll t
  rcases answer with e | ⟨socket, waker⟩
  · by_cases he : e = interruptedErrno
    · subst he
      exact .interrupted
    · dsimp only
      rw [if_neg he]
      exact .refused he
  · dsimp only
    by_cases hzero : (socket, waker) = (0, 0)
    · cases hzero
      exact .timedOut
    · have hreadiness : Kernel.readiness (socket, waker) =
          if hasBit waker pollIn then .woken
          else if hasBit socket pollErr || hasBit socket pollNval then .failed else .ready := by
        unfold Kernel.readiness
        split
        · next h => exact absurd h hzero
        · next h => cases h; rfl
      rw [hreadiness]
      cases hw : hasBit waker pollIn with
      | true => exact .woken hw
      | false =>
        cases herr : hasBit socket pollErr with
        | true => exact .failed hw (.inl herr)
        | false =>
          cases hnval : hasBit socket pollNval with
          | true => exact .failed hw (.inr hnval)
          | false => exact .events hzero hw herr hnval

/-! ## Looks -/

/-- What a read sees when it looks for a packet. -/
structure Look where
  /-- The slot handed back just before, if one was held. -/
  released : Option Nat
  slot : Nat
  memory : Region
  /-- What the poll for the slot answers; none is made if the slot is the reader's. -/
  answer : Option (Except Errno (Nat × Nat))
  /-- What the kernel writes during that poll. -/
  writes : List Store

namespace Look

/-- The slot is the reader's and holds no packet. -/
def Passes (c : Cursor) (l : Look) : Prop :=
  l.answer.isNone ∧ (c.front l.memory l.slot).length l.memory = 0

instance (c : Cursor) (l : Look) : Decidable (l.Passes c) := inferInstanceAs (Decidable (_ ∧ _))

/-- Memory once the slot before the look is handed back. -/
def freed (c : Cursor) (l : Look) (mem : Region) : Region :=
  match l.released with
  | some i => clearSlot mem c.version (c.offset i)
  | none => mem

/-- Memory after the look: a slot is handed back before it, and the kernel writes in its poll. -/
def touch (c : Cursor) (mem : Region) (l : Look) : Region := (l.freed c mem).stored l.writes

/-- The look `l'` comes next after `l`: at the next slot, after a slot without a packet went back,
or at the same one, after a poll. -/
inductive Follows (c : Cursor) (l l' : Look) : Prop where
  | passed : l.Passes c → l'.released = some l.slot → l'.slot = (l.slot + 1) % c.round →
      l'.memory = clearSlot l.memory c.version (c.offset l.slot) → Follows c l l'
  | again {a : Except Errno (Nat × Nat)} : l.answer = some a → Again a → l'.released = none →
      l'.slot = l.slot → l'.memory = l.memory.stored l.writes → Follows c l l'

/-- What a read comes to at its last look. -/
inductive Concludes (c : Cursor) (l : Look) : Except CaptureError Frame → Prop where
  | packet : l.answer = none → (c.front l.memory l.slot).length l.memory ≠ 0 →
      Concludes c l (.ok (c.frame l.memory (c.front l.memory l.slot)))
  | stopped {a : Except Errno (Nat × Nat)} {e : CaptureError} : l.answer = some a → Halts a e →
      Concludes c l (.error e)

end Look

namespace Cursor

variable {c c' : Cursor}

theorem front_of_start (hs : c'.start = c.start) : c'.front = c.front := by
  have hfront : c'.start.front = c.start.front := by rw [hs]
  exact hfront

theorem timeout_of_start (hs : c'.start = c.start) : c'.timeout = c.timeout := by
  have htimeout := congrArg Cursor.timeout hs
  exact htimeout

end Cursor

namespace Look

variable {c c' : Cursor} {l l' : Look}

theorem passes_of_start (hs : c'.start = c.start) : l.Passes c' ↔ l.Passes c := by
  unfold Passes
  rw [Cursor.front_of_start hs]

theorem touch_of_start (hs : c'.start = c.start) : touch c' = touch c := by
  funext mem l
  unfold touch freed
  rw [Cursor.version_of_start hs, Cursor.offset_of_start hs]

theorem Follows.of_start (h : l.Follows c' l') (hs : c'.start = c.start) : l.Follows c l' := by
  cases h with
  | passed hp hreleased hslot hmemory =>
    rw [Cursor.round_of_start hs] at hslot
    rw [Cursor.version_of_start hs, Cursor.offset_of_start hs] at hmemory
    exact .passed ((passes_of_start hs).1 hp) hreleased hslot hmemory
  | again ha hagain hreleased hslot hmemory => exact .again ha hagain hreleased hslot hmemory

theorem Concludes.of_start {result : Except CaptureError Frame} (h : l.Concludes c' result)
    (hs : c'.start = c.start) : l.Concludes c result := by
  cases h with
  | packet ha hl =>
    rw [Cursor.front_of_start hs] at hl ⊢
    rw [Cursor.frame_of_start hs]
    exact .packet ha hl
  | stopped ha hhalts => exact .stopped ha hhalts

end Look

namespace Reader

variable {r : Reader} {k : Kernel} {s : Reader × Kernel} {l : Look}
  {result : Except CaptureError Frame × Reader × Kernel}

/-- What a read that needs a slot sees first. -/
def look (r : Reader) (k : Kernel) : Look where
  released := if r.cursor.pendingRelease then some r.cursor.index else none
  slot := (r.facing k).1.cursor.index
  memory := (r.facing k).2.memory
  answer :=
    if (r.facing k).1.cursor.isUser (r.facing k).2.memory then none
    else some ((r.facing k).2.poll (r.facing k).1.cursor.timeout).1
  writes :=
    if (r.facing k).1.cursor.isUser (r.facing k).2.memory then [] else (r.facing k).2.upcoming

/-- The reader and the kernel after a turn, if the read goes on. -/
def onward (r : Reader) (k : Kernel) : Option (Reader × Kernel) :=
  if (r.cursor.walk k.memory).2.isSome then none
  else if (r.facing k).1.cursor.isUser (r.facing k).2.memory then
    if ((r.facing k).1.cursor.header (r.facing k).2.memory).length (r.facing k).2.memory = 0 then
      some ({ (r.facing k).1 with cursor := (r.facing k).1.cursor.take (r.facing k).2.memory },
        (r.facing k).2)
    else none
  else
    match verdict ((r.facing k).2.wait (r.facing k).1.cursor.timeout).1 with
    | none =>
      some ((r.facing k).1.countPoll, ((r.facing k).2.wait (r.facing k).1.cursor.timeout).2)
    | some _ => none

theorem turn_of_onward (h : r.onward k = some s) : Turn (r, k) s := by
  unfold onward at h
  split at h
  · cases h
  · next hw =>
    have hw : (r.cursor.walk k.memory).2 = none := by simpa using hw
    split at h
    · next hu =>
      split at h
      · next hl =>
        cases h
        exact .inl ⟨hw, hu, hl, rfl, rfl⟩
      · cases h
    · next hu =>
      split at h
      · next hv =>
        cases h
        exact .inr ⟨hw, hu, hv, rfl, rfl⟩
      · cases h

theorem onward_of_turn (h : Turn (r, k) s) : r.onward k = some s := by
  obtain ⟨r', k'⟩ := s
  rcases h with ⟨hw, hu, hl, rfl, rfl⟩ | ⟨hw, hu, hv, rfl, rfl⟩ <;> dsimp only at hw hu
  · unfold onward
    rw [hw, if_neg (by simp), if_pos hu, if_pos hl]
  · unfold onward
    rw [hw, if_neg (by simp), if_neg hu]
    dsimp only at hv
    rw [hv]

theorem onward_of_ends (h : Ends r k result) : r.onward k = none := by
  unfold onward
  cases h with
  | record hw => rw [hw, if_pos (by simp)]
  | packet hw hu hl => rw [hw, if_neg (by simp), if_pos hu, if_neg hl]
  | stopped hw hu hv => rw [hw, if_neg (by simp), if_neg hu, hv]

/-- The looks of a read. -/
def looks (r : Reader) (k : Kernel) : List Look :=
  match _ : r.onward k with
  | some s => r.look k :: looks s.1 s.2
  | none => if (r.cursor.walk k.memory).2.isSome then [] else [r.look k]
termination_by r.budget k
decreasing_by
  rename_i h
  exact (turn_of_onward h).budget_lt

theorem looks_of_turn (h : Turn (r, k) s) : r.looks k = r.look k :: s.1.looks s.2 := by
  rw [looks]
  split
  · next s' hs =>
    rw [onward_of_turn h] at hs
    cases hs
    rfl
  · next hs =>
    rw [onward_of_turn h] at hs
    cases hs

theorem looks_of_ends (h : Ends r k result) :
    r.looks k = if (r.cursor.walk k.memory).2.isSome then [] else [r.look k] := by
  rw [looks]
  split
  · next hs =>
    rw [onward_of_ends h] at hs
    cases hs
  · rfl

theorem looks_of_walk_some {hd : Header} (hw : (r.cursor.walk k.memory).2 = some hd) :
    r.looks k = [] := by
  rw [looks_of_ends (.record hw), hw]
  rfl

theorem looks_of_last (h : Ends r k result) (hw : (r.cursor.walk k.memory).2 = none) :
    r.looks k = [r.look k] := by
  rw [looks_of_ends h, hw]
  rfl

theorem Turn.walked (h : Turn (r, k) s) : (r.cursor.walk k.memory).2 = none :=
  h.elim (·.walked) (·.walked)

theorem looks_of_walk_none (hw : (r.cursor.walk k.memory).2 = none) :
    ∃ rest, r.looks k = r.look k :: rest := by
  rcases ends_or_turns r k with h | ⟨s, h⟩
  · exact ⟨[], looks_of_last h hw⟩
  · exact ⟨_, looks_of_turn h⟩

/-- Induction over the looks of a read, from the last one back. -/
theorem next_induct {motive : Reader → Kernel → Prop}
    (ends : ∀ r k, Ends r k (r.next k) → motive r k)
    (turn : ∀ r k s, Turn (r, k) s → motive s.1 s.2 → motive r k)
    (r : Reader) (k : Kernel) : motive r k := by
  rcases ends_or_turns r k with h | ⟨s, h⟩
  · exact ends r k h
  · exact turn r k s h (next_induct ends turn s.1 s.2)
termination_by r.budget k
decreasing_by exact h.budget_lt

/-! ### What a look sees -/

theorem start_facing (r : Reader) (k : Kernel) :
    (r.facing k).1.cursor.start = r.cursor.start :=
  (start_release ..).trans (r.cursor.start_walk k.memory)

theorem pendingRelease_facing (r : Reader) (k : Kernel) :
    (r.facing k).1.cursor.pendingRelease = false := pendingRelease_release ..

theorem slot_look (r : Reader) (k : Kernel) :
    (r.look k).slot =
      if r.cursor.pendingRelease then (r.cursor.index + 1) % r.cursor.round
      else r.cursor.index := by
  obtain ⟨-, -, hi, hp⟩ := r.cursor.slot_walk k.memory
  have hround := Cursor.round_of_start (r.cursor.start_walk k.memory)
  show (r.facing k).1.cursor.index = _
  unfold facing release
  rw [hp]
  split
  · show ((r.cursor.walk k.memory).1.index + 1) % (r.cursor.walk k.memory).1.round = _
    rw [hi, hround]
  · exact hi

theorem memory_look (r : Reader) (k : Kernel) :
    (r.look k).memory = (r.look k).freed r.cursor k.memory := by
  obtain ⟨hv, hg, hi, hp⟩ := r.cursor.slot_walk k.memory
  show (r.facing k).2.memory = _
  unfold facing release Look.freed look
  dsimp only
  rw [hp]
  cases r.cursor.pendingRelease with
  | false => rfl
  | true =>
    simp only [↓reduceIte, Kernel.memory_release]
    unfold Cursor.base Cursor.offset
    rw [hv, hg, hi]

theorem isUser_facing (r : Reader) (k : Kernel) :
    (r.facing k).1.cursor.isUser (r.facing k).2.memory =
      isUserSlot (r.look k).memory r.cursor.version (r.cursor.offset (r.look k).slot) := by
  have hs := start_facing r k
  unfold Cursor.isUser
  rw [Cursor.version_of_start hs]
  show isUserSlot _ _ ((r.facing k).1.cursor.offset _) = _
  rw [Cursor.offset_of_start hs]
  rfl

theorem header_facing (r : Reader) (k : Kernel) :
    (r.facing k).1.cursor.header (r.facing k).2.memory =
      r.cursor.front (r.look k).memory (r.look k).slot := by
  rw [← Cursor.front_of_start (start_facing r k)]
  rfl

/-- A poll is made just if the slot is the kernel's. -/
theorem isNone_answer_look (r : Reader) (k : Kernel) :
    (r.look k).answer.isNone =
      isUserSlot (r.look k).memory r.cursor.version (r.cursor.offset (r.look k).slot) := by
  rw [← isUser_facing]
  unfold look
  dsimp only
  cases (r.facing k).1.cursor.isUser (r.facing k).2.memory <;> rfl

theorem look_of_user (hu : (r.facing k).1.cursor.isUser (r.facing k).2.memory = true) :
    (r.look k).answer = none ∧ (r.look k).writes = [] :=
  ⟨if_pos hu, if_pos hu⟩

theorem look_of_kernel (hu : ¬ (r.facing k).1.cursor.isUser (r.facing k).2.memory = true) :
    (r.look k).answer = some ((r.facing k).2.poll (r.facing k).1.cursor.timeout).1 ∧
      (r.look k).writes = (r.facing k).2.upcoming :=
  ⟨if_neg hu, if_neg hu⟩

/-! ### Turns -/

theorem Turn.start (h : Turn (r, k) s) : s.1.cursor.start = r.cursor.start := by
  obtain ⟨r', k'⟩ := s
  rcases h with ⟨-, -, -, rfl, rfl⟩ | ⟨-, -, -, rfl, rfl⟩
  · exact (Cursor.start_take ..).trans (start_facing r k)
  · exact start_facing r k

theorem Turn.index (h : Turn (r, k) s) : s.1.cursor.index = (r.look k).slot := by
  obtain ⟨r', k'⟩ := s
  rcases h with ⟨-, -, -, rfl, rfl⟩ | ⟨-, -, -, rfl, rfl⟩
  · exact (Cursor.version_take ..).2.2.1
  · rfl

theorem Turn.pendingRelease (h : Turn (r, k) s) :
    s.1.cursor.pendingRelease = (r.look k).answer.isNone := by
  obtain ⟨r', k'⟩ := s
  rcases h with ⟨-, hu, -, rfl, rfl⟩ | ⟨-, hu, -, rfl, rfl⟩
  · rw [(look_of_user hu).1]
    exact (Cursor.version_take ..).2.2.2
  · rw [(look_of_kernel hu).1]
    exact pendingRelease_facing r k

theorem Turn.memory (h : Turn (r, k) s) :
    s.2.memory = (r.look k).memory.stored (r.look k).writes := by
  obtain ⟨r', k'⟩ := s
  rcases h with ⟨-, hu, -, rfl, rfl⟩ | ⟨-, hu, -, rfl, rfl⟩
  · rw [(look_of_user hu).2]
    rfl
  · rw [(look_of_kernel hu).2]
    exact Kernel.memory_wait ..

/-- A read goes on behind a slot without a packet, or after a poll that lets it look again. -/
theorem Turn.goesOn (h : Turn (r, k) s) :
    (r.look k).Passes r.cursor ∨ ∃ a, (r.look k).answer = some a ∧ Again a := by
  rcases h with ⟨-, hu, hl, -, -⟩ | ⟨-, hu, hv, -, -⟩
  · refine .inl ⟨by rw [(look_of_user hu).1]; rfl, ?_⟩
    rw [← header_facing]
    exact hl
  · refine .inr ⟨_, (look_of_kernel hu).1, ?_⟩
    have hverdict := verdict_wait (r.facing k).2 (r.facing k).1.cursor.timeout
    dsimp only at hv
    rw [hv] at hverdict
    exact hverdict

theorem Turn.phase (h : Turn (r, k) s) : s.1.cursor.phase ≠ .haveHeader := by
  obtain ⟨r', k'⟩ := s
  rcases h with ⟨-, -, hl, rfl, rfl⟩ | ⟨hw, -, -, rfl, rfl⟩
  · exact Cursor.phase_take_of_length_zero hl
  · exact phase_facing hw

theorem Turn.walk (h : Turn (r, k) s) : (s.1.cursor.walk s.2.memory).2 = none := by
  rw [Cursor.walk_of_phase_ne h.phase]

theorem Turn.follows (h : Turn (r, k) s) :
    (r.look k).Follows r.cursor (s.1.look s.2) := by
  have hslot := slot_look s.1 s.2
  have hmemory := memory_look s.1 s.2
  have hreleased : (s.1.look s.2).released =
      if s.1.cursor.pendingRelease then some s.1.cursor.index else none := rfl
  unfold Look.freed at hmemory
  rw [hreleased] at hmemory
  rw [h.pendingRelease, h.index] at hslot hreleased hmemory
  rw [Cursor.round_of_start h.start] at hslot
  rw [Cursor.version_of_start h.start, Cursor.offset_of_start h.start, h.memory] at hmemory
  rcases h.goesOn with hp | ⟨a, ha, hagain⟩
  · have hwrites : (r.look k).writes = [] := by
      have hnone := hp.1
      rw [isNone_answer_look, ← isUser_facing] at hnone
      exact (look_of_user hnone).2
    rw [hp.1] at hslot hreleased hmemory
    rw [hwrites] at hmemory
    exact .passed hp hreleased hslot hmemory
  · rw [ha] at hslot hreleased hmemory
    exact .again ha hagain hreleased hslot hmemory

/-! ### Ends -/

theorem index_of_ends (h : Ends r k result) (hw : (r.cursor.walk k.memory).2 = none) :
    result.2.1.cursor.index = (r.look k).slot := by
  cases h with
  | record hs => rw [hs] at hw; cases hw
  | packet => exact (Cursor.version_take ..).2.2.1
  | stopped => rfl

theorem memory_of_ends (h : Ends r k result) (hw : (r.cursor.walk k.memory).2 = none) :
    result.2.2.memory = (r.look k).memory.stored (r.look k).writes := by
  cases h with
  | record hs => rw [hs] at hw; cases hw
  | packet _ hu =>
    rw [(look_of_user hu).2]
    rfl
  | stopped _ hu =>
    rw [(look_of_kernel hu).2]
    exact Kernel.memory_wait ..

theorem concludes_of_ends (h : Ends r k result) (hw : (r.cursor.walk k.memory).2 = none) :
    (r.look k).Concludes r.cursor result.1 := by
  cases h with
  | record hs => rw [hs] at hw; cases hw
  | packet _ hu hl =>
    rw [header_facing] at hl ⊢
    show Look.Concludes _ _ (.ok (Cursor.frame _ _ _))
    rw [Cursor.frame_of_start ((Cursor.start_take ..).trans (start_facing r k))]
    exact .packet (look_of_user hu).1 hl
  | stopped _ hu hv =>
    have hverdict := verdict_wait (r.facing k).2 (r.facing k).1.cursor.timeout
    rw [hv] at hverdict
    exact .stopped (look_of_kernel hu).1 hverdict

/-! ### Runs -/

theorem looks_chain (r : Reader) (k : Kernel) : (r.looks k).IsChain (Look.Follows r.cursor) := by
  induction r, k using next_induct with
  | ends r k h =>
    rw [looks_of_ends h]
    split
    · exact .nil
    · exact .singleton _
  | turn r k s h ih =>
    obtain ⟨rest, hrest⟩ := looks_of_walk_none h.walk
    rw [hrest] at ih
    rw [looks_of_turn h, hrest]
    exact .cons_cons h.follows (ih.imp fun _ _ hf => hf.of_start h.start)

theorem follows_of_looks {l' : Look} {before after : List Look}
    (h : r.looks k = before ++ l :: l' :: after) : l.Follows r.cursor l' := by
  have hchain := looks_chain r k
  rw [h] at hchain
  exact (List.isChain_append_cons_cons.1 hchain).2.1

theorem mem_of_looks {before after : List Look} (h : r.looks k = before ++ l :: after) :
    l ∈ r.looks k := by
  rw [h]
  exact List.mem_append_right _ List.mem_cons_self

theorem memory_next (r : Reader) (k : Kernel) :
    (r.next k).2.2.memory = (r.looks k).foldl (Look.touch r.cursor) k.memory := by
  induction r, k using next_induct with
  | ends r k h =>
    cases hw : (r.cursor.walk k.memory).2 with
    | some hd =>
      rw [looks_of_walk_some hw, next_of_walk_some hw]
      rfl
    | none =>
      rw [looks_of_last h hw, memory_of_ends h hw, memory_look]
      rfl
  | turn r k s h ih =>
    rw [looks_of_turn h, h.next_eq, List.foldl_cons, ih, Look.touch_of_start h.start, h.memory,
      memory_look]
    rfl

/-- A read is, from any of its looks on, the read of a reader that looks there first. -/
theorem exists_of_looks {before after : List Look} (h : r.looks k = before ++ l :: after) :
    ∃ r' k', Relation.ReflTransGen Turn (r, k) (r', k') ∧ (r'.cursor.walk k'.memory).2 = none ∧
      l = r'.look k' ∧ r'.looks k' = l :: after := by
  induction r, k using next_induct generalizing before with
  | ends r k hends =>
    rw [looks_of_ends hends] at h
    split at h
    · cases before <;> cases h
    · next hw =>
      have hw : (r.cursor.walk k.memory).2 = none := by simpa using hw
      cases before with
      | cons b before => cases before <;> cases h
      | nil =>
        cases h
        exact ⟨r, k, .refl, hw, rfl, looks_of_last hends hw⟩
  | turn r k s hturn ih =>
    cases before with
    | nil =>
      obtain ⟨hl, -⟩ := List.cons.inj ((looks_of_turn hturn).symm.trans h)
      exact ⟨r, k, .refl, hturn.walked, hl.symm, h⟩
    | cons b before =>
      obtain ⟨-, hrest⟩ := List.cons.inj ((looks_of_turn hturn).symm.trans h)
      obtain ⟨r', k', hturns, hfound⟩ := ih hrest
      exact ⟨r', k', .head hturn hturns, hfound⟩

variable {s' : Reader × Kernel}

theorem next_eq_of_turns (h : Relation.ReflTransGen Turn s s') :
    s.1.next s.2 = s'.1.next s'.2 := by
  induction h with
  | refl => rfl
  | tail _ hturn ih => exact ih.trans hturn.next_eq

theorem start_of_turns (h : Relation.ReflTransGen Turn s s') :
    s'.1.cursor.start = s.1.cursor.start := by
  induction h with
  | refl => rfl
  | tail _ hturn ih => exact hturn.start.trans ih

/-! ### Each look, and the last -/

/-- A poll is made just at the looks at slots of the kernel's. -/
theorem isNone_answer_of_mem (hl : l ∈ r.looks k) :
    l.answer.isNone = isUserSlot l.memory r.cursor.version (r.cursor.offset l.slot) := by
  obtain ⟨before, after, h⟩ := List.append_of_mem hl
  obtain ⟨r', k', hturns, -, rfl, -⟩ := exists_of_looks h
  have hs := start_of_turns hturns
  rw [isNone_answer_look, Cursor.version_of_start hs, Cursor.offset_of_start hs]

theorem writes_of_answer_none (hl : l ∈ r.looks k) (ha : l.answer = none) : l.writes = [] := by
  obtain ⟨before, after, h⟩ := List.append_of_mem hl
  obtain ⟨r', k', -, -, rfl, -⟩ := exists_of_looks h
  by_cases hu : (r'.facing k').1.cursor.isUser (r'.facing k').2.memory = true
  · exact (look_of_user hu).2
  · rw [(look_of_kernel hu).1] at ha
    cases ha

/-- A read without a look finds a record of the block that it is in. -/
theorem exists_of_looks_nil (h : r.looks k = []) : ∃ hd, (r.cursor.walk k.memory).2 = some hd := by
  cases hw : (r.cursor.walk k.memory).2 with
  | some hd => exact ⟨hd, rfl⟩
  | none =>
    obtain ⟨rest, hrest⟩ := looks_of_walk_none hw
    rw [hrest] at h
    cases h

/-- A read ends at its last look. -/
theorem ends_of_looks_eq (h : r.looks k = [l]) : Ends r k (r.next k) := by
  rcases ends_or_turns r k with hends | ⟨s, hturn⟩
  · exact hends
  · obtain ⟨rest, hrest⟩ := looks_of_walk_none hturn.walk
    rw [looks_of_turn hturn, hrest] at h
    cases h

/-- What a read comes to is told by its last look. -/
theorem next_of_last_look {before : List Look} (h : r.looks k = before ++ [l]) :
    l.Concludes r.cursor (r.next k).1 ∧ (r.next k).2.2.memory = l.memory.stored l.writes ∧
      (r.next k).2.1.cursor.index = l.slot := by
  obtain ⟨r', k', hturns, hw, rfl, hlast⟩ := exists_of_looks h
  have hends := ends_of_looks_eq hlast
  have hnext : r.next k = r'.next k' := next_eq_of_turns hturns
  rw [hnext]
  exact ⟨(concludes_of_ends hends hw).of_start (start_of_turns hturns), memory_of_ends hends hw,
    index_of_ends hends hw⟩

/-- The looks of a read tell all that it does. The first is at the slot at the cursor, or behind it
if that slot goes back; each other one follows from the one before; and the read ends as the last
one tells. A read without a look returns a record of the block that it is in, and does nothing
else. -/
structure Looked (r : Reader) (k : Kernel) : Prop where
  first : ∀ l ∈ (r.looks k).head?,
    l.released = (if r.cursor.pendingRelease then some r.cursor.index else none) ∧
      l.slot = (if r.cursor.pendingRelease then (r.cursor.index + 1) % r.cursor.round
        else r.cursor.index) ∧
      l.memory = l.freed r.cursor k.memory
  chain : (r.looks k).IsChain (Look.Follows r.cursor)
  last : ∀ l ∈ (r.looks k).getLast?, l.Concludes r.cursor (r.next k).1 ∧
    (r.next k).2.2.memory = l.memory.stored l.writes ∧ (r.next k).2.1.cursor.index = l.slot
  none : r.looks k = [] → (∃ hd, (r.cursor.walk k.memory).2 = some hd) ∧ (r.next k).2.2 = k

theorem looked (r : Reader) (k : Kernel) : Looked r k := by
  refine ⟨fun l hl => ?_, looks_chain r k, fun l hl => ?_, fun h => ?_⟩
  · cases hw : (r.cursor.walk k.memory).2 with
    | some hd =>
      rw [looks_of_walk_some hw] at hl
      cases hl
    | none =>
      obtain ⟨rest, hlooks⟩ := looks_of_walk_none hw
      rw [hlooks] at hl
      cases hl
      exact ⟨rfl, slot_look r k, memory_look r k⟩
  · obtain ⟨before, hlooks⟩ := List.getLast?_eq_some_iff.1 hl
    exact next_of_last_look hlooks
  · obtain ⟨hd, hw⟩ := exists_of_looks_nil h
    rw [next_of_walk_some hw]
    exact ⟨⟨hd, hw⟩, rfl⟩

/-! ### Polls -/

/-- What the polls of a read answer. -/
def answers (r : Reader) (k : Kernel) : List (Except Errno (Nat × Nat)) :=
  (r.looks k).filterMap (·.answer)

theorem answers_of_turn (h : Turn (r, k) s) :
    r.answers k = (r.look k).answer.toList ++ s.1.answers s.2 := by
  unfold answers
  rw [looks_of_turn h, List.filterMap_cons]
  cases (r.look k).answer <;> rfl

theorem answers_of_last (h : Ends r k result) (hw : (r.cursor.walk k.memory).2 = none) :
    r.answers k = (r.look k).answer.toList := by
  unfold answers
  rw [looks_of_last h hw, List.filterMap_cons]
  cases (r.look k).answer <;> rfl

theorem answers_of_walk_some {hd : Header} (hw : (r.cursor.walk k.memory).2 = some hd) :
    r.answers k = [] := by
  unfold answers
  rw [looks_of_walk_some hw]
  rfl

theorem Turn.script (h : Turn (r, k) s) :
    s.2.script = k.script.drop (r.look k).answer.toList.length := by
  obtain ⟨r', k'⟩ := s
  rcases h with ⟨-, hu, -, rfl, rfl⟩ | ⟨-, hu, -, rfl, rfl⟩
  · rw [(look_of_user hu).1]
    exact script_facing r k
  · rw [(look_of_kernel hu).1]
    show ((r.facing k).2.wait _).2.script = k.script.drop 1
    rw [Kernel.script_wait, script_facing, List.drop_one]

theorem script_of_ends (h : Ends r k result) (hw : (r.cursor.walk k.memory).2 = none) :
    result.2.2.script = k.script.drop (r.look k).answer.toList.length := by
  cases h with
  | record hs => rw [hs] at hw; cases hw
  | packet _ hu =>
    rw [(look_of_user hu).1]
    exact script_facing r k
  | stopped _ hu =>
    rw [(look_of_kernel hu).1]
    show ((r.facing k).2.wait _).2.script = k.script.drop 1
    rw [Kernel.script_wait, script_facing, List.drop_one]

/-- Every poll takes an entry of the script, if there is one. -/
theorem script_next (r : Reader) (k : Kernel) :
    (r.next k).2.2.script = k.script.drop (r.answers k).length := by
  induction r, k using next_induct with
  | ends r k h =>
    cases hw : (r.cursor.walk k.memory).2 with
    | some hd =>
      rw [answers_of_walk_some hw, next_of_walk_some hw]
      rfl
    | none => rw [answers_of_last h hw, script_of_ends h hw]
  | turn r k s h ih =>
    rw [answers_of_turn h, h.next_eq, ih, h.script, List.drop_drop, List.length_append]

end Reader

end PacketRing
