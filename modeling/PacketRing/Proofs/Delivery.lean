import Mathlib
import PacketRing.Proofs.Balance
import PacketRing.Proofs.Polling

/-!
# Runs of kernel and reader

The kernel hands slots over between the reads and inside their polls. What a slot handed over looks
like is a parameter, `Handover`.

* `Ledger` : what was handed over and what was returned so far;
* `Lawful` : the polls of a read hand slots over and do nothing else to memory;
* `Stage` : a point of a read where memory may change, or its end;
* `Run`, `Moment` : all that kernel and reader can come to, between reads and at any stage of a
  read;
* `Feeds` : handovers that fill slots with packets that the reader will find there;
* `next_drained` : a read keeps the balance at each of its stages, and what it gives back is what
  was returned before it (`Drained`).
-/

namespace PacketRing

/-! ## Ledgers -/

/-- What passed between kernel and reader: the packets of each slot handed over, and the packets
that reads returned. -/
structure Ledger where
  handed : List (List Frame) := []
  returned : List Frame := []

namespace Ledger

def hand (l : Ledger) (fs : List Frame) : Ledger := { l with handed := l.handed ++ [fs] }

def note (l : Ledger) (result : Except CaptureError Frame) : Ledger :=
  match result with
  | .ok f => { l with returned := l.returned ++ [f] }
  | .error _ => l

theorem handed_note (l : Ledger) (result : Except CaptureError Frame) :
    (l.note result).handed = l.handed := by
  cases result <;> rfl

end Ledger

/-- What it takes to hand slot `i` over: `H i mem mem' fs` says that memory becomes `mem'`, and the
slot holds the packets `fs`. -/
abbrev Handover := Nat → Region → Region → List Frame → Prop

/-- Handovers in ring order, as many as the kernel likes. -/
inductive Handovers (H : Handover) (slots : Nat) : Region → Ledger → Region → Ledger → Prop where
  | none (mem : Region) (l : Ledger) : Handovers H slots mem l mem l
  | next {mem mem₁ mem' : Region} {l l' : Ledger} {fs : List Frame} :
    H (l.handed.length % slots) mem mem₁ fs → Handovers H slots mem₁ (l.hand fs) mem' l' →
      Handovers H slots mem l mem' l'

/-- The polls of a read hand slots over and do nothing else to memory; `ls n` is the ledger when
poll number `n` begins. -/
def Lawful (H : Handover) (slots : Nat) (read : Reading) (k : Kernel) (ls : Nat → Ledger) : Prop :=
  ∀ n s, n < polled read k → k.script[n]? = some s →
    Handovers H slots (found read k n) (ls n) ((found read k n).stored s.writes) (ls (n + 1))

/-- A stage of a read, with its ledger: the beginning of a poll, or the end of the read. -/
inductive Stage (read : Reading) (k : Kernel) (ls : Nat → Ledger) :
    Cursor → Region → Ledger → Prop where
  | poll {n : Nat} : n < polled read k →
    Stage read k ls (read (k.cut n)).2.1.cursor (found read k n) (ls n)
  | finish :
    Stage read k ls (read k).2.1.cursor (read k).2.2.memory ((ls (polled read k)).note (read k).1)

section Transport
variable {H : Handover} {slots : Nat} {read read' : Reading} {r : Reader} {k k' : Kernel}
  {ls : Nat → Ledger} {cu : Cursor} {mem : Region} {l : Ledger}

theorem Lawful.of_goesOn (h : Lawful H slots read k ls) (hgo : GoesOn read k read' k') :
    Lawful H slots read' k' ls := by
  intro n s hn hs
  rw [← hgo.found_eq]
  exact h n s (hgo.polled_eq ▸ hn) (hgo.script ▸ hs)

theorem Stage.of_goesOn (h : Stage read k ls cu mem l) (hgo : GoesOn read k read' k') :
    Stage read' k' ls cu mem l := by
  cases h with
  | poll hn =>
    rw [hgo.cut, hgo.found_eq]
    exact .poll (hgo.polled_eq ▸ hn)
  | finish =>
    rw [hgo.whole, hgo.polled_eq]
    exact .finish

/-- What happens in the first poll of a claim at a slot of the kernel's. -/
theorem Lawful.first {s : PollStep} {rest : List PollStep} (h : Lawful H slots r.claim k ls)
    (hu : ¬ (r.release k).1.cursor.isUser (r.release k).2.memory = true)
    (hpolled : 0 < polled r.claim k) (hs : k.script = s :: rest)
    (hm : (r.release k).2.mapping.isSome) :
    Handovers H slots (r.release k).2.memory (ls 0)
      ((r.release k).2.wait (r.release k).1.cursor.timeout).2.memory (ls 1) := by
  have hfirst := h 0 s hpolled (by rw [hs]; rfl)
  rw [(Reader.cut_zero hu).2] at hfirst
  rw [Kernel.memory_wait_cons hm ((Reader.script_release r k).trans hs)]
  exact hfirst

variable (hu : ¬ (r.release k).1.cursor.isUser (r.release k).2.memory = true)
  (hv : Reader.verdict ((r.release k).2.wait (r.release k).1.cursor.timeout).1 = none)
include hu hv

/-- After the first poll a claim goes on with the ledgers from the next one on. -/
theorem Lawful.of_retry (h : Lawful H slots r.claim k ls) :
    Lawful H slots (r.release k).1.countPoll.claim
      ((r.release k).2.wait (r.release k).1.cursor.timeout).2 fun n => ls (n + 1) := by
  intro n s hn hs
  obtain ⟨s₀, rest, hscript⟩ := Reader.script_of_retry hv
  rw [Kernel.script_wait, Reader.script_release, hscript, List.tail_cons] at hs
  have hpolled := Reader.polled_of_retry hu hv
  have hstep := h (n + 1) s (by omega) (by rw [hscript]; exact hs)
  unfold found at hstep ⊢
  rw [Reader.cut_of_retry hu hv] at hstep
  exact hstep

theorem Stage.of_retry (h : Stage r.claim k ls cu mem l) :
    (cu = (r.release k).1.cursor ∧ mem = (r.release k).2.memory ∧ l = ls 0) ∨
      Stage (r.release k).1.countPoll.claim
        ((r.release k).2.wait (r.release k).1.cursor.timeout).2 (fun n => ls (n + 1)) cu mem l := by
  have hpolled := Reader.polled_of_retry hu hv
  cases h with
  | @poll n hn =>
    cases n with
    | zero => exact Or.inl ⟨(Reader.cut_zero hu).1, (Reader.cut_zero hu).2, rfl⟩
    | succ n =>
      refine Or.inr ?_
      unfold found
      rw [Reader.cut_of_retry hu hv]
      exact .poll (by omega)
  | finish =>
    refine Or.inr ?_
    rw [hpolled, Reader.claim_of_retry hu hv]
    exact .finish

end Transport

/-! ## Runs -/

/-- What kernel and reader can come to on a ring that is new, with a cursor like `c`: handovers
between the reads, and reads whose polls are lawful and end as they will. -/
inductive Run (H : Handover) (c : Cursor) : Reader → Region → Ledger → Prop where
  | start : Run H c { cursor := c.start } (.zeroed c.geometry.mappingSize) {}
  | handover {r : Reader} {mem mem' : Region} {l : Ledger} {fs : List Frame} :
    Run H c r mem l → H (l.handed.length % c.geometry.slots c.version) mem mem' fs →
      Run H c r mem' (l.hand fs)
  | read {r : Reader} {mem : Region} {k : Kernel} {ls : Nat → Ledger} :
    Run H c r mem (ls 0) → k.mapping = some mem →
      Lawful H (c.geometry.slots c.version) r.next k ls →
      Run H c (r.next k).2.1 (r.next k).2.2.memory ((ls (polled r.next k)).note (r.next k).1)

/-- Any point of a run: between two reads, or at a stage of a read. -/
inductive Moment (H : Handover) (c : Cursor) : Cursor → Region → Ledger → Prop where
  | between {r : Reader} {mem : Region} {l : Ledger} :
    Run H c r mem l → Moment H c r.cursor mem l
  | within {r : Reader} {cu : Cursor} {mem mem' : Region} {k : Kernel} {ls : Nat → Ledger}
    {l' : Ledger} :
    Run H c r mem (ls 0) → k.mapping = some mem →
      Lawful H (c.geometry.slots c.version) r.next k ls → Stage r.next k ls cu mem' l' →
      Moment H c cu mem' l'

theorem run_of_first_poll {H : Handover} {c : Cursor} {k : Kernel} {s : PollStep} {fs : List Frame}
    (hm : k.mapping = some (.zeroed c.geometry.mappingSize)) (hs : k.script = [s])
    (hpolled : polled (Reader.next { cursor := c.start }) k = 1)
    (hfound : found (Reader.next { cursor := c.start }) k 0 = k.memory)
    (hh : H 0 k.memory (k.memory.stored s.writes) fs) :
    Run H c (Reader.next { cursor := c.start } k).2.1
      (Reader.next { cursor := c.start } k).2.2.memory
      ((Ledger.hand {} fs).note (Reader.next { cursor := c.start } k).1) := by
  let ls : Nat → Ledger := fun n => if n = 0 then {} else Ledger.hand {} fs
  have hlaw : Lawful H (c.geometry.slots c.version) (Reader.next { cursor := c.start }) k ls := by
    intro n s' hn hs'
    rw [hpolled, Nat.lt_one_iff] at hn
    subst hn
    rw [hs] at hs'
    cases hs'
    rw [hfound]
    refine .next ?_ (.none ..)
    rw [show (ls 0).handed.length = 0 from rfl, Nat.zero_mod]
    exact hh
  have hrun := Run.read .start hm hlaw
  rw [hpolled] at hrun
  exact hrun

/-! ## Keeping the balance -/

/-- Handovers fill slots with packets; the reader finds those there that `seen` leaves of them. -/
structure Feeds (H : Handover) (c : Cursor) (seen : List Frame → List Frame) : Prop where
  fills : ∀ {i : Nat} {mem mem' : Region} {fs : List Frame}, H i mem mem' fs → Fills c i mem mem'
  owned : ∀ {i : Nat} {mem mem' : Region} {fs : List Frame}, H i mem mem' fs → i < c.round →
    mem.size = c.geometry.mappingSize → Owned c i mem' (seen fs)

/-- The ring is in balance. The slots given back are those whose packets are in `before`, up to
slots without any. -/
def Drained (seen : List Frame → List Frame) (before : List Frame) (c : Cursor) (mem : Region)
    (l : Ledger) : Prop :=
  ∃ given, Balanced given c mem (l.handed.map seen) l.returned ∧
    ((l.handed.map seen).take given).flatten <+: before ∧
    ∀ n fs, given ≤ n → (l.handed.map seen)[n]? = some fs →
      ((l.handed.map seen).take (n + 1)).flatten <+: before → fs = []

theorem Cursor.Aligned.of_start {c c' : Cursor} (h : c.Aligned) (hs : c'.start = c.start) :
    c'.Aligned := by
  have hstart : c.start.Aligned := ⟨h.slots, h.room, h.size⟩
  rw [← hs] at hstart
  exact ⟨hstart.slots, hstart.room, hstart.size⟩

theorem Fills.of_start {c c' : Cursor} {i : Nat} {mem mem' : Region} (h : Fills c i mem mem')
    (hs : c'.start = c.start) : Fills c' i mem mem' := by
  have hstart : Fills c.start i mem mem' := ⟨h.kernel, h.size, h.outside, h.user⟩
  rw [← hs] at hstart
  exact ⟨hstart.kernel, hstart.size, hstart.outside, hstart.user⟩

theorem Feeds.of_start {H : Handover} {c c' : Cursor} {seen : List Frame → List Frame}
    (h : Feeds H c seen) (hs : c'.start = c.start) : Feeds H c' seen := by
  have hg : c'.start.geometry = c.start.geometry := congrArg Cursor.geometry hs
  change c'.geometry = c.geometry at hg
  refine ⟨fun hh => (h.fills hh).of_start hs, fun hh hi hm => ?_⟩
  rw [Cursor.round_of_start hs] at hi
  rw [hg] at hm
  exact (h.owned hh hi hm).of_start hs

section Steps
variable {H : Handover} {c : Cursor} {seen : List Frame → List Frame} {given : Nat}
  {mem mem' : Region} {l l' : Ledger} {before fs : List Frame}

theorem Balanced.hand (h : Balanced given c mem (l.handed.map seen) l.returned) (ha : c.Aligned)
    (hf : Feeds H c seen) (hh : H (l.handed.length % c.round) mem mem' fs) :
    Balanced given c mem' ((l.hand fs).handed.map seen) (l.hand fs).returned := by
  have hround : 0 < c.round := ha.round_eq ▸ ha.slots
  have hfill := hf.fills hh
  have howned := hf.owned hh (Nat.mod_lt _ hround) h.size
  rw [← List.length_map seen] at hfill howned
  unfold Ledger.hand
  rw [List.map_append]
  exact h.fill ha hfill howned

theorem Handovers.balanced (hh : Handovers H c.round mem l mem' l') (ha : c.Aligned)
    (hf : Feeds H c seen) (h : Balanced given c mem (l.handed.map seen) l.returned) :
    Balanced given c mem' (l'.handed.map seen) l'.returned ∧ l'.returned = l.returned := by
  induction hh with
  | none => exact ⟨h, rfl⟩
  | next hh _ ih => exact ih (h.hand ha hf hh)

theorem length_flatten_take_le (due : List (List Frame)) {m n : Nat} (h : m ≤ n) :
    (due.take m).flatten.length ≤ (due.take n).flatten.length :=
  (List.Sublist.flatten (List.take_prefix_take_left h).sublist).length_le

theorem Balanced.drained_of_eq
    (h : Balanced given c mem (l.handed.map seen) l.returned)
    (hback : ((l.handed.map seen).take given).flatten = before) : Drained seen before c mem l := by
  refine ⟨given, h, hback ▸ List.prefix_rfl, fun n fs hle hn hpre => ?_⟩
  obtain ⟨hlt, hget⟩ := List.getElem?_eq_some_iff.1 hn
  have hmono := length_flatten_take_le (l.handed.map seen) hle
  have hlen := hpre.length_le
  rw [List.take_succ_eq_append_getElem hlt, hget, List.flatten_append, List.flatten_singleton,
    List.length_append, ← hback] at hlen
  exact List.eq_nil_of_length_eq_zero (by omega)

theorem Balanced.flatten_take {due : List (List Frame)} {returned : List Frame}
    (h : Balanced given c mem due returned) (hp : c.pendingRelease = false)
    (hph : c.phase ≠ .haveHeader) : (due.take given).flatten = returned := by
  have hsplit := h.split
  rw [Cursor.taken_of_not_pending hp, Cursor.rest_of_phase_ne hph, List.append_nil] at hsplit
  exact hsplit.symm

end Steps

/-! ## A read -/

namespace Reader

variable {H : Handover} {c : Cursor} {seen : List Frame → List Frame} {given : Nat} {r : Reader}
  {k : Kernel} {due : List (List Frame)} {returned : List Frame}

theorem start_release (r : Reader) (k : Kernel) :
    (r.release k).1.cursor.start = r.cursor.start := by
  unfold release
  split <;> rfl

theorem phase_release (r : Reader) (k : Kernel) :
    (r.release k).1.cursor.phase = r.cursor.phase := by
  unfold release
  split <;> rfl

theorem balanced_release (h : Balanced given r.cursor k.memory due returned)
    (ha : r.cursor.Aligned) (hph : r.cursor.phase ≠ .haveHeader) :
    ∃ given', Balanced given' (r.release k).1.cursor (r.release k).2.memory due returned := by
  cases hp : r.cursor.pendingRelease with
  | true =>
    refine ⟨given + 1, ?_⟩
    rw [release_of_pending hp, Kernel.memory_release]
    exact h.release ha hp hph
  | false =>
    refine ⟨given, ?_⟩
    rw [release_of_not_pending hp]
    exact h

/-- Every stage of a read is drained of what was returned before the read. -/
def Leaves (seen : List Frame → List Frame) (read : Reading) (k : Kernel) (ls : Nat → Ledger) :
    Prop :=
  ∀ cu mem l, Stage read k ls cu mem l → Drained seen (ls 0).returned cu mem l

theorem claim_drained (ha : c.Aligned) (hf : Feeds H c seen) (r : Reader) (k : Kernel) :
    ∀ (ls : Nat → Ledger) (given : Nat), r.cursor.start = c.start → k.mapping.isSome →
      r.cursor.phase ≠ .haveHeader →
      Balanced given r.cursor k.memory ((ls 0).handed.map seen) (ls 0).returned →
      Lawful H c.round r.claim k ls → Leaves seen r.claim k ls := by
  induction r, k using claim_induct with
  | packet r k hu hl =>
    intro ls given hs hm hph hb hlaw
    have ha' := ha.of_start hs
    obtain ⟨given', hb'⟩ := balanced_release hb ha' hph
    have hp := pendingRelease_release r k
    have htake := hb'.take_packet (ha'.of_start (start_release r k)) hp hu hl
    have hback := hb'.flatten_take hp (phase_release r k ▸ hph)
    have hpolled := polled_of_packet hu hl
    rw [← Cursor.frame_of_start (Cursor.start_take ..)] at htake
    intro cu mem l hstage
    cases hstage with
    | poll hn =>
      rw [hpolled] at hn
      exact absurd hn (Nat.not_lt_zero _)
    | finish =>
      rw [hpolled, claim_of_packet hu hl]
      exact Balanced.drained_of_eq htake hback
  | empty r k hu hl ih =>
    intro ls given hs hm hph hb hlaw cu mem l hstage
    have ha' := ha.of_start hs
    have hgo := goesOn_of_empty hu hl
    obtain ⟨given', hb'⟩ := balanced_release hb ha' hph
    have htake :=
      hb'.take_empty (ha'.of_start (start_release r k)) (pendingRelease_release r k) hu hl
    have hs' : ((r.release k).1.cursor.take (r.release k).2.memory).start = c.start :=
      ((Cursor.start_take ..).trans (start_release r k)).trans hs
    have hph' : ((r.release k).1.cursor.take (r.release k).2.memory).phase ≠ .haveHeader :=
      Cursor.phase_take_of_length_zero hl
    exact ih ls given' hs' (by rw [mapped_release]; exact hm) hph' htake (hlaw.of_goesOn hgo) cu
      mem l (hstage.of_goesOn hgo)
  | retry r k hu hv ih =>
    intro ls given hs hm hph hb hlaw cu mem l hstage
    obtain ⟨given', hb'⟩ := balanced_release hb (ha.of_start hs) hph
    have hph' : (r.release k).1.cursor.phase ≠ .haveHeader := phase_release r k ▸ hph
    have hs' := (start_release r k).trans hs
    obtain ⟨s, rest, hscript⟩ := script_of_retry hv
    have hmap : (r.release k).2.mapping.isSome := by rw [mapped_release]; exact hm
    -- The first poll, which the claim meets with its slot released.
    have hfirst := hlaw.first hu (polled_of_retry hu hv ▸ Nat.succ_pos _) hscript hmap
    rw [← Cursor.round_of_start hs'] at hfirst
    obtain ⟨hb₁, hreturned⟩ := hfirst.balanced (ha.of_start hs') (hf.of_start hs') hb'
    rcases hstage.of_retry hu hv with ⟨rfl, rfl, rfl⟩ | hstage
    · exact hb'.drained_of_eq (hb'.flatten_take (pendingRelease_release r k) hph')
    · rw [← hreturned]
      exact ih (fun n => ls (n + 1)) given' hs' (by rw [Kernel.mapped_wait]; exact hmap) hph' hb₁
        (hlaw.of_retry hu hv) cu mem l hstage
  | stop r k e hu hv =>
    intro ls given hs hm hph hb hlaw cu mem l hstage
    obtain ⟨given', hb'⟩ := balanced_release hb (ha.of_start hs) hph
    have hp := pendingRelease_release r k
    have hph' : (r.release k).1.cursor.phase ≠ .haveHeader := phase_release r k ▸ hph
    have hs' := (start_release r k).trans hs
    have hback := hb'.flatten_take hp hph'
    have hmap : (r.release k).2.mapping.isSome := by rw [mapped_release]; exact hm
    have hpolled := polled_of_stop hu hv
    cases hstage with
    | @poll n hn =>
      have hz : n = 0 := by
        rw [hpolled, List.length_tail] at hn
        omega
      rw [hz, (cut_zero hu).1, (cut_zero hu).2]
      exact hb'.drained_of_eq hback
    | finish =>
      rw [claim_of_stop hu hv]
      cases hscript : k.script with
      | nil =>
        rw [hscript] at hpolled
        rw [hpolled, Kernel.memory_wait_nil ((script_release r k).trans hscript)]
        exact Balanced.drained_of_eq hb' hback
      | cons s rest =>
        rw [hscript, List.tail_cons, List.length_cons, Nat.add_sub_cancel_left] at hpolled
        have hfirst := hlaw.first hu (hpolled ▸ Nat.one_pos) hscript hmap
        rw [← Cursor.round_of_start hs'] at hfirst
        obtain ⟨hb₁, hreturned⟩ := hfirst.balanced (ha.of_start hs') (hf.of_start hs') hb'
        rw [hpolled]
        exact Balanced.drained_of_eq hb₁ ((hb₁.flatten_take hp hph').trans hreturned)

/-- A read keeps the balance, and gives back what was returned before. -/
theorem next_drained {ls : Nat → Ledger} (ha : c.Aligned) (hf : Feeds H c seen)
    (hs : r.cursor.start = c.start) (hm : k.mapping.isSome)
    (hb : Balanced given r.cursor k.memory ((ls 0).handed.map seen) (ls 0).returned)
    (hlaw : Lawful H c.round r.next k ls) : Leaves seen r.next k ls := by
  intro cu mem l hstage
  cases hw : (r.cursor.walk k.memory).2 with
  | some hd =>
    have hwalk := hb.walk_some hw
    rw [← Cursor.frame_of_start (Cursor.start_walk ..)] at hwalk
    have hpolled : polled r.next k = 0 := polled_eq_zero (by rw [next_of_walk_some hw]; rfl)
    have hleft := hb.split
    rw [Cursor.rest_of_walk_some hw] at hleft
    cases hstage with
    | poll hn =>
      rw [hpolled] at hn
      exact absurd hn (Nat.not_lt_zero _)
    | finish =>
      rw [hpolled, next_of_walk_some hw]
      refine ⟨given, hwalk, hb.drained, fun n fs hle hn hpre => ?_⟩
      -- The block that the reader is in has more packets, so it is not in what was returned.
      have hlen := congrArg List.length hleft
      have htaken : r.cursor.taken given ≤ n + 1 := by
        unfold Cursor.taken
        split <;> omega
      have hmono := length_flatten_take_le ((ls 0).handed.map seen) htaken
      have hshort := hpre.length_le
      rw [List.length_append, List.length_cons] at hlen
      change (((ls 0).handed.map seen).take (n + 1)).flatten.length ≤ _ at hshort
      omega
  | none =>
    have hgo := goesOn_of_walk_none hw
    exact claim_drained ha hf { r with cursor := (r.cursor.walk k.memory).1 } k ls given
      ((Cursor.start_walk ..).trans hs) hm (Cursor.rest_of_walk_none hw).2 (hb.walk_none hw)
      (hlaw.of_goesOn hgo) cu mem l (hstage.of_goesOn hgo)

theorem start_claim (r : Reader) (k : Kernel) : (r.claim k).2.1.cursor.start = r.cursor.start := by
  induction r, k using claim_induct with
  | packet r k hu hl =>
    rw [claim_of_packet hu hl]
    exact (Cursor.start_take ..).trans (start_release r k)
  | empty r k hu hl ih =>
    rw [claim_of_empty hu hl, ih]
    exact (Cursor.start_take ..).trans (start_release r k)
  | retry r k hu hv ih =>
    rw [claim_of_retry hu hv, ih]
    exact start_release r k
  | stop r k e hu hv =>
    rw [claim_of_stop hu hv]
    exact start_release r k

theorem start_next (r : Reader) (k : Kernel) : (r.next k).2.1.cursor.start = r.cursor.start := by
  cases hw : (r.cursor.walk k.memory).2 with
  | some hd =>
    rw [next_of_walk_some hw]
    exact Cursor.start_walk ..
  | none =>
    rw [next_of_walk_none hw, start_claim]
    exact Cursor.start_walk ..

end Reader

/-! ## A run -/

section Runs
variable {H : Handover} {c cu : Cursor} {seen : List Frame → List Frame} {r : Reader} {k : Kernel}
  {mem : Region} {l : Ledger} {ls : Nat → Ledger}

theorem Kernel.memory_of_mapping (h : k.mapping = some mem) : k.memory = mem := by
  rw [memory, h, Option.getD_some]

theorem Run.balanced (run : Run H c r mem l) (ha : c.Aligned) (hf : Feeds H c seen) :
    r.cursor.start = c.start ∧
      ∃ given, Balanced given r.cursor mem (l.handed.map seen) l.returned := by
  induction run with
  | start => exact ⟨rfl, 0, balanced_start c⟩
  | handover _ hh ih =>
    obtain ⟨hs, given, hb⟩ := ih
    rw [← ha.round_eq, ← Cursor.round_of_start hs] at hh
    exact ⟨hs, given, hb.hand (ha.of_start hs) (hf.of_start hs) hh⟩
  | @read r mem k ls _ hm hlaw ih =>
    obtain ⟨hs, given, hb⟩ := ih
    rw [← ha.round_eq] at hlaw
    rw [← Kernel.memory_of_mapping hm] at hb
    obtain ⟨given', hb', -⟩ :=
      Reader.next_drained ha hf hs (by rw [hm]; rfl) hb hlaw _ _ _ .finish
    exact ⟨(Reader.start_next r k).trans hs, given', hb'⟩

theorem Run.leaves (run : Run H c r mem (ls 0)) (ha : c.Aligned) (hf : Feeds H c seen)
    (hm : k.mapping = some mem) (hlaw : Lawful H (c.geometry.slots c.version) r.next k ls) :
    Reader.Leaves seen r.next k ls := by
  obtain ⟨hs, given, hb⟩ := run.balanced ha hf
  rw [← ha.round_eq] at hlaw
  rw [← Kernel.memory_of_mapping hm] at hb
  exact Reader.next_drained ha hf hs (by rw [hm]; rfl) hb hlaw

theorem Run.start_of_stage {mem' : Region} (run : Run H c r mem (ls 0)) (ha : c.Aligned)
    (hf : Feeds H c seen) (hstage : Stage r.next k ls cu mem' l) : cu.start = c.start := by
  have hs := (run.balanced ha hf).1
  cases hstage with
  | poll => exact (Reader.start_next r _).trans hs
  | finish => exact (Reader.start_next r k).trans hs

/-- At any point of a run, what was handed over is what was returned, then what is unread. -/
theorem Moment.unread_eq (moment : Moment H c cu mem l) (ha : c.Aligned) (hf : Feeds H c seen) :
    l.returned ++ cu.unread mem = (l.handed.map seen).flatten := by
  cases moment with
  | between run =>
    obtain ⟨-, given, hb⟩ := run.balanced ha hf
    exact hb.unread_eq
  | within run hm hlaw hstage =>
    obtain ⟨given, hb, -⟩ := run.leaves ha hf hm hlaw _ _ _ hstage
    exact hb.unread_eq

/-- A slot with packets is the kernel's again just when they, and those of the slots before it, were
returned. -/
theorem Drained.back_iff {before fs : List Frame} {n : Nat} (h : Drained seen before cu mem l)
    (hn : (l.handed.map seen)[n]? = some fs) (hfs : fs ≠ []) :
    (n + cu.round < l.handed.length ∨
        isUserSlot mem cu.version (cu.offset (n % cu.round)) = false) ↔
      ((l.handed.map seen).take (n + 1)).flatten <+: before := by
  obtain ⟨given, hb, hgiven, hrest⟩ := h
  rw [← List.length_map seen]
  constructor
  · intro hback
    have hlt := hb.lt_given (List.getElem?_eq_some_iff.1 hn).1 hback
    have htake : (l.handed.map seen).take (n + 1) <+: (l.handed.map seen).take given :=
      List.take_prefix_take_left hlt
    obtain ⟨tail, htail⟩ := htake
    rw [← htail, List.flatten_append] at hgiven
    exact (List.prefix_append ..).trans hgiven
  · intro hpre
    refine hb.back_of_lt (Nat.lt_of_not_le fun hle => ?_)
    exact hfs (hrest n fs hle hn hpre)

end Runs

end PacketRing
