import Mathlib
import PacketRing.Capture.Run
import PacketRing.Proofs.Session
import PacketRing.Proofs.Tallies

/-!
# Runs of the capture loop

What a run of the loop reads, why it ends, and what it counts.

* `Handle.inspect` : what the loop learns of the next packet, by either way of reading;
* `Ending` : why a run ends;
* `Handle.Loops` : a run of the loop as the packets that it reads, up to its end;
* `Handle.exists_loops`, `Handle.run_of_loops` : once a waiting reader is bound to be woken, there
  is such a run, and it is what the loop does;
* `Handle.capture_counts_reads` : the counters gain what the run read;
* `Session.act_capture_of_loops` : what the run of a loop makes of a session.
-/

namespace PacketRing

/-! ## Reads -/

namespace Kernel

variable {k : Kernel}

theorem idle_wait (k : Kernel) (t : Int) : (k.wait t).2.idle = k.idle := by
  have hsettle : ∀ (k : Kernel) (o : PollOutcome), (k.settle o).2.idle = k.idle := by
    intro k o
    cases o <;> simp only [settle]
    split <;> rfl
  have hpoll : (k.poll t).2.idle = k.idle := by
    unfold poll
    dsimp only
    split
    · rfl
    · rw [hsettle]
      split <;> rfl
  unfold wait
  split <;> simp_all

/-- With its script used up, a kernel whose reader is to stop wakes it. -/
theorem wait_of_stopping (hs : k.script = []) (hi : k.idle = .stopping) (t : Int) :
    (k.wait t).1 = .ok .woken := by
  unfold wait poll log
  simp only [hs, hi]
  cases k.woken <;> rfl

end Kernel

namespace Reader

variable {r : Reader} {k : Kernel}

theorem idle_release (r : Reader) (k : Kernel) : (r.release k).2.idle = k.idle := by
  unfold release
  split <;> rfl

theorem idle_claim (r : Reader) (k : Kernel) : (r.claim k).2.2.idle = k.idle := by
  induction r, k using claim_induct with
  | packet r k hu hl =>
    rw [claim_of_packet hu hl]
    exact idle_release r k
  | empty r k hu hl ih =>
    rw [claim_of_empty hu hl, ih, idle_release]
  | retry r k hu hv ih =>
    rw [claim_of_retry hu hv, ih, Kernel.idle_wait, idle_release]
  | stop r k e hu hv =>
    rw [claim_of_stop hu hv]
    exact (Kernel.idle_wait ..).trans (idle_release r k)

theorem idle_next (r : Reader) (k : Kernel) : (r.next k).2.2.idle = k.idle := by
  cases hw : (r.cursor.walk k.memory).2 with
  | some hd =>
    rw [next_of_walk_some hw]
    rfl
  | none => rw [next_of_walk_none hw, idle_claim]

/-- A read that times out has used up entries of the script, if its end wakes the reader. -/
theorem script_claim_lt (hi : k.idle = .stopping) (ht : (r.claim k).1 = .error .pollTimeout) :
    (r.claim k).2.2.script.length < k.script.length := by
  induction r, k using claim_induct with
  | packet r k hu hl =>
    rw [claim_of_packet hu hl] at ht
    cases ht
  | empty r k hu hl ih =>
    rw [claim_of_empty hu hl] at ht ⊢
    rw [← script_release r k]
    exact ih ((idle_release r k).trans hi) ht
  | retry r k hu hv ih =>
    rw [claim_of_retry hu hv] at ht ⊢
    have hidle := (Kernel.idle_wait (r.release k).2 (r.release k).1.cursor.timeout).trans
      ((idle_release r k).trans hi)
    refine (ih hidle ht).trans_le ?_
    rw [Kernel.script_wait, script_release, List.length_tail]
    exact Nat.sub_le ..
  | stop r k e hu hv =>
    rw [claim_of_stop hu hv] at ht ⊢
    cases ht
    dsimp only
    rw [Kernel.script_wait, script_release]
    cases hs : k.script with
    | nil =>
      have hwoken := Kernel.wait_of_stopping ((script_release r k).trans hs)
        ((idle_release r k).trans hi) (r.release k).1.cursor.timeout
      rw [hwoken] at hv
      cases hv
    | cons s rest => exact Nat.lt_succ_self _

theorem script_next_lt (hi : k.idle = .stopping) (ht : (r.next k).1 = .error .pollTimeout) :
    (r.next k).2.2.script.length < k.script.length := by
  cases hw : (r.cursor.walk k.memory).2 with
  | some hd =>
    rw [next_of_walk_some hw] at ht
    cases ht
  | none =>
    rw [next_of_walk_none hw] at ht ⊢
    exact script_claim_lt hi ht

theorem packets_claim (r : Reader) (k : Kernel) :
    (r.claim k).2.1.counts.packets = r.counts.packets + (r.claim k).1.isOk.toNat := by
  induction r, k using claim_induct with
  | packet r k hu hl =>
    rw [claim_of_packet hu hl]
    exact congrArg (·.packets + 1) (counts_release r k)
  | empty r k hu hl ih =>
    rw [claim_of_empty hu hl, ih]
    exact congrArg (·.packets + _) (counts_release r k)
  | retry r k hu hv ih =>
    rw [claim_of_retry hu hv, ih]
    exact congrArg (·.packets + _) (counts_release r k)
  | stop r k e hu hv =>
    rw [claim_of_stop hu hv]
    exact congrArg (·.packets) (counts_release r k)

theorem packets_next (r : Reader) (k : Kernel) :
    (r.next k).2.1.counts.packets = r.counts.packets + (r.next k).1.isOk.toNat := by
  cases hw : (r.cursor.walk k.memory).2 with
  | some hd =>
    rw [next_of_walk_some hw]
    rfl
  | none => rw [next_of_walk_none hw, packets_claim]

end Reader

/-! ## Runs -/

/-- Why a run of the loop ends. -/
inductive Ending where
  /-- The loop found that it is not to go on. -/
  | stopped
  /-- A read found the handle closed. -/
  | closed
  /-- A read failed for good. -/
  | failed (e : CaptureError)
  deriving DecidableEq, Repr

/-- How many failed reads a run counts that ends so. -/
def Ending.errors : Ending → Nat
  | .stopped | .closed => 0
  | .failed _ => 1

namespace Handle

/-- What the loop learns of the next packet, which it copies out of the ring or leaves there. -/
def inspect (h : Handle) (copyOut : Bool) (k : Kernel) :
    Except CaptureError CaptureInfo × Handle × Kernel :=
  if copyOut then
    let (answer, h, k) := h.readPacket k
    (answer.map (·.info), h, k)
  else
    let (answer, h, k) := h.read k
    (answer.map (·.info), h, k)

/-- `Loops copyOut h k infos ending h' k'` : from `h` and `k` the loop reads the packets `infos`
until it ends so, and leaves `h'` and `k'`. It ends at the first of three: it is found that it is
not to go on, or a read is told that the handle is closed, or a read fails otherwise. It goes on
after a packet, and after a timeout. -/
inductive Loops (copyOut : Bool) :
    Handle → Kernel → List CaptureInfo → Ending → Handle → Kernel → Prop where
  | stopped {h k} : k.running = false → Loops copyOut h k [] .stopped h k
  | packet {h k info h' k' infos ending h'' k''} : k.running = true →
      h.inspect copyOut k = (.ok info, h', k') → Loops copyOut h' k' infos ending h'' k'' →
      Loops copyOut h k (info :: infos) ending h'' k''
  | timedOut {h k h' k' infos ending h'' k''} : k.running = true →
      h.inspect copyOut k = (.error .pollTimeout, h', k') →
      Loops copyOut h' k' infos ending h'' k'' → Loops copyOut h k infos ending h'' k''
  | closed {h k h' k'} : k.running = true →
      h.inspect copyOut k = (.error .closed, h', k') → Loops copyOut h k [] .closed h' k'
  | failed {h k e h' k'} : k.running = true → h.inspect copyOut k = (.error e, h', k') →
      e ≠ .pollTimeout → e ≠ .closed → Loops copyOut h k [] (.failed e) h' k'

end Handle

/-- The counters after a run that ends so. -/
def Traffic.conclude (t : Traffic) : Ending → Traffic
  | .stopped | .closed => t
  | .failed _ => t.recordError

namespace Handle

variable {h h' : Handle} {k k' : Kernel} {copyOut : Bool} {info : CaptureInfo}
  {infos : List CaptureInfo} {ending : Ending} {e : CaptureError} {t : Traffic} {wallClock : Int}

/-- Both ways of reading are the same read, and differ in what is told of the packet. -/
theorem inspect_eq (h : Handle) (copyOut : Bool) (k : Kernel) : h.inspect copyOut k =
    ((h.read k).1.map ((h.read k).2.1.counted (h.read k).2.2 copyOut), (h.read k).2) := by
  unfold inspect readPacket
  rcases h.read k with ⟨_ | f, h', k'⟩ <;> cases copyOut <;> rfl

theorem read_of_inspect (hi : h.inspect copyOut k = (.ok info, h', k')) :
    ∃ f, h.read k = (.ok f, h', k') ∧ info = h'.counted k' copyOut f := by
  rw [inspect_eq] at hi
  rcases hread : h.read k with ⟨_ | f, h₁, k₁⟩ <;> rw [hread] at hi <;> cases hi
  exact ⟨f, rfl, rfl⟩

theorem read_of_inspect_error (hi : h.inspect copyOut k = (.error e, h', k')) :
    h.read k = (.error e, h', k') := by
  rw [inspect_eq] at hi
  rcases hread : h.read k with ⟨_ | f, h₁, k₁⟩ <;> rw [hread] at hi <;> cases hi
  rfl

theorem inspect_of_read {f : Frame} (hr : h.read k = (.ok f, h', k')) :
    h.inspect copyOut k = (.ok (h'.counted k' copyOut f), h', k') := by
  rw [inspect_eq, hr]
  rfl

theorem inspect_of_read_error (hr : h.read k = (.error e, h', k')) :
    h.inspect copyOut k = (.error e, h', k') := by
  rw [inspect_eq, hr]
  rfl

theorem idle_read (h : Handle) (k : Kernel) : (h.read k).2.2.idle = k.idle := by
  unfold read
  split
  · rfl
  · exact h.reader.idle_next k

theorem script_read_lt (hi : k.idle = .stopping) (ht : (h.read k).1 = .error .pollTimeout) :
    (h.read k).2.2.script.length < k.script.length := by
  unfold read at ht ⊢
  split at ht
  · cases ht
  · next hc =>
    rw [if_neg hc]
    exact Reader.script_next_lt hi ht

theorem packets_read (h : Handle) (k : Kernel) : (h.read k).2.1.reader.counts.packets =
    h.reader.counts.packets + (h.read k).1.isOk.toNat := by
  unfold read
  split
  · rfl
  · exact h.reader.packets_next k

/-! ### Turns of the loop -/

theorem run_of_stopped (hr : k.running = false) : h.run t wallClock copyOut k = (h, t, k) := by
  rw [run, hr]
  rfl

/-- A turn of the loop that reads. -/
theorem run_of_running (hr : k.running = true) : h.run t wallClock copyOut k =
    match (h.read k).1 with
    | .ok f =>
      (h.read k).2.1.run
        (t.record wallClock ((h.read k).2.1.counted (h.read k).2.2 copyOut f)) wallClock copyOut
        (h.read k).2.2
    | .error .pollTimeout =>
      if (h.read k).2.2.script.length < k.script.length then
        (h.read k).2.1.run t wallClock copyOut (h.read k).2.2
      else ((h.read k).2.1, t, (h.read k).2.2)
    | .error .closed => ((h.read k).2.1, t, (h.read k).2.2)
    | .error _ => ((h.read k).2.1, t.recordError, (h.read k).2.2) := by
  rw [run, hr, Bool.not_true, if_neg Bool.false_ne_true]
  dsimp only
  split
  · next hread => rw [hread]
  · next hread => rw [hread]
  · next hread => rw [hread]
  · next htimeout hclosed hread =>
    rw [hread]
    split
    · next he => cases he
    · next he => exact (htimeout (Except.error.inj he)).elim
    · next he => exact (hclosed (Except.error.inj he)).elim
    · rfl

theorem run_of_packet (hr : k.running = true) (hi : h.inspect copyOut k = (.ok info, h', k')) :
    h.run t wallClock copyOut k = h'.run (t.record wallClock info) wallClock copyOut k' := by
  obtain ⟨f, hread, rfl⟩ := read_of_inspect hi
  rw [run_of_running hr, hread]

theorem run_of_timedOut (hr : k.running = true) (hidle : k.idle = .stopping)
    (hi : h.inspect copyOut k = (.error .pollTimeout, h', k')) :
    h.run t wallClock copyOut k = h'.run t wallClock copyOut k' := by
  have hread := read_of_inspect_error hi
  have hlt := script_read_lt (h := h) hidle (by rw [hread])
  rw [run_of_running hr]
  rw [hread] at hlt ⊢
  exact if_pos hlt

theorem run_of_refused (hr : k.running = true)
    (hi : h.inspect copyOut k = (.error .closed, h', k')) :
    h.run t wallClock copyOut k = (h', t, k') := by
  rw [run_of_running hr, read_of_inspect_error hi]

theorem run_of_failed (hr : k.running = true) (hi : h.inspect copyOut k = (.error e, h', k'))
    (htimeout : e ≠ .pollTimeout) (hclosed : e ≠ .closed) :
    h.run t wallClock copyOut k = (h', t.recordError, k') := by
  rw [run_of_running hr, read_of_inspect_error hi]
  split
  · next he => cases he
  · next he => exact absurd (Except.error.inj he) htimeout
  · next he => exact absurd (Except.error.inj he) hclosed
  · rfl

theorem idle_inspect (hidle : k.idle = .stopping) {x : Except CaptureError CaptureInfo}
    (hi : h.inspect copyOut k = (x, h', k')) : k'.idle = .stopping := by
  rw [inspect_eq] at hi
  rw [← hidle, ← idle_read h k, (Prod.mk.inj hi).2]

/-! ### Whole runs -/

/-- If the end of the script wakes the reader, the loop comes to an end. -/
theorem exists_loops (h : Handle) (copyOut : Bool) (k : Kernel) (hidle : k.idle = .stopping) :
    ∃ infos ending h' k', Loops copyOut h k infos ending h' k' := by
  cases hr : k.running with
  | false => exact ⟨[], .stopped, h, k, .stopped hr⟩
  | true =>
    rcases hread : h.read k with ⟨e | f, h', k'⟩
    · by_cases htimeout : e = .pollTimeout
      · subst htimeout
        have hlt : k'.script.length < k.script.length := by
          have hlt := script_read_lt (h := h) hidle (by rw [hread])
          rwa [hread] at hlt
        have hi : h.inspect copyOut k = _ := inspect_of_read_error hread
        obtain ⟨infos, ending, h'', k'', hloops⟩ :=
          exists_loops h' copyOut k' (idle_inspect hidle hi)
        exact ⟨infos, ending, h'', k'', .timedOut hr hi hloops⟩
      · have hi : h.inspect copyOut k = _ := inspect_of_read_error hread
        by_cases hclosed : e = .closed
        · subst hclosed
          exact ⟨[], .closed, h', k', .closed hr hi⟩
        · exact ⟨[], .failed e, h', k', .failed hr hi htimeout hclosed⟩
    · have hlt : Reader.WorkLt (h'.reader.work k') (h.reader.work k) := by
        have hlt := read_ok_lt h k (f := f) (by rw [hread])
        rwa [hread] at hlt
      have hi : h.inspect copyOut k = _ := inspect_of_read hread
      obtain ⟨infos, ending, h'', k'', hloops⟩ :=
        exists_loops h' copyOut k' (idle_inspect hidle hi)
      exact ⟨_ :: infos, ending, h'', k'', .packet hr hi hloops⟩
termination_by h.reader.work k
decreasing_by
  · exact Prod.Lex.left _ _ hlt
  · exact hlt

/-- What the loop does is count the packets of its run, and at the end of it perhaps an error. -/
theorem run_of_loops (hl : Loops copyOut h k infos ending h' k') (hidle : k.idle = .stopping)
    (t : Traffic) (wallClock : Int) : h.run t wallClock copyOut k =
      (h', (t.recordAll wallClock infos).conclude ending, k') := by
  induction hl generalizing t with
  | stopped hr => exact run_of_stopped hr
  | packet hr hi _ ih => exact (run_of_packet hr hi).trans (ih (idle_inspect hidle hi) _)
  | timedOut hr hi _ ih =>
    exact (run_of_timedOut hr hidle hi).trans (ih (idle_inspect hidle hi) t)
  | closed hr hi => exact run_of_refused hr hi
  | failed hr hi htimeout hclosed => exact run_of_failed hr hi htimeout hclosed

/-- The handle counts the packets that the run reads. -/
theorem packets_of_loops (hl : Loops copyOut h k infos ending h' k') :
    h'.reader.counts.packets = h.reader.counts.packets + infos.length := by
  have hcounts : ∀ {h h' : Handle} {k k' : Kernel} {x},
      h.inspect copyOut k = (x, h', k') →
        h'.reader.counts.packets = h.reader.counts.packets + x.isOk.toNat := by
    intro h h' k k' x hi
    rw [inspect_eq] at hi
    obtain ⟨rfl, hend⟩ := Prod.mk.inj hi
    have hread := packets_read h k
    rw [hend] at hread
    rw [hread]
    cases (h.read k).1 <;> rfl
  induction hl with
  | stopped => rfl
  | packet _ hi _ ih =>
    rw [ih, hcounts hi, List.length_cons, Nat.add_comm _ 1, Nat.add_assoc]
    rfl
  | timedOut _ hi _ ih => exact ih.trans (congrArg (· + _) (hcounts hi))
  | closed _ hi | failed _ hi => exact hcounts hi

theorem capture_of_loops {running : Bool}
    (hl : Loops copyOut h { k with running, idle := .stopping } infos ending h' k')
    (t : Traffic) (wallClock : Int) : h.capture t wallClock copyOut running k =
      (h', (t.recordAll wallClock infos).conclude ending, { k' with idle := .quiet }) := by
  unfold capture
  rw [run_of_loops hl rfl]

end Handle

theorem Traffic.Gains.conclude {t t' : Traffic} {infos : List CaptureInfo}
    (h : t.Gains t' infos 0) (ending : Ending) :
    t.Gains (t'.conclude ending) infos ending.errors := by
  cases ending with
  | stopped | closed => exact h
  | failed e =>
    exact ⟨h.totalPackets, h.totalBytes, h.capturedBytes, congrArg (· + 1) h.readErrors,
      h.interfaces, h.vlans, h.mem_interfaces, h.mem_vlans⟩

/-- **The capture loop accounts for exactly what it read.** Whatever the handle, the counters and
the kernel are at its start, there is a run of the loop that comes to an end; what the handle counts
itself grows by the number of its packets, and the counters grow by the sums over its packets, each
counter by those that belong there, and by an error just if the run ends with a read that failed. -/
theorem Handle.capture_counts_reads (h : Handle) (t : Traffic) (wallClock : Int)
    (copyOut running : Bool) (k : Kernel) :
    let after := h.capture t wallClock copyOut running k
    ∃ infos ending k',
      h.Loops copyOut { k with running, idle := .stopping } infos ending after.1 k' ∧
      after.2.2 = { k' with idle := .quiet } ∧
      t.Gains after.2.1 infos ending.errors ∧
      after.1.reader.counts.packets = h.reader.counts.packets + infos.length := by
  obtain ⟨infos, ending, h', k', hl⟩ :=
    h.exists_loops copyOut { k with running, idle := .stopping } rfl
  dsimp only
  rw [capture_of_loops hl]
  exact ⟨infos, ending, k', hl, rfl, (t.gains_recordAll wallClock infos).conclude ending,
    packets_of_loops hl⟩

/-! ## In a session -/

namespace Session

variable {s : Session} {w : Surroundings} {copyOut running : Bool} {infos : List CaptureInfo}
  {ending : Ending} {h' : Handle} {k' : Kernel}

theorem settled_traffic (s : Session) (traffic : Traffic) :
    { s with traffic }.settled = { s.settled with traffic } := by
  unfold settled
  split <;> rfl

/-- What the run of a loop makes of a session. -/
theorem act_capture_of_loops
    (hl : s.handle.Loops copyOut { s.kernel.within w with running, idle := .stopping } infos ending
      h' k') : (s.act w (.capture copyOut running)).2 =
        { { s with handle := h', kernel := { k' with idle := .quiet } }.settled with
          traffic := (s.traffic.recordAll w.wallClock infos).conclude ending } := by
  unfold act perform
  dsimp only
  rw [Handle.capture_of_loops hl, ← settled_traffic]

end Session

end PacketRing
