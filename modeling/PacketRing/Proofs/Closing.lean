import Mathlib
import PacketRing.Proofs.Session

/-!
# Closing

A close is final, and gives back once what the open acquired, whoever closes the handle and in
whatever order.

* `Act.refusal?` : what a closed handle answers;
* `Effect.of_closed`, `Session.frozen_after` : nothing changes about a handle that is closed;
* `Session.closed_of_blocked` : a read that waits ends with the close that wakes it;
* `Session.closing_is_final` : the law of closing.
-/

namespace PacketRing

/-- What is answered to an act that a closed handle refuses: that it is closed, and to a read into a
buffer the buffer as it was. -/
def Act.refusal? : Act → Option Answer
  | .read => some (.frame (.error .closed))
  | .readPacket => some (.packet (.error .closed))
  | .readInto buffer => some (.filled (.error .closed) buffer)
  | .send _ | .attachFilter _ | .attachCompiled _ | .joinFanout .. => some (.done (.error .closed))
  | .socketStats => some (.totals (.error .closed))
  | _ => none

variable {s s' : Session} {w : Surroundings} {a : Act} {x : Answer}

theorem Effect.of_closed (he : Effect s s') (hc : s.handle.closed = true) :
    ∃ service running idle, s' = { s with service, kernel := { s.kernel with running, idle } } := by
  have hopen (h : s.handle.closed = false) : False := by
    rw [hc] at h
    cases h
  cases he with
  | idle service running idle => exact ⟨service, running, idle, rfl⟩
  | reads _ h | asks h | queries _ _ h | closes h => exact (hopen h).elim

namespace Session

/-- `s'` has the handle, the log and the traffic of `s`. -/
structure Frozen (s s' : Session) : Prop where
  handle : s'.handle = s.handle
  calls : s'.kernel.calls = s.kernel.calls
  traffic : s'.traffic = s.traffic

theorem frozen_act (hc : s.handle.closed = true) (w : Surroundings) (a : Act) :
    s.Frozen (s.act w a).2 := by
  obtain ⟨service, running, idle, he⟩ :=
    (effect_perform { s with kernel := s.kernel.within w } w a).of_closed hc
  unfold act settled
  dsimp only
  rw [he]
  dsimp only
  rw [hc, Bool.not_true, Bool.and_false, if_neg Bool.false_ne_true]
  exact ⟨rfl, rfl, rfl⟩

theorem frozen_after (hc : s.handle.closed = true) (steps : List (Surroundings × Act)) :
    s.Frozen (s.after steps) := by
  induction steps generalizing s with
  | nil => exact ⟨rfl, rfl, rfl⟩
  | cons step steps ih =>
    have hone := frozen_act hc step.1 step.2
    have hrest := ih (hone.handle ▸ hc)
    exact ⟨hrest.handle.trans hone.handle, hrest.calls.trans hone.calls,
      hrest.traffic.trans hone.traffic⟩

theorem answer_of_refusal (hc : s.handle.closed = true) (hx : a.refusal? = some x) :
    (s.act w a).1 = x := by
  have hread := Handle.read_of_closed (k := s.kernel.within w) hc
  unfold act
  cases a with
  | localStats | capture | request | push | stream | close => cases hx
  | read =>
    cases hx
    unfold perform
    rw [hread]
  | readPacket =>
    cases hx
    unfold perform Handle.readPacket
    rw [hread]
  | readInto buffer =>
    cases hx
    unfold perform Handle.readInto
    rw [hread]
  | send | attachCompiled | joinFanout =>
    cases hx
    simp only [perform, Handle.send, Handle.attachCompiled, Handle.joinFanout, Handle.request,
      if_pos hc]
  | attachFilter program =>
    cases hx
    simp only [perform, Handle.attachFilter, if_pos hc]
  | socketStats =>
    cases hx
    unfold perform
    rw [Handle.socketStats_of_closed hc]

theorem closed_close (s : Session) (w : Surroundings) :
    (s.act w .close).2.handle.closed = true := by
  unfold act perform settled Handle.close
  cases hc : s.handle.closed with
  | true => simp [hc]
  | false => simp

/-- A read that finds nothing and waits until somebody closes the handle is told so, and the close
is done. -/
theorem closed_of_blocked {step : PollStep} {rest : List PollStep}
    (hc : s.handle.closed = false) (hfree : s.handle.reader.cursor.Free)
    (hu : ¬ s.handle.reader.cursor.isUser (s.kernel.within w).memory = true)
    (hs : (s.kernel.within w).script = { step with outcome := .block } :: rest) :
    (s.act w .read).1 = .frame (.error .closed) ∧ (s.act w .read).2.handle.closed = true := by
  obtain ⟨hwait, hwoken⟩ := Kernel.wait_of_block hs s.handle.reader.cursor.timeout
  have hnext := Reader.next_of_stop (e := .closed) hfree hu (by rw [hwait]; rfl)
  have hread := Handle.read_of_open (k := s.kernel.within w) hc
  rw [hnext] at hread
  unfold act perform settled
  dsimp only
  rw [hread]
  dsimp only
  rw [hwoken, hc]
  exact ⟨rfl, rfl⟩

/-- **Closing is final, and gives back once.** At any point of a session, what its log says of
giving back is nothing while the handle is open, and one wake and then one unmapping of the whole
ring once it is closed, whether or not the kernel made those calls fail. A close leaves the handle
closed, with neither ring nor socket. From then on, whatever is done, the handle with its counts
stays as it is, nothing is logged, no traffic is counted, and all that needs the socket or the ring
is refused. -/
theorem closing_is_final {o : Options} {pageSize : Nat} {k : Kernel}
    (hb : s.Begins o pageSize k) (steps : List (Surroundings × Act)) :
    (∃ life, (s.after steps).kernel.calls = k.calls ++ life ∧ life.filter Call.isRelease =
      if (s.after steps).handle.closed then [.wake (toLE 8 1), .unmap o.geometry.mappingSize]
      else []) ∧
    (∀ w, ((s.after steps).act w .close).2.handle.closed = true) ∧
    ((s.after steps).handle.closed = true →
      (s.after steps).kernel.mapping = none ∧ (s.after steps).kernel.socketOpen = false ∧
      ∀ more, (s.after steps).Frozen ((s.after steps).after more) ∧
        ∀ w a x, a.refusal? = some x → (((s.after steps).after more).act w a).1 = x) := by
  obtain ⟨hsound, hcalm⟩ := hb.sound_after steps
  refine ⟨?_, closed_close (s.after steps), fun hc => ⟨?_, ?_, fun more => ?_⟩⟩
  · obtain ⟨life, hcalls, hlife⟩ := hsound.log
    refine ⟨life, hcalls, ?_⟩
    rw [hlife, hcalm]
    cases (s.after steps).handle.closed <;> rfl
  · have hmapped := hsound.mapped
    rw [hc, Bool.not_true, Option.isSome_eq_false_iff] at hmapped
    exact Option.isNone_iff_eq_none.1 hmapped
  · rw [hsound.socketOpen, hc, Bool.not_true]
  · have hfrozen := frozen_after hc more
    refine ⟨hfrozen, fun w a x hx => answer_of_refusal ?_ hx⟩
    rw [hfrozen.handle]
    exact hc

/-- Both calls of a close fail. -/
theorem closing_is_final_failing :
    let s := small .v3
    let steps : List (Surroundings × Act) :=
      [({ failures := [(.wake, 9), (.unmap, 22)] }, .close)]
    s.Begins (smallOptions .v3) 4096 {} ∧ (s.after steps).handle.closed = true ∧
      (s.after steps).kernel.calls.filter Call.isRelease = [.wake (toLE 8 1), .unmap 8192] ∧
      ∀ more w program, (((s.after steps).after more).act w (.attachFilter program)).1 =
        .done (.error .closed) := by
  intro s steps
  have hclosed : (s.after steps).handle.closed = true := closed_close s _
  obtain ⟨⟨life, hcalls, hlife⟩, -, hend⟩ := closing_is_final (begins_small .v3) steps
  obtain ⟨-, -, hrest⟩ := hend hclosed
  refine ⟨begins_small .v3, hclosed, ?_, fun more w program => (hrest more).2 w _ _ rfl⟩
  rw [if_pos hclosed] at hlife
  rw [hcalls]
  exact hlife

end Session

end PacketRing
