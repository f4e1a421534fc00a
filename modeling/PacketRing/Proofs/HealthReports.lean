import Mathlib
import PacketRing.Proofs.CaptureRuns
import PacketRing.Proofs.PollPolicy
import PacketRing.Proofs.Scrapes

/-!
# What a health report knows

A health report says whether packets are captured. It looks at the handle for that, and not at the
loop that captures, so it learns of a close and of nothing else.

* `Reader.woken_next` : a read during which somebody wakes the reader is told that the handle is
  closed;
* `Handle.Loops.exists_read` : the read that fails is the last one of a run;
* `Session.open_of_failed` : a run that fails leaves the handle open;
* `Session.closed_iff_releases` : the log tells whether a handle was closed;
* `Session.health_after_failure` : what is reported after a run that failed.
-/

namespace PacketRing

/-! ## Being woken -/

/-- A wait in which the reader is woken says so. -/
theorem Kernel.woken_wait {k : Kernel} {t : Int} (hw : (k.wait t).2.woken = true) :
    k.woken = true ∨ (k.wait t).1 = .ok .woken := by
  have hsettle : ∀ (k : Kernel) (o : PollOutcome), o ≠ .block →
      (k.settle o).2.woken = k.woken := by
    intro k o ho
    cases o with
    | block => exact absurd rfl ho
    | fail | timeout | events => rfl
  have hpoll : (∀ s ∈ k.script.head?, s.outcome ≠ .block) → (k.poll t).2.woken = k.woken := by
    intro hblock
    unfold poll log
    dsimp only
    split
    · rfl
    · next s rest hs =>
      rw [hsettle _ _ (hblock s (by rw [hs]; rfl))]
      split <;> rfl
  by_cases hblock : ∀ s ∈ k.script.head?, s.outcome ≠ .block
  · left
    rw [← hpoll hblock, ← hw]
    unfold wait
    split <;> simp_all
  · right
    push Not at hblock
    obtain ⟨s, hs, ho⟩ := hblock
    obtain ⟨rest, hscript⟩ := List.head?_eq_some_iff.1 hs
    have hblocked : k.script = { s with outcome := .block } :: rest := by rw [hscript, ← ho]
    exact (wait_of_block hblocked t).1

namespace Reader

variable {r : Reader} {k : Kernel}

theorem woken_release (r : Reader) (k : Kernel) : (r.release k).2.woken = k.woken := by
  unfold release
  split <;> rfl

theorem woken_claim (hw : (r.claim k).2.2.woken = true) :
    k.woken = true ∨ (r.claim k).1 = .error .closed := by
  induction r, k using claim_induct with
  | packet r k hu hl =>
    rw [claim_of_packet hu hl] at hw
    exact .inl ((woken_release r k).symm.trans hw)
  | empty r k hu hl ih =>
    rw [claim_of_empty hu hl] at hw ⊢
    rw [← woken_release r k]
    exact ih hw
  | retry r k hu hv ih =>
    rw [claim_of_retry hu hv] at hw ⊢
    rw [← woken_release r k]
    refine (ih hw).imp_left fun hwaited => ?_
    refine (Kernel.woken_wait hwaited).resolve_right fun hwoken => ?_
    rw [hwoken] at hv
    cases hv
  | stop r k e hu hv =>
    rw [claim_of_stop hu hv] at hw ⊢
    rw [← woken_release r k]
    refine (Kernel.woken_wait hw).imp_right fun hwoken => ?_
    rw [hwoken] at hv
    cases hv
    rfl

/-- A read during which somebody wakes the reader is told that the handle is closed. -/
theorem woken_next (hw : (r.next k).2.2.woken = true) :
    k.woken = true ∨ (r.next k).1 = .error .closed := by
  cases hwalk : (r.cursor.walk k.memory).2 with
  | some hd =>
    rw [next_of_walk_some hwalk] at hw
    exact .inl hw
  | none =>
    rw [next_of_walk_none hwalk] at hw ⊢
    exact woken_claim hw

/-- Of the errors that end a read, two are neither a timeout nor a close. -/
theorem failure_of_next {e : CaptureError} (he : (r.next k).1 = .error e)
    (htimeout : e ≠ .pollTimeout) (hclosed : e ≠ .closed) :
    e = .pollFailure ∨ ∃ errno, errno ≠ interruptedErrno ∧ e = .syscall .poll errno := by
  obtain ⟨-, -, a, -, -, hhalts⟩ := exists_of_error he
  cases hhalts with
  | timedOut => exact absurd rfl htimeout
  | woken => exact absurd rfl hclosed
  | failed => exact .inl rfl
  | refused hne => exact .inr ⟨_, hne, rfl⟩

end Reader

/-! ## Runs of the loop -/

namespace Handle

variable {h h' : Handle} {k k' : Kernel} {copyOut : Bool} {infos : List CaptureInfo}
  {ending : Ending} {e : CaptureError}

theorem closed_read (h : Handle) (k : Kernel) : (h.read k).2.1.closed = h.closed := by
  unfold read
  split <;> rfl

theorem woken_read (hw : (h.read k).2.2.woken = true) :
    k.woken = true ∨ (h.read k).1 = .error .closed := by
  unfold read at hw ⊢
  split
  · exact .inr rfl
  · next hc =>
    rw [if_neg hc] at hw
    exact Reader.woken_next hw

theorem open_of_read_error (hr : h.read k = (.error e, h', k')) (he : e ≠ .closed) :
    h.closed = false := by
  cases hc : h.closed with
  | false => rfl
  | true =>
    rw [read_of_closed hc] at hr
    cases hr
    exact absurd rfl he

namespace Loops

theorem closed_eq (hl : Loops copyOut h k infos ending h' k') : h'.closed = h.closed := by
  have hinspect : ∀ {h h' : Handle} {k k' : Kernel} {x},
      h.inspect copyOut k = (x, h', k') → h'.closed = h.closed := by
    intro h h' k k' x hi
    rw [inspect_eq] at hi
    rw [← closed_read h k, (Prod.mk.inj hi).2]
  induction hl with
  | stopped => rfl
  | packet _ hi _ ih | timedOut _ hi _ ih => exact ih.trans (hinspect hi)
  | closed _ hi | failed _ hi => exact hinspect hi

/-- A run during which somebody wakes the reader ends with that. -/
theorem woken_cases (hl : Loops copyOut h k infos ending h' k') (hw : k'.woken = true) :
    k.woken = true ∨ ending = .closed := by
  have hread : ∀ {h h' : Handle} {k k' : Kernel} {x}, h.read k = (x, h', k') →
      k'.woken = true → x ≠ .error .closed → k.woken = true := by
    intro h h' k k' x hr hw hx
    have hcases := woken_read (h := h) (k := k)
    rw [hr] at hcases
    exact (hcases hw).resolve_right hx
  induction hl with
  | stopped => exact .inl hw
  | packet _ hi _ ih =>
    obtain ⟨f, hr, -⟩ := read_of_inspect hi
    exact (ih hw).imp_left fun hw => hread hr hw nofun
  | timedOut _ hi _ ih =>
    exact (ih hw).imp_left fun hw => hread (read_of_inspect_error hi) hw nofun
  | closed => exact .inr rfl
  | failed _ hi _ hclosed =>
    refine .inl (hread (read_of_inspect_error hi) hw fun hx => hclosed ?_)
    exact Except.error.inj hx

/-- A run that fails ends with the read that fails. -/
theorem exists_read (hl : Loops copyOut h k infos (.failed e) h' k') :
    ∃ (h₁ : Handle) (k₁ : Kernel), h₁.read k₁ = (.error e, h', k') ∧
      e ≠ .pollTimeout ∧ e ≠ .closed := by
  generalize hending : Ending.failed e = ending at hl
  induction hl with
  | stopped => cases hending
  | packet _ _ _ ih | timedOut _ _ _ ih => exact ih hending
  | closed => cases hending
  | failed _ hi htimeout hclosed =>
    cases hending
    exact ⟨_, _, read_of_inspect_error hi, htimeout, hclosed⟩

/-- It fails as a poll fails, and nobody closed the handle meanwhile. -/
theorem of_failed (hl : Loops copyOut h k infos (.failed e) h' k') :
    (e = .pollFailure ∨ ∃ errno, errno ≠ interruptedErrno ∧ e = .syscall .poll errno) ∧
      h.closed = false ∧ h'.closed = false := by
  obtain ⟨h₁, k₁, hr, htimeout, hclosed⟩ := hl.exists_read
  have hopen₁ := open_of_read_error hr hclosed
  have hopen : h'.closed = false := by
    have hsame := closed_read h₁ k₁
    rw [hr] at hsame
    exact hsame.trans hopen₁
  refine ⟨?_, hl.closed_eq.symm.trans hopen, hopen⟩
  rw [read_of_open hopen₁] at hr
  exact Reader.failure_of_next (Prod.mk.inj hr).1 htimeout hclosed

end Loops

end Handle

/-! ## Sessions -/

namespace Session

variable {s : Session} {o : Options} {v : Version} {before : List Call} {pageSize : Nat}
  {k k' : Kernel} {w : Surroundings} {copyOut running : Bool} {infos : List CaptureInfo}
  {e : CaptureError} {h' : Handle}

/-- A run that fails leaves the handle open: nobody was waiting to close it. -/
theorem open_of_failed (hcalm : s.Calm)
    (hl : s.handle.Loops copyOut { s.kernel.within w with running, idle := .stopping } infos
      (.failed e) h' k') : (s.act w (.capture copyOut running)).2.handle.closed = false := by
  obtain ⟨-, hstart, hend⟩ := hl.of_failed
  have hwoken : k'.woken = false := by
    cases hw : k'.woken with
    | false => rfl
    | true =>
      have hbefore : s.kernel.woken = true := (hl.woken_cases hw).resolve_right nofun
      rw [hcalm, hstart] at hbefore
      cases hbefore
  rw [act_capture_of_loops hl]
  unfold settled
  dsimp only
  rw [hwoken, Bool.false_and, if_neg Bool.false_ne_true]
  exact hend

/-- The log tells whether an open handle was closed: by calls that give back what the open
acquired. -/
theorem closed_iff_releases (hs : s.Sound o v before) (hcalm : s.Calm)
    (hopen : s.handle.closed = false) (more : List (Surroundings × Act)) :
    ∃ added, (s.after more).kernel.calls = s.kernel.calls ++ added ∧
      (s.after more).handle.closed = added.any Call.isRelease := by
  obtain ⟨added, hcalls, -⟩ := s.polls_after more
  obtain ⟨life, hlog, hlife⟩ := hs.log
  obtain ⟨hs', hcalm'⟩ := hs.after hcalm more
  obtain ⟨life', hlog', hlife'⟩ := hs'.log
  have hsplit : life' = life ++ added := by
    rw [hcalls, hlog, List.append_assoc] at hlog'
    exact (List.append_cancel_left hlog').symm
  rw [hcalm, hopen] at hlife
  rw [hsplit, List.filter_append, hlife, hcalm'] at hlife'
  change added.filter Call.isRelease = _ at hlife'
  refine ⟨added, hcalls, ?_⟩
  cases hc : (s.after more).handle.closed with
  | false =>
    rw [hc] at hlife'
    have hnone := List.filter_eq_nil_iff.1 hlife'
    exact (List.any_eq_false.2 hnone).symm
  | true =>
    rw [hc] at hlife'
    have hwake : wakeCall ∈ added.filter Call.isRelease := by
      rw [hlife']
      exact List.mem_cons_self
    obtain ⟨hmem, hrelease⟩ := List.mem_filter.1 hwake
    exact (List.any_eq_true.2 ⟨wakeCall, hmem, hrelease⟩).symm

theorem health_act {r : Request} (hr : s.Gets r .health) (w : Surroundings) :
    (s.act w (.request r)).1 = .response (.json (s.handle.health s.traffic).toJson) := by
  unfold act
  rw [perform_get hr]
  rfl

/-- **A health report does not learn that a run failed.** In a session that begins with an opened
handle, a run of the loop fails: by a poll that reports an error, or by one that the kernel refuses
for any reason but an interruption. The handle is then open. Whatever happens next, a report says
that packets are captured until the handle is closed, which the log shows as calls from after the
run that give back what the open acquired. -/
theorem health_after_failure (hb : s.Begins o pageSize k) (steps : List (Surroundings × Act))
    (hl : (s.after steps).handle.Loops copyOut
      { (s.after steps).kernel.within w with running, idle := .stopping } infos (.failed e) h' k')
    (more : List (Surroundings × Act)) :
    let ended := ((s.after steps).act w (.capture copyOut running)).2
    let now := ended.after more
    (e = .pollFailure ∨ ∃ errno, errno ≠ interruptedErrno ∧ e = .syscall .poll errno) ∧
      ended.handle.closed = false ∧
      (∃ added, now.kernel.calls = ended.kernel.calls ++ added ∧
        now.handle.closed = added.any Call.isRelease) ∧
      ∀ w r, now.Gets r .health → (now.act w (.request r)).1 =
        .response (.json (Health.toJson ⟨!now.handle.closed, now.traffic.totalPackets⟩)) := by
  intro ended now
  have hopen : ended.handle.closed = false := open_of_failed (hb.sound_after steps).2 hl
  have hended : ended.Sound o s.handle.version k.calls ∧ ended.Calm := by
    have hafter := hb.sound_after (steps ++ [(w, .capture copyOut running)])
    rwa [after_append_singleton] at hafter
  exact ⟨hl.of_failed.1, hopen, closed_iff_releases hended.1 hended.2 hopen more,
    fun w _ hr => health_act hr w⟩

/-! ### A poll that reports an error -/

/-- The next poll finds the socket in an error state. -/
def failingPoll : Surroundings where
  polls := [{ outcome := .events pollErr 0 }]

def healthRequest : Request where
  method := "GET"
  target := "/api/health"
  client := none

theorem loops_failing : ∃ h' k', (small .v2).handle.Loops false
    { (small .v2).kernel.within failingPoll with running := true, idle := .stopping } []
      (.failed .pollFailure) h' k' := by
  let k : Kernel :=
    { (small .v2).kernel.within failingPoll with running := true, idle := .stopping }
  have hnext := Reader.next_of_stop (r := (small .v2).handle.reader) (k := k) (e := .pollFailure)
    (Cursor.free_start (small .v2).handle.reader.cursor) (by decide +kernel) (by decide +kernel)
  have hread := Handle.read_of_open (h := (small .v2).handle) (k := k) rfl
  rw [hnext] at hread
  exact ⟨_, _, .failed rfl (Handle.inspect_of_read_error hread) nofun nofun⟩

/-- The service of a small session tells anybody about its health. -/
theorem gets_health {s : Session} (hs : s.service = (small .v2).service) :
    s.Gets healthRequest .health :=
  ⟨rfl, by decide +kernel, by rw [hs]; decide +kernel⟩

theorem ended_failing :
    let ended := ((small .v2).act failingPoll (.capture false true)).2
    ended.service = (small .v2).service ∧ ended.traffic.totalPackets = 0 ∧
      ended.handle.closed = false := by
  obtain ⟨h', k', hl⟩ := loops_failing
  refine ⟨service_of_not_exposes (a := .capture false true) nofun _, ?_,
    open_of_failed (begins_small .v2).sound.2 hl⟩
  rw [act_capture_of_loops hl]
  rfl

/-- After the run failed the handle is closed, and a report says so. -/
theorem health_after_failure_closed :
    let s := small .v2
    let ended := (s.act failingPoll (.capture false true)).2
    let now := ended.after [({}, .close)]
    s.Begins (smallOptions .v2) 4096 {} ∧
      (∃ h' k', s.handle.Loops false
        { s.kernel.within failingPoll with running := true, idle := .stopping } []
        (.failed .pollFailure) h' k') ∧
      ended.handle.closed = false ∧
      (now.act {} (.request healthRequest)).1 =
        .response (.json (.obj [("status", .str "stopped"), ("capturing", .bool false),
          ("total_packets", .int 0)])) := by
  intro s ended now
  obtain ⟨h', k', hl⟩ := loops_failing
  obtain ⟨hservice, hpackets, -⟩ := ended_failing
  obtain ⟨-, hopen, -, hanswer⟩ :=
    health_after_failure (begins_small .v2) [] hl [({}, .close)]
  have hclosed : now.handle.closed = true := closed_close ended {}
  have hkept : now.service = ended.service := service_of_not_exposes (a := .close) nofun {}
  have htraffic : now.traffic = ended.traffic := traffic_act (a := .close) nofun ended {}
  have hreport : (now.act {} (.request healthRequest)).1 =
      .response (.json (Health.toJson ⟨!now.handle.closed, now.traffic.totalPackets⟩)) :=
    hanswer {} _ (gets_health (hkept.trans hservice))
  refine ⟨begins_small .v2, ⟨h', k', hl⟩, hopen, ?_⟩
  rw [hreport, hclosed, htraffic, hpackets]
  rfl

/-- The run has failed and nothing is captured any more, but the report says that all is well. -/
theorem failed_run_reported_healthy :
    let s := small .v2
    let ended := (s.act failingPoll (.capture false true)).2
    s.Begins (smallOptions .v2) 4096 {} ∧
      (∃ h' k', s.handle.Loops false
        { s.kernel.within failingPoll with running := true, idle := .stopping } []
        (.failed .pollFailure) h' k') ∧
      ended.Gets healthRequest .health ∧
      (ended.act {} (.request healthRequest)).1 =
        .response (.json (.obj [("status", .str "ok"), ("capturing", .bool true),
          ("total_packets", .int 0)])) := by
  intro s ended
  obtain ⟨hservice, hpackets, hopen⟩ := ended_failing
  have hgets := gets_health hservice
  refine ⟨begins_small .v2, loops_failing, hgets, (health_act hgets {}).trans ?_⟩
  unfold Handle.health
  rw [hopen, hpackets]
  rfl

end Session

end PacketRing
