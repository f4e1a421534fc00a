import Mathlib
import PacketRing.Proofs.CaptureRuns

/-!
# Calls beside a capture

What can be asked of a handle without reading leaves a capture alone, wherever it comes in between.

* `Kernel.masked`, `Session.masked` : what reads can tell of a kernel and of a session. Reading with
  the rest masked is reading, masked (`Reader.next_masked`, `Session.perform_masked`);
* `Act.isControl` : the calls that do not read. They change only what is masked
  (`Session.masked_of_control`);
* `View` : the mapped bytes, the reader with its cursor and counts, the traffic and the polls;
* `Session.Amid`, `Session.Overlaid` : runs of a session, and of a capture loop, with such calls in
  between;
* `Session.control_calls_disturb_nothing` : every such run answers and ends as without the calls.
-/

namespace PacketRing

/-! ## Kernels -/

/-- The call is made beside a capture: it is a request, or queries the counts. -/
def Call.isAside (c : Call) : Bool := c.isRequest || c.isQuery

namespace Kernel

variable {k : Kernel}

/-- What reads can tell of the kernel. Masked are its interfaces, what it is made to fail with, the
counts that it holds, and the calls in its log that were made beside. -/
def masked (k : Kernel) : Kernel :=
  { k with
    interfaces := []
    failures := []
    statistics := []
    calls := k.calls.filter (!·.isAside) }

theorem masked_log (k : Kernel) {c : Call} (h : c.isAside = false) :
    k.masked.log c = (k.log c).masked := by
  simp [masked, log, h]

theorem masked_log_aside (k : Kernel) {c : Call} (h : c.isAside = true) :
    (k.log c).masked = k.masked := by
  simp [masked, log, h]

theorem wake_masked (k : Kernel) : k.masked.wake.2 = k.wake.2.masked := by
  simp [wake, attempt, masked, log, Call.isAside, Call.isRequest, Call.isQuery]

theorem unmap_masked (k : Kernel) (length : Nat) :
    (k.masked.unmap length).2 = (k.unmap length).2.masked := by
  simp [unmap, attempt, masked, log, Call.isAside, Call.isRequest, Call.isQuery]

theorem settle_masked (k : Kernel) (o : PollOutcome) :
    k.masked.settle o = ((k.settle o).1, (k.settle o).2.masked) := by
  cases o with
  | block =>
    simp only [settle, wake_masked]
    rw [show k.masked.woken = k.woken from rfl]
    split <;> rfl
  | _ => rfl

theorem poll_masked (k : Kernel) (t : Int) :
    k.masked.poll t = ((k.poll t).1, (k.poll t).2.masked) := by
  have hlog := k.masked_log (c := .poll t pollIn pollIn) rfl
  have hscript : (k.log (.poll t pollIn pollIn)).masked.script = k.script := rfl
  unfold poll
  cases hs : k.script with
  | nil =>
    simp only [hlog, hscript, script_log, hs]
    rfl
  | cons s rest =>
    simp only [hlog, hscript, script_log, hs]
    rw [← settle_masked]
    congr 1
    split <;> rfl

theorem wait_masked (k : Kernel) (t : Int) :
    k.masked.wait t = ((k.wait t).1, (k.wait t).2.masked) := by
  unfold wait
  rw [poll_masked]
  obtain ⟨result, k'⟩ := k.poll t
  cases result <;> rfl

end Kernel

/-! ## Reads -/

namespace Reader

variable {r : Reader} {k : Kernel}

theorem release_masked (r : Reader) (k : Kernel) :
    r.release k.masked = ((r.release k).1, (r.release k).2.masked) := by
  unfold release
  split <;> rfl

theorem claim_masked (r : Reader) (k : Kernel) :
    r.claim k.masked = ((r.claim k).1, (r.claim k).2.1, (r.claim k).2.2.masked) := by
  induction r, k using claim_induct with
  | packet r k hu hl =>
    have hpacket := claim_of_packet (r := r) (k := k.masked)
    rw [release_masked] at hpacket
    rw [hpacket hu hl, claim_of_packet hu hl]
    rfl
  | empty r k hu hl ih =>
    have hempty := claim_of_empty (r := r) (k := k.masked)
    rw [release_masked] at hempty
    rw [hempty hu hl, claim_of_empty hu hl]
    exact ih
  | retry r k hu hv ih =>
    have hretry := claim_of_retry (r := r) (k := k.masked)
    rw [release_masked] at hretry
    dsimp only at hretry
    rw [Kernel.wait_masked] at hretry
    rw [hretry hu hv, claim_of_retry hu hv]
    exact ih
  | stop r k e hu hv =>
    have hstop := claim_of_stop (r := r) (k := k.masked) (e := e)
    rw [release_masked] at hstop
    dsimp only at hstop
    rw [Kernel.wait_masked] at hstop
    rw [hstop hu hv, claim_of_stop hu hv]

theorem next_masked (r : Reader) (k : Kernel) :
    r.next k.masked = ((r.next k).1, (r.next k).2.1, (r.next k).2.2.masked) := by
  have hmemory : k.masked.memory = k.memory := rfl
  cases hw : (r.cursor.walk k.memory).2 with
  | some hd =>
    rw [next_of_walk_some hw, next_of_walk_some (k := k.masked) hw]
    rfl
  | none =>
    rw [next_of_walk_none hw, next_of_walk_none (k := k.masked) hw, claim_masked, hmemory]

end Reader

namespace Handle

variable {h : Handle} {k : Kernel}

/-- The handle without the kernel's totals. -/
def masked (h : Handle) : Handle := { h with totals := {} }

theorem read_masked (h : Handle) (k : Kernel) : h.masked.read k.masked =
    ((h.read k).1, (h.read k).2.1.masked, (h.read k).2.2.masked) := by
  cases hc : h.closed with
  | true => rw [read_of_closed hc, read_of_closed (h := h.masked) hc]
  | false =>
    rw [read_of_open hc, read_of_open (h := h.masked) hc]
    rw [show h.masked.reader = h.reader from rfl, Reader.next_masked]
    rfl

theorem inspect_masked {copyOut : Bool} {h' : Handle} {k' : Kernel}
    {x : Except CaptureError CaptureInfo} (hi : h.inspect copyOut k = (x, h', k')) :
    h.masked.inspect copyOut k.masked = (x, h'.masked, k'.masked) := by
  rw [inspect_eq] at hi ⊢
  obtain ⟨rfl, hend⟩ := Prod.mk.inj hi
  rw [read_masked, hend]
  rfl

theorem readPacket_masked (h : Handle) (k : Kernel) : h.masked.readPacket k.masked =
    ((h.readPacket k).1, (h.readPacket k).2.1.masked, (h.readPacket k).2.2.masked) := by
  unfold readPacket
  rw [read_masked]
  rcases h.read k with ⟨_ | f, h', k'⟩ <;> rfl

theorem readInto_masked (h : Handle) (k : Kernel) (buffer : Bytes) :
    h.masked.readInto k.masked buffer =
      ((h.readInto k buffer).1, (h.readInto k buffer).2.1, (h.readInto k buffer).2.2.1.masked,
        (h.readInto k buffer).2.2.2.masked) := by
  unfold readInto
  rw [read_masked]
  rcases h.read k with ⟨_ | f, h', k'⟩ <;> rfl

theorem Loops.masked {copyOut : Bool} {infos : List CaptureInfo} {ending : Ending} {h' : Handle}
    {k' : Kernel} (hl : Loops copyOut h k infos ending h' k') :
    Loops copyOut h.masked k.masked infos ending h'.masked k'.masked := by
  induction hl with
  | stopped hr => exact .stopped hr
  | packet hr hi _ ih => exact .packet hr (inspect_masked hi) ih
  | timedOut hr hi _ ih => exact .timedOut hr (inspect_masked hi) ih
  | closed hr hi => exact .closed hr (inspect_masked hi)
  | failed hr hi htimeout hclosed => exact .failed hr (inspect_masked hi) htimeout hclosed

theorem run_masked (hidle : k.idle = .stopping) (t : Traffic) (wallClock : Int) (copyOut : Bool) :
    h.masked.run t wallClock copyOut k.masked =
      ((h.run t wallClock copyOut k).1.masked, (h.run t wallClock copyOut k).2.1,
        (h.run t wallClock copyOut k).2.2.masked) := by
  obtain ⟨infos, ending, h', k', hl⟩ := h.exists_loops copyOut k hidle
  rw [run_of_loops hl hidle, run_of_loops hl.masked hidle]

theorem capture_masked (h : Handle) (t : Traffic) (wallClock : Int) (copyOut running : Bool)
    (k : Kernel) : h.masked.capture t wallClock copyOut running k.masked =
      ((h.capture t wallClock copyOut running k).1.masked,
        (h.capture t wallClock copyOut running k).2.1,
        (h.capture t wallClock copyOut running k).2.2.masked) := by
  let k₀ : Kernel := { k with running, idle := .stopping }
  have hleft : h.masked.capture t wallClock copyOut running k.masked =
      ((h.masked.run t wallClock copyOut k₀.masked).1,
        (h.masked.run t wallClock copyOut k₀.masked).2.1,
        { (h.masked.run t wallClock copyOut k₀.masked).2.2 with idle := .quiet }) := rfl
  rw [hleft, run_masked rfl]
  rfl

theorem giveBack_masked (h : Handle) (k : Kernel) :
    h.masked.giveBack k.masked = (h.giveBack k).masked := by
  unfold giveBack
  rw [Kernel.unmap_masked]
  rfl

theorem close_masked (h : Handle) (k : Kernel) :
    h.masked.close k.masked = ((h.close k).1.masked, (h.close k).2.masked) := by
  unfold close
  cases hc : h.closed with
  | true => simp [masked, hc]
  | false =>
    rw [Kernel.wake_masked, giveBack_masked]
    simp [masked, hc]

end Handle

/-! ## Sessions -/

/-- The act is a call beside a capture, one that neither reads nor closes. -/
def Act.isControl : Act → Bool
  | .send _ | .attachFilter _ | .attachCompiled _ | .joinFanout .. | .localStats | .socketStats
  | .request _ | .push | .stream .. => true
  | .read | .readPacket | .readInto _ | .capture .. | .close => false

/-- Meanwhile nothing happens to the ring: the kernel writes nothing, and no polls are in store. -/
structure Surroundings.Quiet (w : Surroundings) : Prop where
  polls : w.polls = []
  writes : w.writes = []

theorem Kernel.masked_within (k : Kernel) (w : Surroundings) :
    (k.masked.within w).masked = (k.within w).masked := by
  simp [masked, within, deliver, withMemory, memory]

theorem Kernel.masked_within_of_quiet (k : Kernel) {w : Surroundings} (hw : w.Quiet) :
    (k.within w).masked = k.masked := by
  have hmapping : (k.within w).mapping = k.mapping := by
    unfold within deliver withMemory memory
    rw [hw.writes]
    cases k.mapping <;> rfl
  have hscript : (k.within w).script = k.script := by
    unfold within
    rw [hw.polls]
    exact List.append_nil _
  unfold masked
  rw [hmapping, hscript]
  rfl

namespace Session

variable {s s' : Session} {w : Surroundings} {a : Act}

/-- What reads can tell of the session. -/
def masked (s : Session) : Session where
  handle := s.handle.masked
  kernel := s.kernel.masked
  traffic := s.traffic
  service := { allowlist := .everyone }

theorem settled_masked (s : Session) : s.masked.settled = s.settled.masked := by
  unfold settled
  rw [show (s.masked.kernel.woken && !s.masked.handle.closed) =
    (s.kernel.woken && !s.handle.closed) from rfl]
  split
  · have hback := s.handle.giveBack_masked s.kernel
    unfold masked
    rw [hback]
    rfl
  · rfl

/-- Other acts than those calls take and give only what reads can tell. -/
theorem perform_masked (ha : a.isControl = false) (s : Session) (w : Surroundings) :
    s.masked.perform w a = ((s.perform w a).1, (s.perform w a).2.masked) := by
  cases a with
  | read =>
    unfold perform masked
    dsimp only
    rw [Handle.read_masked]
  | readPacket =>
    unfold perform masked
    dsimp only
    rw [Handle.readPacket_masked]
  | readInto buffer =>
    unfold perform masked
    dsimp only
    rw [Handle.readInto_masked]
  | capture copyOut running =>
    unfold perform masked
    dsimp only
    rw [Handle.capture_masked]
  | close =>
    unfold perform masked
    dsimp only
    rw [Handle.close_masked]
  | _ => cases ha

theorem act_masked (ha : a.isControl = false) (s : Session) (w : Surroundings) :
    (s.masked.act w a).1 = (s.act w a).1 ∧
      (s.masked.act w a).2.masked = (s.act w a).2.masked := by
  have hwithin : { s.masked with kernel := s.masked.kernel.within w }.masked =
      { s with kernel := s.kernel.within w }.masked := by
    have hkernel := s.kernel.masked_within w
    unfold masked
    rw [hkernel]
    rfl
  have hone := perform_masked ha { s with kernel := s.kernel.within w } w
  have htwo := perform_masked ha { s.masked with kernel := s.masked.kernel.within w } w
  rw [hwithin, hone] at htwo
  obtain ⟨hanswer, hsession⟩ := Prod.mk.inj htwo
  refine ⟨hanswer.symm, ?_⟩
  unfold act
  dsimp only
  rw [← settled_masked, ← settled_masked, hsession]

/-- Sessions of which reads can tell the same go on alike. -/
theorem act_of_masked_eq (hs : s.masked = s'.masked) (ha : a.isControl = false)
    (w : Surroundings) :
    (s.act w a).1 = (s'.act w a).1 ∧ (s.act w a).2.masked = (s'.act w a).2.masked := by
  obtain ⟨hanswer, hsession⟩ := act_masked ha s w
  obtain ⟨hanswer', hsession'⟩ := act_masked ha s' w
  rw [hs] at hanswer hsession
  exact ⟨hanswer.symm.trans hanswer', hsession.symm.trans hsession'⟩

/-! ### Calls beside -/

theorem masked_request (s : Session) (op : Operation) (ask : Kernel → Except Errno Unit × Kernel)
    (c : Call) (hask : (ask s.kernel).2 = s.kernel.log c) (hc : c.isAside = true) :
    { s with kernel := (s.handle.request s.kernel op ask).2 }.masked = s.masked := by
  have hkernel : (s.handle.request s.kernel op ask).2.masked = s.kernel.masked := by
    unfold Handle.request
    split
    · rfl
    · rw [← s.kernel.masked_log_aside hc, ← hask]
      split <;> simp_all
  unfold masked
  rw [hkernel]

theorem masked_queried (s : Session) (service : Service) (n : Nat) :
    { s with
      handle := (s.handle.queried s.kernel n).1
      kernel := (s.handle.queried s.kernel n).2
      service }.masked = s.masked := by
  cases hc : s.handle.closed with
  | true =>
    rw [Handle.queried_of_closed hc]
    rfl
  | false =>
    obtain ⟨totals, statistics, hend⟩ := Handle.queried_of_open (k := s.kernel) hc n
    have haside : (statisticsCall s.handle.version).isAside = true := rfl
    rw [hend]
    simp [masked, Handle.masked, Kernel.masked, haside]

theorem masked_perform_of_control (ha : a.isControl = true) (s : Session) (w : Surroundings) :
    (s.perform w a).2.masked = s.masked := by
  cases a with
  | send frame => exact masked_request s .write (·.send frame) _ rfl rfl
  | attachFilter program =>
    show { s with kernel := (s.handle.attachFilter s.kernel program).2 }.masked = _
    unfold Handle.attachFilter
    split
    · rfl
    · split
      · rfl
      · exact masked_request s .attachFilter (·.setOption (.filter program)) _ rfl rfl
  | attachCompiled descriptor =>
    exact masked_request s .attachCompiled (·.setOption (.compiledFilter descriptor)) _ rfl rfl
  | joinFanout type group =>
    exact masked_request s .joinFanout (·.setOption (.fanout (type.argument group))) _ rfl rfl
  | localStats => rfl
  | socketStats => exact masked_queried s s.service 1
  | request r =>
    obtain ⟨n, hn⟩ := s.service.respond_snd r s.traffic w.uptime s.handle s.kernel
    have hqueried := masked_queried s
      (s.service.respond r s.traffic w.uptime s.handle s.kernel).2.1 n
    rw [← hn] at hqueried
    exact hqueried
  | push => exact masked_queried s s.service 1
  | stream client messages =>
    obtain ⟨n, hn⟩ := s.service.stream_snd client messages s.traffic w.uptime s.handle s.kernel
    have hqueried := masked_queried s s.service n
    rw [← hn] at hqueried
    exact hqueried
  | _ => cases ha

/-- Such a call changes nothing that reads can tell. -/
theorem masked_of_control (hw : w.Quiet) (ha : a.isControl = true) (s : Session) :
    ({ s with kernel := s.kernel.within w }.perform w a).2.masked = s.masked := by
  rw [masked_perform_of_control ha]
  unfold masked
  dsimp only
  rw [Kernel.masked_within_of_quiet s.kernel hw]

end Session

/-! ## Runs with calls in between -/

/-- What there is to see of a capture. -/
structure View where
  mapping : Option Region
  reader : Reader
  traffic : Traffic
  polls : List Call

namespace Session

/-- The view of the session, with the polls logged so far. -/
def view (s : Session) : View :=
  ⟨s.kernel.mapping, s.handle.reader, s.traffic, s.kernel.calls.filter Call.isPoll⟩

/-- What each step answers, and the view behind it. -/
def trace (s : Session) : List (Surroundings × Act) → List (Answer × View)
  | [] => []
  | (w, a) :: steps => ((s.act w a).1, (s.act w a).2.view) :: (s.act w a).2.trace steps

/-- `Overlaid copyOut wallClock s s'` : the capture loop takes the session from `s` to `s'`, with
calls in between its reads. Each call meets the kernel with failures and counts of its own. -/
inductive Overlaid (copyOut : Bool) (wallClock : Int) : Session → Session → Prop where
  | stopped {s} : s.kernel.running = false → Overlaid copyOut wallClock s s
  | packet {s s' info handle kernel} : s.kernel.running = true →
      s.handle.inspect copyOut s.kernel = (.ok info, handle, kernel) →
      Overlaid copyOut wallClock
        { s with handle, kernel, traffic := s.traffic.record wallClock info } s' →
      Overlaid copyOut wallClock s s'
  | timedOut {s s' handle kernel} : s.kernel.running = true →
      s.handle.inspect copyOut s.kernel = (.error .pollTimeout, handle, kernel) →
      Overlaid copyOut wallClock { s with handle, kernel } s' → Overlaid copyOut wallClock s s'
  | closed {s handle kernel} : s.kernel.running = true →
      s.handle.inspect copyOut s.kernel = (.error .closed, handle, kernel) →
      Overlaid copyOut wallClock s { s with handle, kernel }
  | failed {s e handle kernel} : s.kernel.running = true →
      s.handle.inspect copyOut s.kernel = (.error e, handle, kernel) →
      e ≠ .pollTimeout → e ≠ .closed →
      Overlaid copyOut wallClock s { s with handle, kernel, traffic := s.traffic.recordError }
  | call {s s' w a} : w.Quiet → a.isControl = true →
      Overlaid copyOut wallClock ({ s with kernel := s.kernel.within w }.perform w a).2 s' →
      Overlaid copyOut wallClock s s'

/-- `Amid s steps seen s'` : the steps take the session from `s` to `s'`, with calls before, between
and behind them and in between the reads of a capture loop; `seen` is what each step answers, with
the view behind it. -/
inductive Amid : Session → List (Surroundings × Act) → List (Answer × View) → Session → Prop where
  | done {s} : Amid s [] [] s
  | call {s w a steps seen s'} : w.Quiet → a.isControl = true →
      Amid (s.act w a).2 steps seen s' → Amid s steps seen s'
  | step {s w a steps seen s'} : a.isControl = false → Amid (s.act w a).2 steps seen s' →
      Amid s ((w, a) :: steps) (((s.act w a).1, (s.act w a).2.view) :: seen) s'
  | capture {s w copyOut running s₁ s₂ steps seen s'} :
      Overlaid copyOut w.wallClock
        { s with kernel := { s.kernel.within w with running, idle := .stopping } } s₁ →
      s₂ = { s₁ with kernel := { s₁.kernel with idle := .quiet } }.settled →
      Amid s₂ steps seen s' →
      Amid s ((w, .capture copyOut running) :: steps) ((.none, s₂.view) :: seen) s'

variable {s s' t : Session} {w : Surroundings} {a : Act} {steps : List (Surroundings × Act)}
  {seen : List (Answer × View)} {copyOut : Bool} {wallClock : Int}

/-- All that a view shows can be told by reads. -/
theorem view_masked (s : Session) : s.masked.view = s.view := by
  have hpolls : s.masked.kernel.calls.filter Call.isPoll = s.kernel.calls.filter Call.isPoll := by
    show (s.kernel.calls.filter (!·.isAside)).filter Call.isPoll = _
    rw [List.filter_filter]
    refine List.filter_congr fun c _ => ?_
    cases c <;> rfl
  unfold view
  rw [hpolls]
  rfl

theorem view_eq_of_masked_eq (hs : s.masked = s'.masked) : s.view = s'.view := by
  rw [← view_masked s, hs, view_masked]

theorem settled_settled (s : Session) : s.settled.settled = s.settled := by
  by_cases hw : (s.kernel.woken && !s.handle.closed) = true
  · rw [show s.settled = _ from if_pos hw]
    exact if_neg (by simp)
  · rw [show s.settled = s from if_neg hw, show s.settled = s from if_neg hw]

theorem act_of_control (hw : w.Quiet) (ha : a.isControl = true) (hrest : s.settled = s) :
    (s.act w a).2.masked = s.masked := by
  unfold act
  dsimp only
  rw [← settled_masked, masked_of_control hw ha, settled_masked, hrest]

/-- To reads, the loop goes on as if there were no calls. -/
theorem Overlaid.masked_eq (ho : Overlaid copyOut wallClock s s')
    (hidle : s.kernel.idle = .stopping) :
    s.masked.handle.run s.traffic wallClock copyOut s.masked.kernel =
      (s'.masked.handle, s'.traffic, s'.masked.kernel) := by
  induction ho with
  | @stopped s hr => exact Handle.run_of_stopped (k := s.masked.kernel) hr
  | @packet s _ _ _ _ hr hi _ ih =>
    exact (Handle.run_of_packet (k := s.masked.kernel) hr (Handle.inspect_masked hi)).trans
      (ih (Handle.idle_inspect hidle hi))
  | @timedOut s _ _ _ hr hi _ ih =>
    exact (Handle.run_of_timedOut (k := s.masked.kernel) hr hidle (Handle.inspect_masked hi)).trans
      (ih (Handle.idle_inspect hidle hi))
  | @closed s _ _ hr hi =>
    exact Handle.run_of_refused (k := s.masked.kernel) hr (Handle.inspect_masked hi)
  | @failed s _ _ _ hr hi htimeout hclosed =>
    exact Handle.run_of_failed (k := s.masked.kernel) hr (Handle.inspect_masked hi) htimeout hclosed
  | @call s _ w a hw ha _ ih =>
    have hsame := masked_of_control hw ha s
    have htraffic : ({ s with kernel := s.kernel.within w }.perform w a).2.traffic = s.traffic :=
      congrArg (·.traffic) hsame
    have hidle' : ({ s with kernel := s.kernel.within w }.perform w a).2.kernel.idle = .stopping :=
      (congrArg (·.kernel.idle) hsame).trans hidle
    rw [hsame, htraffic] at ih
    exact ih hidle'

theorem Overlaid.act_masked_eq {running : Bool}
    (ho : Overlaid copyOut w.wallClock
      { s with kernel := { s.kernel.within w with running, idle := .stopping } } s') :
    (s.act w (.capture copyOut running)).2.masked =
      { s' with kernel := { s'.kernel with idle := .quiet } }.settled.masked := by
  have hcapture : s.handle.masked.capture s.traffic w.wallClock copyOut running
      (s.kernel.within w).masked =
        (s'.masked.handle, s'.traffic, { s'.masked.kernel with idle := .quiet }) :=
    congrArg (fun ran : Handle × Traffic × Kernel =>
      (ran.1, ran.2.1, { ran.2.2 with idle := .quiet })) (ho.masked_eq rfl)
  rw [Handle.capture_masked] at hcapture
  obtain ⟨hhandle, hrest⟩ := Prod.mk.inj hcapture
  obtain ⟨htraffic, hkernel⟩ := Prod.mk.inj hrest
  unfold act perform
  dsimp only
  rw [← settled_masked, ← settled_masked]
  unfold masked
  dsimp only
  rw [hhandle, htraffic, hkernel]
  rfl

/-- Sessions that look the same to reads go on alike, one with calls in between, one without. -/
theorem Amid.masked_eq (ha : Amid s' steps seen t) (hs : s.masked = s'.masked)
    (hrest : s'.settled = s') : seen = s.trace steps ∧ (s.after steps).masked = t.masked := by
  -- `hs` is what the induction keeps; a call leaves it only if no close is due, which is `hrest`.
  induction ha generalizing s with
  | done => exact ⟨rfl, hs⟩
  | call hw ha _ ih => exact ih (hs.trans (act_of_control hw ha hrest).symm) (settled_settled _)
  | @step s' w a steps seen t ha _ ih =>
    obtain ⟨hanswer, hmasked⟩ := act_of_masked_eq hs ha w
    obtain ⟨hseen, hend⟩ := ih hmasked (settled_settled _)
    refine ⟨?_, hend⟩
    rw [trace, hseen, hanswer, view_eq_of_masked_eq hmasked]
  | @capture s' w copyOut running s₁ s₂ steps seen t ho hs₂ _ ih =>
    obtain ⟨-, hmasked⟩ := act_of_masked_eq (a := .capture copyOut running) hs rfl w
    rw [ho.act_masked_eq, ← hs₂] at hmasked
    obtain ⟨hseen, hend⟩ := ih hmasked (hs₂ ▸ settled_settled _)
    refine ⟨?_, hend⟩
    rw [trace, hseen, view_eq_of_masked_eq hmasked]
    rfl

theorem Calm.settled_eq (hs : s.Calm) : s.settled = s := by
  unfold Calm at hs
  unfold settled
  rw [hs]
  cases s.handle.closed <;> rfl

/-- With no calls in between, a run is the run of its steps. -/
theorem amid_trace (h : ∀ step ∈ steps, step.2.isControl = false) :
    s.Amid steps (s.trace steps) (s.after steps) := by
  induction steps generalizing s with
  | nil => exact .done
  | cons step steps ih =>
    exact .step (h step List.mem_cons_self) (ih fun x hx => h x (List.mem_cons_of_mem _ hx))

/-- **Calls beside a capture do not disturb it.** Take reads, captures and closes on a handle that
was opened, and put any calls in between that ask for something else: sends, filters, fan-outs,
queries of the counts, requests to the API and its stream, let in or refused, whether or not the
kernel makes them fail; in between the reads of a capture as well. Then each step answers what it
answers without them, and every view, of the mapped bytes, the reader with its cursor and counts,
the traffic and the polls, is the one without them. -/
theorem control_calls_disturb_nothing {o : Options} {pageSize : Nat} {k : Kernel}
    (hb : s.Begins o pageSize k) (ha : s.Amid steps seen t) :
    seen = s.trace steps ∧ t.view = (s.after steps).view := by
  obtain ⟨hseen, hend⟩ := ha.masked_eq rfl hb.sound.2.settled_eq
  exact ⟨hseen, (view_eq_of_masked_eq hend).symm⟩

/-- A query that fails, a request between a read and a capture, and a send during the capture. -/
theorem control_calls_disturb_nothing_around :
    let s := small .v2
    let steps : List (Surroundings × Act) :=
      [({ writes := [⟨0, [1, 0, 0, 0, 60, 0, 0, 0, 4, 0, 0, 0, 48]⟩] }, .read),
       ({}, .capture false false)]
    s.Begins (smallOptions .v2) 4096 {} ∧ ∃ seen t, s.Amid steps seen t ∧
      seen = s.trace steps ∧ t.view = (s.after steps).view := by
  intro s steps
  have hsend : ∀ s : Session, s.kernel.running = false →
      ({ s with kernel := s.kernel.within {} }.perform {} (.send [1, 2, 3])).2.kernel.running =
        false :=
    fun s hr => (congrArg (·.kernel.running) (masked_of_control ⟨rfl, rfl⟩ rfl s)).trans hr
  have hrun : ∃ seen t, s.Amid steps seen t :=
    ⟨_, _, .call (w := { failures := [(.statistics, 22)] }) (a := .socketStats) ⟨rfl, rfl⟩ rfl
      (.step rfl (.call (w := {})
        (a := .request { method := "GET", target := "/metrics", client := none }) ⟨rfl, rfl⟩ rfl
        (.capture (.call ⟨rfl, rfl⟩ rfl (.stopped (hsend _ rfl))) rfl .done)))⟩
  obtain ⟨seen, t, ha⟩ := hrun
  obtain ⟨hseen, hview⟩ := control_calls_disturb_nothing (begins_small .v2) ha
  exact ⟨begins_small .v2, seen, t, ha, hseen, hview⟩

end Session

end PacketRing
