import Mathlib
import PacketRing.Api.Router
import PacketRing.Capture.Run
import PacketRing.Proofs.Boundary
import PacketRing.Proofs.Opening

/-!
# Sessions

What can be done with a handle once it is open, in any order and whatever the kernel does meanwhile.

* `Session` : a handle with its kernel, the traffic counted from it and the API that shows it;
* `Surroundings` : what a step meets, the kernel's answers among it;
* `Act`, `Answer`, `Session.perform` : the steps, each a call of one function of the library;
* `Session.settled` : a close that another thread began while a read was waiting comes to its end;
* `Session.act`, `Session.after` : a step as a whole, and a run of steps;
* `Effect` : all that a step can do to a session (`effect_perform`);
* `Session.Sound` : what holds at every point of a session that began with an open
  (`Begins.sound_after`).
-/

namespace PacketRing

/-! ## Steps -/

/-- What a step of a session meets. -/
structure Surroundings where
  interfaces : List Interface := []
  failures : List (FailPoint × Errno) := []
  /-- The polls behind those that are left of the script. -/
  polls : List PollStep := []
  /-- The counts behind those that the kernel still holds. -/
  statistics : List Counts := []
  /-- What the kernel writes before the step. -/
  writes : List Store := []
  wallClock : Int := 0
  uptime : Nat := 0

/-- The kernel as a step meets it. -/
def Kernel.within (k : Kernel) (w : Surroundings) : Kernel :=
  { k with
    interfaces := w.interfaces
    failures := w.failures
    script := k.script ++ w.polls
    statistics := k.statistics ++ w.statistics }.deliver w.writes

/-- A handle in use. -/
structure Session where
  handle : Handle
  kernel : Kernel
  traffic : Traffic := {}
  service : Service

/-- What can be done with a handle that was opened. -/
inductive Act where
  | read
  | readPacket
  | readInto (buffer : Bytes)
  | send (frame : Bytes)
  | attachFilter (program : Program)
  | attachCompiled (descriptor : Nat)
  | joinFanout (type : Fanout) (group : Nat)
  | localStats
  | socketStats
  | capture (copyOut running : Bool)
  | request (r : Request)
  /-- One report of a stream that goes on. -/
  | push
  | stream (client : Option Address) (messages : Nat)
  /-- Also what becomes of a handle that is dropped. -/
  | close

/-- What a step answers. -/
inductive Answer where
  | frame (result : Except CaptureError Frame)
  | packet (result : Except CaptureError Packet)
  | filled (result : Except CaptureError CaptureInfo) (buffer : Bytes)
  | done (result : Except CaptureError Unit)
  | counts (c : LocalCounts)
  | totals (result : Except CaptureError KernelTotals)
  | response (r : Response)
  | report (r : StatsReport)
  | messages (status : Nat) (reports : List StatsReport)
  | none

namespace Session

def perform (s : Session) (w : Surroundings) : Act → Answer × Session
  | .read =>
    let (answer, handle, kernel) := s.handle.read s.kernel
    (.frame answer, { s with handle, kernel })
  | .readPacket =>
    let (answer, handle, kernel) := s.handle.readPacket s.kernel
    (.packet answer, { s with handle, kernel })
  | .readInto buffer =>
    let (answer, filled, handle, kernel) := s.handle.readInto s.kernel buffer
    (.filled answer filled, { s with handle, kernel })
  | .send frame =>
    let (answer, kernel) := s.handle.send s.kernel frame
    (.done answer, { s with kernel })
  | .attachFilter program =>
    let (answer, kernel) := s.handle.attachFilter s.kernel program
    (.done answer, { s with kernel })
  | .attachCompiled descriptor =>
    let (answer, kernel) := s.handle.attachCompiled s.kernel descriptor
    (.done answer, { s with kernel })
  | .joinFanout type group =>
    let (answer, kernel) := s.handle.joinFanout s.kernel type group
    (.done answer, { s with kernel })
  | .localStats => (.counts s.handle.reader.counts, s)
  | .socketStats =>
    let (answer, handle, kernel) := s.handle.socketStats s.kernel
    (.totals answer, { s with handle, kernel })
  | .capture copyOut running =>
    let (handle, traffic, kernel) :=
      s.handle.capture s.traffic w.wallClock copyOut running s.kernel
    (.none, { s with handle, traffic, kernel })
  | .request r =>
    let (answer, service, handle, kernel) :=
      s.service.respond r s.traffic w.uptime s.handle s.kernel
    (.response answer, { s with service, handle, kernel })
  | .push =>
    let (answer, handle, kernel) := s.handle.statsReport s.traffic w.uptime s.kernel
    (.report answer, { s with handle, kernel })
  | .stream client messages =>
    let (status, reports, handle, kernel) :=
      s.service.stream client messages s.traffic w.uptime s.handle s.kernel
    (.messages status reports, { s with handle, kernel })
  | .close =>
    let (handle, kernel) := s.handle.close s.kernel
    (.none, { s with handle, kernel })

/-- The thread that woke the reader goes on with its close, for which it waited until the read was
over. -/
def settled (s : Session) : Session :=
  if s.kernel.woken && !s.handle.closed then
    { s with
      handle := { s.handle with closed := true }
      kernel := s.handle.giveBack s.kernel }
  else s

def act (s : Session) (w : Surroundings) (a : Act) : Answer × Session :=
  let (answer, s) := { s with kernel := s.kernel.within w }.perform w a
  (answer, s.settled)

/-- The session after steps, each with what it meets. -/
def after (s : Session) (steps : List (Surroundings × Act)) : Session :=
  steps.foldl (fun s step => (s.act step.1 step.2).2) s

/-- The session starts with an open that succeeds, of a handle that nobody woke yet, and with
metrics at zero. -/
structure Begins (o : Options) (pageSize : Nat) (k : Kernel) (s : Session) : Prop where
  socketOpen : k.socketOpen = false
  mapping : k.mapping = none
  woken : k.woken = false
  acquired : Handle.acquire o pageSize k = (.ok s.handle, s.kernel)
  metrics : s.service.metrics = {}

end Session

/-! ## What steps do -/

namespace Handle

variable {h : Handle} {k : Kernel}

theorem read_of_closed (hc : h.closed = true) : h.read k = (.error .closed, h, k) := by
  rw [read, if_pos hc]

theorem read_of_open (hc : h.closed = false) :
    h.read k = ((h.reader.next k).1, { h with reader := (h.reader.next k).2.1 },
      (h.reader.next k).2.2) := by
  rw [read, hc, if_neg Bool.false_ne_true]

theorem readPacket_snd (h : Handle) (k : Kernel) : (h.readPacket k).2 = (h.read k).2 := by
  unfold readPacket
  split <;> simp_all

theorem readInto_snd (h : Handle) (k : Kernel) (buffer : Bytes) :
    (h.readInto k buffer).2.2 = (h.read k).2 := by
  unfold readInto
  split <;> simp_all

theorem run_of_closed (hc : h.closed = true) (t : Traffic) (wallClock : Int) (copyOut : Bool) :
    h.run t wallClock copyOut k = (h, t, k) := by
  rw [run]
  dsimp only
  rw [read_of_closed hc]
  split <;> rfl

/-- Whatever ends the loop, it read until then and did nothing else to the handle. -/
theorem run_goes (hc : h.closed = false) (t : Traffic) (wallClock : Int) (copyOut : Bool) :
    ∃ reader, (h.run t wallClock copyOut k).1 = { h with reader } ∧
      h.reader.Goes k reader (h.run t wallClock copyOut k).2.2 := by
  have hread : ∀ h : Handle, ∀ k : Kernel, h.closed = false →
      (h.read k).2.1 = { h with reader := (h.read k).2.1.reader } ∧
        h.reader.Goes k (h.read k).2.1.reader (h.read k).2.2 := by
    intro h k hc
    rw [read_of_open hc]
    exact ⟨rfl, .next .refl⟩
  fun_induction run h t wallClock copyOut k with
  | case1 h t k => exact ⟨h.reader, rfl, .refl⟩
  | case2 h t k _ read f _ ih | case3 h t k _ read _ _ ih =>
    obtain ⟨hh, hg⟩ := hread h k hc
    obtain ⟨reader, hend, hgoes⟩ := ih (by rw [hh]; exact hc)
    exact ⟨reader, by rw [hend, hh], hg.trans hgoes⟩
  | case4 h t k | case5 h t k | case6 h t k =>
    obtain ⟨hh, hg⟩ := hread h k hc
    exact ⟨_, hh, hg⟩

/-- The handle and the kernel after `n` queries. -/
def queried (h : Handle) (k : Kernel) : Nat → Handle × Kernel
  | 0 => (h, k)
  | n + 1 => queried (h.socketStats k).2.1 (h.socketStats k).2.2 n

theorem socketStats_of_closed (hc : h.closed = true) :
    h.socketStats k = (.error .closed, h, k) := by
  rw [socketStats, if_pos hc]

theorem socketStats_of_open (hc : h.closed = false) :
    h.socketStats k = ((h.totals.accumulate (k.counts h.version).1).1,
      { h with totals := (h.totals.accumulate (k.counts h.version).1).2 },
      (k.counts h.version).2) := by
  rw [socketStats, if_neg (Bool.eq_false_iff.1 hc)]

theorem queried_of_closed (hc : h.closed = true) (n : Nat) : h.queried k n = (h, k) := by
  induction n with
  | zero => rfl
  | succ n ih => rw [queried, socketStats_of_closed hc, ih]

theorem socketStats_snd (hc : h.closed = false) :
    ∃ totals statistics, (h.socketStats k).2 = ({ h with totals },
      { k with calls := k.calls ++ [statisticsCall h.version], statistics }) := by
  rw [socketStats_of_open hc]
  unfold Kernel.counts Kernel.queryStatistics Kernel.attempt
  cases k.failure? .statistics with
  | some e => exact ⟨h.totals, k.statistics, rfl⟩
  | none => exact ⟨_, k.statistics.tail, rfl⟩

/-- Queries change the totals, take counts from the kernel, and stand in the log. -/
theorem queried_of_open (hc : h.closed = false) (n : Nat) :
    ∃ totals statistics, h.queried k n = ({ h with totals },
      { k with
        calls := k.calls ++ List.replicate n (statisticsCall h.version)
        statistics }) := by
  induction n generalizing h k with
  | zero => exact ⟨h.totals, k.statistics, by simp [queried]⟩
  | succ n ih =>
    obtain ⟨totals, statistics, hone⟩ := socketStats_snd (k := k) hc
    obtain ⟨totals', statistics', hrest⟩ := ih (h := { h with totals })
      (k := { k with calls := k.calls ++ [statisticsCall h.version], statistics }) hc
    refine ⟨totals', statistics', ?_⟩
    rw [queried, hone, hrest, List.append_assoc]
    rfl

end Handle

namespace Service

theorem reports_snd (t : Traffic) (uptime n : Nat) (h : Handle) (k : Kernel) :
    (reports t uptime h k n).2 = h.queried k n := by
  induction n generalizing h k with
  | zero => rfl
  | succ n ih => exact ih ..

theorem handle_snd (s : Service) (r : Request) (t : Traffic) (uptime : Nat) (h : Handle)
    (k : Kernel) (route : Route) :
    ∃ n, (s.handle r t uptime h k route).2.2 = h.queried k n := by
  cases route with
  | stats | metrics => exact ⟨1, rfl⟩
  | health | interfaces | stream => exact ⟨0, rfl⟩

theorem respond_snd (s : Service) (r : Request) (t : Traffic) (uptime : Nat) (h : Handle)
    (k : Kernel) : ∃ n, (s.respond r t uptime h k).2.2 = h.queried k n := by
  unfold respond
  dsimp only
  split
  · exact ⟨0, rfl⟩
  split
  · exact ⟨0, rfl⟩
  split
  · exact ⟨0, rfl⟩
  obtain ⟨n, hn⟩ := handle_snd s r t uptime h k ‹_›
  refine ⟨n, ?_⟩
  split <;> exact hn

theorem stream_snd (s : Service) (client : Option Address) (messages : Nat) (t : Traffic)
    (uptime : Nat) (h : Handle) (k : Kernel) :
    ∃ n, (s.stream client messages t uptime h k).2.2 = h.queried k n := by
  unfold stream
  split
  · exact ⟨0, rfl⟩
  · exact ⟨messages + 1, reports_snd ..⟩

end Service

/-- `Effect s s'` : a step takes `s` to `s'`. Unless the handle is closed, it may read, ask the
kernel for one thing, query the counts any number of times, or close. -/
inductive Effect (s : Session) : Session → Prop where
  | idle (service : Service) (running : Bool) (idle : Idle) :
    Effect s { s with service, kernel := { s.kernel with running, idle } }
  | reads {reader : Reader} {kernel : Kernel} (traffic : Traffic) :
    s.handle.closed = false → s.handle.reader.Goes s.kernel reader kernel →
      Effect s { s with handle := { s.handle with reader }, kernel, traffic }
  | asks {c : Call} :
    s.handle.closed = false → c.isRequest = true → Effect s { s with kernel := s.kernel.log c }
  | queries (n : Nat) (service : Service) :
    s.handle.closed = false →
      Effect s { s with
        handle := (s.handle.queried s.kernel n).1
        kernel := (s.handle.queried s.kernel n).2
        service }
  | closes :
    s.handle.closed = false →
      Effect s { s with
        handle := { s.handle with closed := true }
        kernel := s.handle.giveBack s.kernel.wake.2 }

namespace Session

variable {s : Session} {w : Surroundings}

theorem effect_refl (s : Session) : Effect s s := .idle s.service s.kernel.running s.kernel.idle

theorem effect_read (s : Session) :
    Effect s { s with
      handle := (s.handle.read s.kernel).2.1
      kernel := (s.handle.read s.kernel).2.2 } := by
  cases hc : s.handle.closed with
  | true =>
    rw [Handle.read_of_closed hc]
    exact effect_refl s
  | false =>
    rw [Handle.read_of_open hc]
    exact .reads s.traffic hc (.next .refl)

theorem effect_request (s : Session) (op : Operation) (ask : Kernel → Except Errno Unit × Kernel)
    (c : Call) (hask : (ask s.kernel).2 = s.kernel.log c) (hc : c.isRequest = true) :
    Effect s { s with kernel := (s.handle.request s.kernel op ask).2 } := by
  unfold Handle.request
  cases hclosed : s.handle.closed with
  | true => exact effect_refl s
  | false =>
    have heffect := Effect.asks hclosed hc
    rw [← hask] at heffect
    rw [if_neg Bool.false_ne_true]
    split <;> simp_all

theorem effect_attachFilter (s : Session) (program : Program) :
    Effect s { s with kernel := (s.handle.attachFilter s.kernel program).2 } := by
  unfold Handle.attachFilter
  split
  · exact effect_refl s
  · split
    · exact effect_refl s
    · exact effect_request s .attachFilter (·.setOption (.filter program)) _ rfl rfl

theorem effect_capture (s : Session) (wallClock : Int) (copyOut running : Bool) :
    Effect s { s with
      handle := (s.handle.capture s.traffic wallClock copyOut running s.kernel).1
      traffic := (s.handle.capture s.traffic wallClock copyOut running s.kernel).2.1
      kernel := (s.handle.capture s.traffic wallClock copyOut running s.kernel).2.2 } := by
  unfold Handle.capture
  dsimp only
  cases hc : s.handle.closed with
  | true =>
    rw [Handle.run_of_closed hc]
    exact .idle s.service running .quiet
  | false =>
    obtain ⟨reader, hend, hgoes⟩ :=
      Handle.run_goes (k := { s.kernel with running, idle := .stopping }) hc s.traffic wallClock
        copyOut
    rw [hend]
    exact .reads _ hc (.trans (.flags running .stopping .refl) (hgoes.flags _ .quiet))

theorem effect_queries (s : Session) (service : Service) {handle : Handle} {kernel : Kernel}
    {n : Nat} (h : (handle, kernel) = s.handle.queried s.kernel n) :
    Effect s { s with handle, kernel, service } := by
  cases hc : s.handle.closed with
  | true =>
    rw [Handle.queried_of_closed hc] at h
    cases h
    exact .idle service s.kernel.running s.kernel.idle
  | false =>
    have heffect := Effect.queries n service hc
    rw [← h] at heffect
    exact heffect

theorem effect_close (s : Session) :
    Effect s { s with
      handle := (s.handle.close s.kernel).1
      kernel := (s.handle.close s.kernel).2 } := by
  unfold Handle.close
  cases hc : s.handle.closed with
  | true => exact effect_refl s
  | false => exact .closes hc

theorem effect_perform (s : Session) (w : Surroundings) (a : Act) : Effect s (s.perform w a).2 := by
  cases a with
  | read => exact effect_read s
  | readPacket =>
    have heffect := effect_read s
    rw [← Handle.readPacket_snd] at heffect
    exact heffect
  | readInto buffer =>
    have heffect := effect_read s
    rw [← Handle.readInto_snd s.handle s.kernel buffer] at heffect
    exact heffect
  | send frame => exact effect_request s .write (·.send frame) _ rfl rfl
  | attachFilter program => exact effect_attachFilter s program
  | attachCompiled descriptor =>
    exact effect_request s .attachCompiled (·.setOption (.compiledFilter descriptor)) _ rfl rfl
  | joinFanout type group =>
    exact effect_request s .joinFanout (·.setOption (.fanout (type.argument group))) _ rfl rfl
  | localStats => exact effect_refl s
  | socketStats => exact effect_queries s s.service (n := 1) rfl
  | capture copyOut running => exact effect_capture s w.wallClock copyOut running
  | request r =>
    obtain ⟨n, hn⟩ := s.service.respond_snd r s.traffic w.uptime s.handle s.kernel
    exact effect_queries s _ hn
  | push => exact effect_queries s s.service (n := 1) rfl
  | stream client messages =>
    obtain ⟨n, hn⟩ := s.service.stream_snd client messages s.traffic w.uptime s.handle s.kernel
    exact effect_queries s _ hn
  | close => exact effect_close s

/-! ## What holds throughout -/

/-- The calls of `log` that give back what an open acquired, once for each. -/
def releases (woken closed : Bool) (length : Nat) : List Call :=
  (if woken then [wakeCall] else []) ++ if closed then [.unmap length] else []

/-- What holds of a session whose handle was opened with `o`, in version `v`, by a kernel with
`before` in its log. A reader may be woken before the handle is closed, but not while no step goes
on (`Calm`). -/
structure Sound (o : Options) (v : Version) (before : List Call) (s : Session) : Prop where
  version : s.handle.version = v
  geometry : s.handle.geometry = o.geometry
  reader : Reader.Reached (opened o 0 v).reader.cursor s.handle.reader
  woken : s.handle.closed = true → s.kernel.woken = true
  socketOpen : s.kernel.socketOpen = !s.handle.closed
  mapped : s.kernel.mapping.isSome = !s.handle.closed
  size : s.handle.closed = false → s.kernel.memory.size = o.geometry.mappingSize
  log : ∃ life, s.kernel.calls = before ++ life ∧ life.filter Call.isRelease =
    releases s.kernel.woken s.handle.closed o.geometry.mappingSize

/-- Whoever woke the reader has closed the handle. -/
def Calm (s : Session) : Prop := s.kernel.woken = s.handle.closed

section Invariant
variable {o : Options} {v : Version} {before : List Call} {s s' : Session} {k' : Kernel}

theorem Sound.waited (h : s.Sound o v before) (hk : s.kernel.Waited k') :
    Sound o v before { s with kernel := k' } := by
  obtain ⟨life, hcalls, hlife⟩ := h.log
  obtain ⟨added, hcalls', hadded⟩ := hk.calls
  refine ⟨h.version, h.geometry, h.reader, fun hc => hk.woken (h.woken hc),
    hk.socketOpen.trans h.socketOpen, hk.mapped.trans h.mapped, fun hc => hk.size.trans (h.size hc),
    ⟨life ++ added, by rw [hcalls', hcalls, List.append_assoc], ?_⟩⟩
  rw [List.filter_append, hlife, Kernel.filter_of_polls (fun _ => Call.isPoll_of_isRelease) hadded]
  have hw := h.woken
  have hw' := hk.woken
  unfold releases
  cases hc : s.handle.closed <;> cases hk : s.kernel.woken <;> cases hk' : k'.woken <;> simp_all

/-- What was counted, and where the reader went, has no part in it. -/
theorem Sound.update (h : s.Sound o v before) {reader : Reader}
    (hr : Reader.Reached (opened o 0 v).reader.cursor reader) (totals : KernelTotals)
    (traffic : Traffic) (service : Service) :
    Sound o v before
      { s with handle := { s.handle with reader, totals }, traffic, service } :=
  ⟨h.version, h.geometry, hr, h.woken, h.socketOpen, h.mapped, h.size, h.log⟩

/-- Calls that neither poll nor release anything keep the session sound. -/
theorem Sound.logged (h : s.Sound o v before) {added : List Call}
    (hadded : ∀ c ∈ added, c.isRelease = false) (statistics : List Counts) :
    Sound o v before { s with
      kernel := { s.kernel with calls := s.kernel.calls ++ added, statistics } } := by
  obtain ⟨life, hcalls, hlife⟩ := h.log
  refine ⟨h.version, h.geometry, h.reader, h.woken, h.socketOpen, h.mapped, h.size,
    ⟨life ++ added, by rw [hcalls, List.append_assoc], ?_⟩⟩
  have hnone : added.filter Call.isRelease = [] :=
    List.filter_eq_nil_iff.2 fun c hc => by rw [hadded c hc]; exact Bool.false_ne_true
  rw [List.filter_append, hlife, hnone, List.append_nil]

/-- Giving everything back ends a session whose reader is woken. -/
theorem Sound.giveBack (h : s.Sound o v before) (hc : s.handle.closed = false)
    (hw : s.kernel.woken = true) :
    Sound o v before { s with
      handle := { s.handle with closed := true }
      kernel := s.handle.giveBack s.kernel } := by
  obtain ⟨life, hcalls, hlife⟩ := h.log
  refine ⟨h.version, h.geometry, h.reader, fun _ => hw, rfl, rfl, nofun,
    ⟨life ++ [.unmap o.geometry.mappingSize], ?_, ?_⟩⟩
  · rw [← List.append_assoc, ← hcalls, ← h.geometry]
    rfl
  · rw [List.filter_append, hlife, hc, hw]
    change _ = releases s.kernel.woken true _
    rw [hw]
    rfl

theorem Sound.effect (h : s.Sound o v before) (hcalm : s.Calm) (he : Effect s s') :
    s'.Sound o v before := by
  cases he with
  | idle service running idle =>
    have hk := h.waited (Kernel.waited_flags s.kernel s.kernel.script running idle)
    exact hk.update h.reader s.handle.totals s.traffic service
  | reads traffic hc hgoes =>
    have hk := h.waited hgoes.waited
    exact hk.update (hgoes.reached h.reader) s.handle.totals traffic s.service
  | asks hc hreq =>
    refine h.logged (fun c hmem => ?_) s.kernel.statistics
    rw [List.mem_singleton.1 hmem]
    exact Call.isRelease_of_isRequest hreq
  | queries n service hc =>
    obtain ⟨totals, statistics, hend⟩ := Handle.queried_of_open (k := s.kernel) hc n
    have hnone : ∀ c ∈ List.replicate n (statisticsCall s.handle.version),
        c.isRelease = false := by
      intro c hmem
      rw [List.eq_of_mem_replicate hmem]
      rfl
    have hk := h.logged hnone statistics
    rw [hend]
    exact hk.update h.reader totals s.traffic service
  | closes hc =>
    have hw : s.kernel.woken = false := hcalm.trans hc
    have hk : s.kernel.Waited s.kernel.wake.2 :=
      ⟨⟨[wakeCall], rfl, by rw [hw]; rfl⟩, fun _ => rfl, rfl, rfl, rfl⟩
    exact (h.waited hk).giveBack hc rfl

theorem Sound.settled (h : s.Sound o v before) : s.settled.Sound o v before ∧ s.settled.Calm := by
  unfold Session.settled
  split
  · next hw =>
    simp only [Bool.and_eq_true, Bool.not_eq_true'] at hw
    exact ⟨h.giveBack hw.2 hw.1, hw.1⟩
  · next hw =>
    refine ⟨h, ?_⟩
    have hwoken := h.woken
    unfold Calm
    cases hc : s.handle.closed <;> cases hk : s.kernel.woken <;> simp_all

theorem waited_within (k : Kernel) (w : Surroundings) : k.Waited (k.within w) := by
  unfold Kernel.within
  refine .trans ?_ (Kernel.waited_deliver _ w.writes)
  exact ⟨(Kernel.Waited.refl k).calls, id, rfl, rfl, rfl⟩

theorem Sound.act (h : s.Sound o v before) (hcalm : s.Calm) (w : Surroundings) (a : Act) :
    (s.act w a).2.Sound o v before ∧ (s.act w a).2.Calm := by
  have hwithin := h.waited (waited_within s.kernel w)
  refine (hwithin.effect ?_ (effect_perform _ w a)).settled
  exact hcalm

theorem Sound.after (h : s.Sound o v before) (hcalm : s.Calm)
    (steps : List (Surroundings × Act)) :
    (s.after steps).Sound o v before ∧ (s.after steps).Calm := by
  induction steps generalizing s with
  | nil => exact ⟨h, hcalm⟩
  | cons step steps ih =>
    obtain ⟨hact, hcalm⟩ := h.act hcalm step.1 step.2
    exact ih hact hcalm

/-! ## The start -/

variable {pageSize : Nat} {k : Kernel}

theorem Begins.state (hb : s.Begins o pageSize k) :
    o.check pageSize = .ok () ∧ ∃ ifindex v, s.handle = opened o ifindex v ∧ s.kernel =
      { Handle.withRing k o (performedCalls (openSteps o ifindex k)) with socketOpen := true } := by
  have hopened := hb.acquired
  cases hadmitted : Handle.admitted o pageSize k with
  | error e =>
    rw [Handle.acquire_of_refused hadmitted] at hopened
    cases hopened
  | ok ifindex =>
    obtain ⟨e, -, hend⟩ | ⟨-, v, -, hend⟩ :=
      Handle.acquire_cases hb.socketOpen hb.mapping hadmitted
    · rw [hopened] at hend
      cases hend
    · rw [hopened] at hend
      obtain ⟨hh, hk⟩ := Prod.mk.inj hend
      refine ⟨?_, ifindex, v, Except.ok.inj hh, hk⟩
      unfold Handle.admitted at hadmitted
      split at hadmitted
      · cases hadmitted
      · assumption

theorem Begins.sound (hb : s.Begins o pageSize k) :
    s.Sound o s.handle.version k.calls ∧ s.Calm := by
  obtain ⟨-, ifindex, v, hh, hk⟩ := hb.state
  have hnone : (performedCalls (openSteps o ifindex k)).filter Call.isRelease = [] := by
    refine List.filter_eq_nil_iff.2 fun c hc => ?_
    obtain hc | hc | ⟨v, rfl⟩ | ⟨v, hc⟩ := Handle.mem_performedCalls hc
    · rw [List.mem_singleton.1 hc]
      exact Bool.false_ne_true
    · rw [List.mem_singleton.1 hc]
      exact Bool.false_ne_true
    · exact Bool.false_ne_true
    · simp only [List.mem_cons, List.not_mem_nil, or_false] at hc
      rcases hc with rfl | rfl | rfl | rfl <;> exact Bool.false_ne_true
  refine ⟨?_, ?_⟩
  · refine ⟨rfl, ?_, ?_, ?_, ?_, ?_, ?_, ⟨performedCalls (openSteps o ifindex k), ?_, ?_⟩⟩
    · rw [hh]
      rfl
    · rw [hh]
      exact .start
    · rw [hh]
      nofun
    · rw [hh, hk]
      rfl
    · rw [hh, hk]
      rfl
    · rw [hk]
      exact fun _ => rfl
    · rw [hk]
      rfl
    · rw [hnone, hh, hk]
      change _ = releases k.woken false _
      rw [hb.woken]
      rfl
  · unfold Calm
    rw [hh, hk]
    exact hb.woken

theorem Begins.sound_after (hb : s.Begins o pageSize k) (steps : List (Surroundings × Act)) :
    (s.after steps).Sound o s.handle.version k.calls ∧ (s.after steps).Calm :=
  hb.sound.1.after hb.sound.2 steps

end Invariant

/-! ## A small session -/

def smallOptions (v : Version) : Options where
  version := .exactly v
  frameSize := 2048
  blockSize := 4096
  numBlocks := 2

/-- The start of a session on a ring of two blocks. -/
def small (v : Version) : Session where
  handle := opened (smallOptions v) 0 v
  kernel := (Handle.acquire (smallOptions v) 4096 {}).2
  service := { allowlist := .everyone }

theorem begins_small (v : Version) : (small v).Begins (smallOptions v) 4096 {} := by
  cases v <;> exact ⟨rfl, rfl, rfl, Prod.ext (by decide +kernel) rfl, rfl⟩

end Session

end PacketRing
