import Mathlib
import PacketRing.Capture.Handle
import PacketRing.Proofs.Checking

/-!
# Opening a capture

* `OpenStep` : a step of opening, with its calls and the error that it ends in if it fails;
* `openSteps` : the steps of opening once options and interface are accepted;
* `performedCalls`, `firstFault?` : the steps up to the first that fails, and its error;
* `negotiate_eq` : versions are tried until one is taken;
* `Ends` : what steps come to; `setUpRing_ends`, `setUp_ends` : what those from the ring request on
  and those behind the socket come to, and `acquire_cases` all of them;
* `acquire_all_or_nothing` : opening performs its steps up to the first that fails, and then leaves
  nothing behind but its calls in the log.
-/

namespace PacketRing

/-! ## The steps -/

namespace Kernel

def logged (k : Kernel) (calls : List Call) : Kernel := { k with calls := k.calls ++ calls }

/-- The kernel with more calls in its log and a new ring of `length` bytes mapped. -/
def mapped (k : Kernel) (calls : List Call) (length : Nat) : Kernel :=
  { k.logged calls with mapping := some (.zeroed length) }

/-- The kernel with more calls in its log and the socket open. -/
def withSocket (k : Kernel) (calls : List Call) : Kernel :=
  { k.logged calls with socketOpen := true }

def rejects (k : Kernel) (v : Version) : Bool := (k.failure? (.version v)).isSome

/-- The first version that the kernel takes. -/
def accepted? (k : Kernel) (vs : List Version) : Option Version := vs.find? fun v => !k.rejects v

/-- The versions that are tried until the kernel takes one. -/
def tried (k : Kernel) (vs : List Version) : List Version :=
  vs.takeWhile k.rejects ++ (k.accepted? vs).toList

/-- Why mapping a ring of `length` bytes fails, if it does. -/
def mapFault? (k : Kernel) (length : Nat) : Option SetupCause :=
  match k.failure? .map with
  | some e => some (.os e)
  | none =>
    if (k.failure? .mapNull).isSome then some .noRing
    else if k.maxMapping < length then some (.os outOfMemory)
    else none

end Kernel

/-- A step of opening: its calls, and the error that it ends in if it fails. -/
structure OpenStep where
  calls : List Call
  fault : Option CaptureError

/-- The steps up to the first that fails. -/
def performed : List OpenStep → List OpenStep
  | [] => []
  | s :: rest => if s.fault.isSome then [s] else s :: performed rest

def firstFault? (steps : List OpenStep) : Option CaptureError := steps.findSome? (·.fault)

def performedCalls (steps : List OpenStep) : List Call := (performed steps).flatMap (·.calls)

def mapCall (length : Nat) : Call := .map length readWrite sharedMapping 0

def statisticsCall (v : Version) : Call :=
  .getOption packetLevel statisticsOption (Kernel.statisticsLength v)

def ringCall (o : Options) (v : Version) : Call := .setOption (.receiveRing (o.geometry.request v))

/-- The steps of opening from the ring request on. -/
def ringSteps (o : Options) (k : Kernel) (v : Version) : List OpenStep :=
  [ ⟨[ringCall o v],
      (k.failure? .requestRing).map fun e => .setup .requestRing (.os e)⟩,
    ⟨[mapCall o.geometry.mappingSize],
      (k.mapFault? o.geometry.mappingSize).map fun cause => .setup .map cause⟩,
    ⟨[.eventfd 0 eventFlags], (k.failure? .createWaker).map fun e => .setup .createWaker (.os e)⟩,
    ⟨[statisticsCall v], (k.failure? .statistics).map fun e => .syscall .queryStatistics e⟩ ]

/-- The settling on a version. It fails if no candidate is taken, with the error number of the last
one. -/
def versionStep (k : Kernel) (vs : List Version) : OpenStep where
  calls := (k.tried vs).map fun v => .setOption (.version v)
  fault :=
    match k.accepted? vs with
    | some _ => none
    | none => some (.configuration .noVersion (vs.getLast?.bind fun v => k.failure? (.version v)))

def bindStep (k : Kernel) (ifindex : Int) : OpenStep where
  calls := [.bind (linkAddress ifindex)]
  fault := (k.failure? .bind).map fun e => .syscall .bind e

def setUpSteps (o : Options) (ifindex : Int) (k : Kernel) : List OpenStep :=
  bindStep k ifindex :: versionStep k o.version.candidates ::
    (k.accepted? o.version.candidates).elim [] (ringSteps o k)

def socketStep (o : Options) (k : Kernel) : OpenStep where
  calls := [.socket packetFamily (o.socketType.number + closeOnExec) allProtocols]
  fault := (k.failure? .socket).map fun e => .syscall .socket e

/-- The steps of opening for options and an interface that are accepted. -/
def openSteps (o : Options) (ifindex : Int) (k : Kernel) : List OpenStep :=
  socketStep o k :: setUpSteps o ifindex k

/-- What a failed opening adds to the log behind its steps: the unmapping of what they mapped. -/
def unmapCalls (k : Kernel) (length : Nat) (calls : List Call) : List Call :=
  if mapCall length ∈ calls ∧ k.mapFault? length = none then [.unmap length] else []

def opened (o : Options) (ifindex : Int) (v : Version) : Handle where
  version := v
  ifindex
  geometry := o.geometry
  addVlanHeader := o.addVlanHeader
  reader :=
    { cursor :=
        { version := v, geometry := o.geometry
          snapLength := o.snapLength, timeout := o.pollTimeout } }

section Steps
variable {s : OpenStep} {steps : List OpenStep} {e : CaptureError}

theorem firstFault?_of_fault (h : s.fault = some e) : firstFault? (s :: steps) = some e := by
  unfold firstFault?
  rw [List.findSome?_cons, h]

theorem firstFault?_of_ok (h : s.fault = none) : firstFault? (s :: steps) = firstFault? steps := by
  unfold firstFault?
  rw [List.findSome?_cons, h]

theorem performedCalls_of_fault (h : s.fault = some e) : performedCalls (s :: steps) = s.calls := by
  unfold performedCalls performed
  rw [h, Option.isSome_some, if_pos rfl, List.flatMap_singleton]

theorem performedCalls_of_ok (h : s.fault = none) :
    performedCalls (s :: steps) = s.calls ++ performedCalls steps := by
  unfold performedCalls
  rw [performed, h, Option.isSome_none, if_neg Bool.false_ne_true, List.flatMap_cons]

theorem performed_subset (steps : List OpenStep) : performed steps ⊆ steps := by
  induction steps with
  | nil => exact List.Subset.refl []
  | cons s rest ih =>
    unfold performed
    split
    · exact List.cons_subset_cons s (List.nil_subset rest)
    · exact List.cons_subset_cons s ih

variable {k : Kernel} {length : Nat} {calls : List Call}

theorem unmapCalls_of_not_mem (h : mapCall length ∉ calls) : unmapCalls k length calls = [] :=
  if_neg fun hc => h hc.1

theorem unmapCalls_append {calls' : List Call} (h : mapCall length ∉ calls) :
    unmapCalls k length (calls ++ calls') = unmapCalls k length calls' := by
  unfold unmapCalls
  simp only [List.mem_append, h, false_or]

end Steps

/-! ## What the parts answer and log -/

namespace Kernel

variable {k : Kernel} {c : Call} {cs : List Call} {p : FailPoint} {v : Version} {e : Errno}

theorem logged_nil (k : Kernel) : k.logged [] = k := by
  unfold logged
  rw [List.append_nil]

theorem logged_logged (k : Kernel) (cs cs' : List Call) :
    (k.logged cs).logged cs' = k.logged (cs ++ cs') := by
  unfold logged
  dsimp only
  rw [List.append_assoc]

theorem logged_mapped (k : Kernel) (cs cs' : List Call) (length : Nat) :
    (k.mapped cs length).logged cs' = k.mapped (cs ++ cs') length := by
  unfold mapped logged
  dsimp only
  rw [List.append_assoc]

theorem mapped_logged (k : Kernel) (cs cs' : List Call) (length : Nat) :
    (k.logged cs).mapped cs' length = k.mapped (cs ++ cs') length := by
  unfold mapped logged
  dsimp only
  rw [List.append_assoc]

theorem unmap_mapped (hm : k.mapping = none) (cs : List Call) (length : Nat) :
    ((k.mapped cs length).unmap length).2 = k.logged (cs ++ [.unmap length]) := by
  unfold unmap attempt log mapped logged
  dsimp only
  rw [List.append_assoc, ← hm]

theorem attempt_of_none (h : k.failure? p = none) : k.attempt c p = (.ok (), k.logged [c]) := by
  unfold attempt
  rw [h]
  rfl

theorem attempt_of_some (h : k.failure? p = some e) : k.attempt c p = (.error e, k.logged [c]) := by
  unfold attempt
  rw [h]
  rfl

section Versions
variable {vs : List Version}

theorem accepted?_of_ok (h : k.failure? (.version v) = none) :
    k.accepted? (v :: vs) = some v := by
  unfold accepted? rejects
  rw [List.find?_cons, h]
  rfl

theorem accepted?_of_fault (h : k.failure? (.version v) = some e) :
    k.accepted? (v :: vs) = k.accepted? vs := by
  unfold accepted? rejects
  rw [List.find?_cons, h]
  rfl

theorem tried_of_ok (h : k.failure? (.version v) = none) : k.tried (v :: vs) = [v] := by
  unfold tried
  rw [accepted?_of_ok h, List.takeWhile_cons, rejects, h]
  rfl

theorem tried_of_fault (h : k.failure? (.version v) = some e) :
    k.tried (v :: vs) = v :: k.tried vs := by
  unfold tried
  rw [accepted?_of_fault h, List.takeWhile_cons, show k.rejects v = true by rw [rejects, h]; rfl]
  rfl

end Versions

theorem negotiate_eq (k : Kernel) (last : Option Errno) (vs : List Version) :
    k.negotiate last vs =
      (match k.accepted? vs with
        | some v => .ok v
        | none => .error (.configuration .noVersion
            (vs.getLast?.elim last fun v => k.failure? (.version v))),
        k.logged ((k.tried vs).map fun v => .setOption (.version v))) := by
  induction vs generalizing k last with
  | nil =>
    show _ = (_, k.logged [])
    rw [logged_nil]
    rfl
  | cons v rest ih =>
    cases hf : k.failure? (.version v) with
    | none =>
      have hset : k.setOption (.version v) = (.ok (), k.logged [.setOption (.version v)]) :=
        attempt_of_none hf
      rw [negotiate, hset, accepted?_of_ok hf, tried_of_ok hf]
      rfl
    | some e =>
      have hset : k.setOption (.version v) = (.error e, k.logged [.setOption (.version v)]) :=
        attempt_of_some hf
      have hlast : (v :: rest).getLast?.elim last (fun v => k.failure? (.version v)) =
          rest.getLast?.elim (some e) (fun v => k.failure? (.version v)) := by
        rw [List.getLast?_cons]
        cases rest.getLast? with
        | none => exact hf
        | some w => rfl
      rw [negotiate, hset]
      dsimp only
      rw [ih, logged_logged, accepted?_of_fault hf, tried_of_fault hf, hlast]
      rfl

theorem failure?_logged (k : Kernel) (cs : List Call) : (k.logged cs).failure? = k.failure? := rfl

theorem maxMapping_logged (k : Kernel) (cs : List Call) :
    (k.logged cs).maxMapping = k.maxMapping := rfl

theorem mapRing_of_fault {length : Nat} {cause : SetupCause} (hlen : length ≠ 0)
    (h : k.mapFault? length = some cause) :
    k.mapRing length = (.error (.setup .map cause), k.logged [mapCall length]) := by
  unfold mapFault? at h
  unfold mapRing map
  rw [if_neg hlen]
  split at h
  · next e hf =>
    cases h
    rw [attempt_of_some hf]
    rfl
  · next hf =>
    rw [attempt_of_none hf]
    dsimp only
    rw [failure?_logged, maxMapping_logged]
    split at h
    · next hnull =>
      cases h
      rw [if_pos hnull]
      rfl
    · next hnull =>
      rw [if_neg hnull]
      split at h
      · next hlarge =>
        cases h
        rw [if_pos hlarge]
        rfl
      · cases h

theorem mapRing_of_ok {length : Nat} (hlen : length ≠ 0) (h : k.mapFault? length = none) :
    k.mapRing length = (.ok (), k.mapped [mapCall length] length) := by
  unfold mapFault? at h
  unfold mapRing map
  rw [if_neg hlen]
  split at h
  · cases h
  · next hf =>
    rw [attempt_of_none hf]
    dsimp only
    rw [failure?_logged, maxMapping_logged]
    split at h
    · cases h
    · next hnull =>
      rw [if_neg hnull]
      split at h
      · cases h
      · next hlarge =>
        rw [if_neg hlarge]
        rfl

end Kernel

namespace Handle

open Kernel

variable {k : Kernel} {v : Version} {e : Errno}

theorem finish_of_waker_fault (h : k.failure? .createWaker = some e) :
    finish v k = (.error (.setup .createWaker (.os e)), k.logged [.eventfd 0 eventFlags]) := by
  unfold finish createWaker
  rw [attempt_of_some h]

theorem finish_of_statistics_fault (h : k.failure? .createWaker = none)
    (h' : k.failure? .statistics = some e) :
    finish v k = (.error (.syscall .queryStatistics e),
      k.logged [.eventfd 0 eventFlags, statisticsCall v]) := by
  have hq : (k.logged [.eventfd 0 eventFlags]).attempt (statisticsCall v) .statistics =
      (.error e, (k.logged [.eventfd 0 eventFlags]).logged [statisticsCall v]) :=
    attempt_of_some h'
  unfold finish createWaker counts queryStatistics
  rw [attempt_of_none h]
  dsimp only
  rw [show Call.getOption packetLevel statisticsOption (statisticsLength v) = statisticsCall v from
    rfl, hq, logged_logged]
  rfl

theorem finish_of_ok (h : k.failure? .createWaker = none) (h' : k.failure? .statistics = none) :
    finish v k = (.ok {}, { k.logged [.eventfd 0 eventFlags, statisticsCall v] with
      statistics := k.statistics.tail }) := by
  have hq : (k.logged [.eventfd 0 eventFlags]).attempt (statisticsCall v) .statistics =
      (.ok (), (k.logged [.eventfd 0 eventFlags]).logged [statisticsCall v]) :=
    attempt_of_none h'
  unfold finish createWaker counts queryStatistics
  rw [attempt_of_none h]
  dsimp only
  rw [show Call.getOption packetLevel statisticsOption (statisticsLength v) = statisticsCall v from
    rfl, hq, logged_logged]
  rfl

/-! ## From the ring request on -/

def setUpRing (o : Options) (ifindex : Int) (v : Version) (k : Kernel) :
    Except CaptureError Handle × Kernel :=
  match k.setOption (.receiveRing (o.geometry.request v)) with
  | (.error e, k) => (.error (.setup .requestRing (.os e)), k)
  | (.ok (), k) =>
  match k.mapRing o.geometry.mappingSize with
  | (.error e, k) => (.error e, k)
  | (.ok (), k) =>
  match finish v k with
  | (.error e, k) => (.error e, (k.unmap o.geometry.mappingSize).2)
  | (.ok totals, k) => (.ok { opened o ifindex v with totals }, k)

def withRing (k : Kernel) (o : Options) (calls : List Call) : Kernel :=
  { k.mapped calls o.geometry.mappingSize with statistics := k.statistics.tail }

section Ring
variable {o : Options} {ifindex : Int} {cause : SetupCause}

theorem setUpRing_of_request_fault (hr : k.failure? .requestRing = some e) :
    setUpRing o ifindex v k = (.error (.setup .requestRing (.os e)), k.logged [ringCall o v]) := by
  unfold setUpRing
  rw [show k.setOption (.receiveRing _) = _ from attempt_of_some hr]
  rfl

theorem setUpRing_of_map_fault (hlen : o.geometry.mappingSize ≠ 0)
    (hr : k.failure? .requestRing = none) (hf : k.mapFault? o.geometry.mappingSize = some cause) :
    setUpRing o ifindex v k = (.error (.setup .map cause),
      k.logged [ringCall o v, mapCall o.geometry.mappingSize]) := by
  unfold setUpRing
  rw [show k.setOption (.receiveRing _) = _ from attempt_of_none hr]
  dsimp only
  rw [mapRing_of_fault hlen (show (k.logged _).mapFault? _ = _ from hf), logged_logged]
  rfl

theorem setUpRing_of_mapped (hlen : o.geometry.mappingSize ≠ 0)
    (hr : k.failure? .requestRing = none) (hf : k.mapFault? o.geometry.mappingSize = none) :
    setUpRing o ifindex v k =
      match finish v (k.mapped [ringCall o v, mapCall o.geometry.mappingSize]
        o.geometry.mappingSize) with
      | (.error e, k) => (.error e, (k.unmap o.geometry.mappingSize).2)
      | (.ok totals, k) => (.ok { opened o ifindex v with totals }, k) := by
  unfold setUpRing
  rw [show k.setOption (.receiveRing _) = _ from attempt_of_none hr]
  dsimp only
  rw [mapRing_of_ok hlen (show (k.logged _).mapFault? _ = _ from hf), mapped_logged]
  rfl

theorem setUpRing_of_waker_fault (hm : k.mapping = none) (hlen : o.geometry.mappingSize ≠ 0)
    (hr : k.failure? .requestRing = none) (hf : k.mapFault? o.geometry.mappingSize = none)
    (hw : k.failure? .createWaker = some e) :
    setUpRing o ifindex v k = (.error (.setup .createWaker (.os e)),
      k.logged [ringCall o v, mapCall o.geometry.mappingSize, .eventfd 0 eventFlags,
        .unmap o.geometry.mappingSize]) := by
  rw [setUpRing_of_mapped hlen hr hf,
    finish_of_waker_fault (show (k.mapped _ _).failure? _ = _ from hw)]
  dsimp only
  rw [logged_mapped, unmap_mapped hm]
  rfl

theorem setUpRing_of_statistics_fault (hm : k.mapping = none) (hlen : o.geometry.mappingSize ≠ 0)
    (hr : k.failure? .requestRing = none) (hf : k.mapFault? o.geometry.mappingSize = none)
    (hw : k.failure? .createWaker = none) (hs : k.failure? .statistics = some e) :
    setUpRing o ifindex v k = (.error (.syscall .queryStatistics e),
      k.logged [ringCall o v, mapCall o.geometry.mappingSize, .eventfd 0 eventFlags,
        statisticsCall v, .unmap o.geometry.mappingSize]) := by
  rw [setUpRing_of_mapped hlen hr hf, finish_of_statistics_fault
    (show (k.mapped _ _).failure? _ = _ from hw) (show (k.mapped _ _).failure? _ = _ from hs)]
  dsimp only
  rw [logged_mapped, unmap_mapped hm]
  rfl

theorem setUpRing_of_ok (hlen : o.geometry.mappingSize ≠ 0)
    (hr : k.failure? .requestRing = none) (hf : k.mapFault? o.geometry.mappingSize = none)
    (hw : k.failure? .createWaker = none) (hs : k.failure? .statistics = none) :
    setUpRing o ifindex v k = (.ok (opened o ifindex v),
      withRing k o [ringCall o v, mapCall o.geometry.mappingSize, .eventfd 0 eventFlags,
        statisticsCall v]) := by
  rw [setUpRing_of_mapped hlen hr hf, finish_of_ok
    (show (k.mapped _ _).failure? _ = _ from hw) (show (k.mapped _ _).failure? _ = _ from hs)]
  dsimp only
  rw [logged_mapped]
  rfl

theorem withRing_logged (k : Kernel) (o : Options) (cs cs' : List Call) :
    withRing (k.logged cs) o cs' = withRing k o (cs ++ cs') := by
  unfold withRing
  rw [mapped_logged]
  rfl

/-- What steps of opening come to: the error of the first that fails, with nothing left behind but
calls in the log; or else a handle and a ring. -/
def Ends (o : Options) (ifindex : Int) (k : Kernel) (steps : List OpenStep)
    (answer : Except CaptureError Handle × Kernel) : Prop :=
  (∃ e, firstFault? steps = some e ∧ answer = (.error e, k.logged (performedCalls steps ++
    unmapCalls k o.geometry.mappingSize (performedCalls steps)))) ∨
  firstFault? steps = none ∧ ∃ v, k.accepted? o.version.candidates = some v ∧
    answer = (.ok (opened o ifindex v), withRing k o (performedCalls steps))

theorem Ends.of_fault {s : OpenStep} {steps : List OpenStep} {err : CaptureError}
    (hf : s.fault = some err) (hmap : mapCall o.geometry.mappingSize ∉ s.calls) :
    Ends o ifindex k (s :: steps) (.error err, k.logged s.calls) := by
  refine Or.inl ⟨err, firstFault?_of_fault hf, ?_⟩
  rw [performedCalls_of_fault hf, unmapCalls_of_not_mem hmap, List.append_nil]

/-- The calls of a step that does not fail have no part in what the steps behind it come to. -/
theorem Ends.of_ok {s : OpenStep} {steps : List OpenStep}
    {answer : Except CaptureError Handle × Kernel} (hf : s.fault = none)
    (hmap : mapCall o.geometry.mappingSize ∉ s.calls)
    (h : Ends o ifindex (k.logged s.calls) steps answer) :
    Ends o ifindex k (s :: steps) answer := by
  unfold Ends
  rw [firstFault?_of_ok hf, performedCalls_of_ok hf, unmapCalls_append hmap]
  rcases h with ⟨err, hfault, hanswer⟩ | ⟨hfault, v, ha, hanswer⟩
  · refine Or.inl ⟨err, hfault, hanswer.trans ?_⟩
    rw [logged_logged, ← List.append_assoc]
    rfl
  · refine Or.inr ⟨hfault, v, ha, hanswer.trans ?_⟩
    rw [withRing_logged]

theorem setUpRing_ends (ha : k.accepted? o.version.candidates = some v)
    (hlen : o.geometry.mappingSize ≠ 0) (hm : k.mapping = none) :
    Ends o ifindex k (ringSteps o k v) (setUpRing o ifindex v k) := by
  -- One case for each step that can fail, and the last for none.
  cases hr : k.failure? .requestRing with
  | some e =>
    rw [setUpRing_of_request_fault hr]
    refine Ends.of_fault ?_ ?_
    · simp [hr]
    · simp [ringCall, mapCall]
  | none =>
  cases hf : k.mapFault? o.geometry.mappingSize with
  | some cause =>
    refine Or.inl ⟨.setup .map cause, ?_, (setUpRing_of_map_fault hlen hr hf).trans ?_⟩
    · simp [ringSteps, firstFault?, hr, hf]
    · simp [ringSteps, performedCalls, performed, unmapCalls, hr, hf]
  | none =>
  cases hw : k.failure? .createWaker with
  | some e =>
    refine Or.inl ⟨.setup .createWaker (.os e), ?_,
      (setUpRing_of_waker_fault hm hlen hr hf hw).trans ?_⟩
    · simp [ringSteps, firstFault?, hr, hf, hw]
    · simp [ringSteps, performedCalls, performed, unmapCalls, hr, hf, hw]
  | none =>
  cases hs : k.failure? .statistics with
  | some e =>
    refine Or.inl ⟨.syscall .queryStatistics e, ?_,
      (setUpRing_of_statistics_fault hm hlen hr hf hw hs).trans ?_⟩
    · simp [ringSteps, firstFault?, hr, hf, hw, hs]
    · simp [ringSteps, performedCalls, performed, unmapCalls, hr, hf, hw, hs]
  | none =>
    refine Or.inr ⟨?_, v, ha, (setUpRing_of_ok hlen hr hf hw hs).trans ?_⟩
    · simp [ringSteps, firstFault?, hr, hf, hw, hs]
    · simp [ringSteps, performedCalls, performed, hr, hf, hw, hs]

/-! ## With the socket open -/

theorem setUp_eq (o : Options) (ifindex : Int) (k : Kernel) :
    setUp o ifindex k =
      match k.bind ifindex with
      | (.error e, k) => (.error (.syscall .bind e), k)
      | (.ok (), k) =>
      match k.negotiate none o.version.candidates with
      | (.error e, k) => (.error e, k)
      | (.ok v, k) => setUpRing o ifindex v k := rfl

theorem setUp_of_bind_fault (hb : k.failure? .bind = some e) :
    setUp o ifindex k = (.error (.syscall .bind e), k.logged (bindStep k ifindex).calls) := by
  rw [setUp_eq, show k.bind ifindex = _ from attempt_of_some hb]
  rfl

theorem setUp_of_bind_ok (hb : k.failure? .bind = none) :
    setUp o ifindex k =
      match k.accepted? o.version.candidates with
      | some v => setUpRing o ifindex v
          (k.logged ((bindStep k ifindex).calls ++ (versionStep k o.version.candidates).calls))
      | none => (.error (.configuration .noVersion
            (o.version.candidates.getLast?.bind fun v => k.failure? (.version v))),
          k.logged ((bindStep k ifindex).calls ++ (versionStep k o.version.candidates).calls)) := by
  have hnegotiate := negotiate_eq (k.logged [.bind (linkAddress ifindex)]) none o.version.candidates
  rw [show (k.logged [.bind (linkAddress ifindex)]).accepted? o.version.candidates =
    k.accepted? o.version.candidates from rfl, logged_logged] at hnegotiate
  rw [setUp_eq, show k.bind ifindex = _ from attempt_of_none hb]
  dsimp only
  rw [hnegotiate]
  cases k.accepted? o.version.candidates with
  | some v => rfl
  | none => cases o.version.candidates.getLast? <;> rfl

theorem setUp_ends (o : Options) (ifindex : Int) (k : Kernel)
    (hlen : o.geometry.mappingSize ≠ 0) (hm : k.mapping = none) :
    Ends o ifindex k (setUpSteps o ifindex k) (setUp o ifindex k) := by
  have hmap : mapCall o.geometry.mappingSize ∉ (bindStep k ifindex).calls := by
    simp [bindStep, mapCall]
  have hmap' : mapCall o.geometry.mappingSize ∉ (versionStep k o.version.candidates).calls := by
    simp [versionStep, mapCall]
  unfold setUpSteps
  cases hb : k.failure? .bind with
  | some e =>
    rw [setUp_of_bind_fault hb]
    exact Ends.of_fault (by simp [bindStep, hb]) hmap
  | none =>
  rw [setUp_of_bind_ok hb]
  refine Ends.of_ok (by simp [bindStep, hb]) hmap ?_
  cases ha : k.accepted? o.version.candidates with
  | none =>
    dsimp only
    rw [← logged_logged]
    exact Ends.of_fault (by simp [versionStep, ha]) hmap'
  | some v =>
    refine Ends.of_ok (by simp [versionStep, ha]) hmap' ?_
    rw [logged_logged]
    exact setUpRing_ends ha hlen hm

end Ring

/-! ## Opening -/

/-- The interface that an open is let through to, with its options accepted. -/
def admitted (o : Options) (pageSize : Nat) (k : Kernel) : Except CaptureError Int :=
  match o.check pageSize with
  | .error e => .error e
  | .ok () => k.resolveInterface o.interface

/-- Opening at an interface that the kernel knows. -/
def acquireAt (o : Options) (ifindex : Int) (k : Kernel) : Except CaptureError Handle × Kernel :=
  match k.openSocket o.socketType with
  | (.error e, k) => (.error (.syscall .socket e), k)
  | (.ok (), k) =>
  match setUp o ifindex k with
  | (.error e, k) => (.error e, k.closeSocket)
  | (.ok h, k) => (.ok h, k)

theorem acquire_eq (o : Options) (pageSize : Nat) (k : Kernel) :
    acquire o pageSize k =
      match admitted o pageSize k with
      | .error e => (.error e, k)
      | .ok ifindex => acquireAt o ifindex k := by
  unfold acquire admitted
  cases o.check pageSize with
  | error e => rfl
  | ok => rfl

section Open
variable {o : Options} {pageSize : Nat} {ifindex : Int} {refusal : CaptureError}

theorem acquire_of_refused (h : admitted o pageSize k = .error refusal) :
    acquire o pageSize k = (.error refusal, k) := by
  rw [acquire_eq, h]

theorem acquire_of_admitted (h : admitted o pageSize k = .ok ifindex) :
    acquire o pageSize k = acquireAt o ifindex k := by
  rw [acquire_eq, h]

theorem mappingSize_of_admitted (h : admitted o pageSize k = .ok ifindex) :
    0 < o.geometry.mappingSize := by
  unfold admitted at h
  split at h
  · cases h
  · next hcheck => exact Options.mappingSize_of_check hcheck

theorem configuration_of_refused (h : admitted o pageSize k = .error refusal) :
    ∃ p os, refusal = .configuration p os := by
  unfold admitted at h
  split at h
  · next hcheck =>
    cases h
    unfold Options.check at hcheck
    split at hcheck <;> cases hcheck
    exact ⟨_, _, rfl⟩
  · unfold resolveInterface at h
    split at h
    · cases h
    split at h
    · cases h
      exact ⟨_, _, rfl⟩
    split at h <;> cases h
    exact ⟨_, _, rfl⟩

theorem openSocket_of_fault (h : k.failure? .socket = some e) :
    k.openSocket o.socketType = (.error e, k.logged (socketStep o k).calls) := by
  unfold openSocket
  rw [attempt_of_some h]
  rfl

theorem openSocket_of_ok (h : k.failure? .socket = none) :
    k.openSocket o.socketType = (.ok (), k.withSocket (socketStep o k).calls) := by
  unfold openSocket
  rw [attempt_of_none h]
  rfl

theorem closeSocket_logged (hs : k.socketOpen = false) (cs cs' : List Call) :
    ((k.withSocket cs).logged cs').closeSocket = k.logged (cs ++ cs') := by
  unfold closeSocket withSocket logged
  dsimp only
  rw [List.append_assoc, ← hs]

theorem withRing_withSocket (k : Kernel) (o : Options) (cs cs' : List Call) :
    withRing (k.withSocket cs) o cs' = { withRing k o (cs ++ cs') with socketOpen := true } := by
  unfold withRing mapped withSocket logged
  dsimp only
  rw [List.append_assoc]

/-- How an open ends that is let through. -/
theorem acquire_cases (hs : k.socketOpen = false) (hm : k.mapping = none)
    (h : admitted o pageSize k = .ok ifindex) :
    (∃ e, firstFault? (openSteps o ifindex k) = some e ∧ acquire o pageSize k = (.error e,
      k.logged (performedCalls (openSteps o ifindex k) ++
        unmapCalls k o.geometry.mappingSize (performedCalls (openSteps o ifindex k))))) ∨
    firstFault? (openSteps o ifindex k) = none ∧
      ∃ v, k.accepted? o.version.candidates = some v ∧ acquire o pageSize k =
        (.ok (opened o ifindex v),
          { withRing k o (performedCalls (openSteps o ifindex k)) with socketOpen := true }) := by
  have hlen : o.geometry.mappingSize ≠ 0 := (mappingSize_of_admitted h).ne'
  have hfront : mapCall o.geometry.mappingSize ∉ (socketStep o k).calls := by
    simp [socketStep, mapCall]
  rw [acquire_of_admitted h]
  unfold openSteps acquireAt
  cases hsock : k.failure? .socket with
  | some e =>
    have hfault : (socketStep o k).fault = some (.syscall .socket e) := by
      simp [socketStep, hsock]
    refine Or.inl ⟨_, firstFault?_of_fault hfault, ?_⟩
    rw [openSocket_of_fault hsock, performedCalls_of_fault hfault, unmapCalls_of_not_mem hfront,
      List.append_nil]
  | none =>
  have hok : (socketStep o k).fault = none := by simp [socketStep, hsock]
  rw [firstFault?_of_ok hok, performedCalls_of_ok hok, openSocket_of_ok hsock,
    unmapCalls_append hfront]
  dsimp only
  -- The socket that is open by now has no part in how the other steps end.
  obtain ⟨e, hf, hrest⟩ | ⟨hf, v, ha, hrest⟩ :=
    setUp_ends o ifindex (k.withSocket (socketStep o k).calls) hlen hm
  · refine Or.inl ⟨e, hf, ?_⟩
    rw [hrest]
    dsimp only
    rw [closeSocket_logged hs, ← List.append_assoc]
    rfl
  · refine Or.inr ⟨hf, v, ha, ?_⟩
    rw [hrest, withRing_withSocket]
    rfl

/-! ## What the steps come to -/

theorem mapFault?_eq_none_iff {length : Nat} :
    k.mapFault? length = none ↔
      k.failure? .map = none ∧ k.failure? .mapNull = none ∧ length ≤ k.maxMapping := by
  unfold mapFault?
  cases k.failure? .map <;> cases k.failure? .mapNull <;> simp

theorem firstFault?_openSteps_eq_none_iff :
    firstFault? (openSteps o ifindex k) = none ↔
      (∃ v, k.accepted? o.version.candidates = some v) ∧
      (∀ p ∈ [FailPoint.socket, .bind, .requestRing, .map, .mapNull, .createWaker, .statistics],
        k.failure? p = none) ∧
      o.geometry.mappingSize ≤ k.maxMapping := by
  have hmap : k.mapFault? o.geometry.mappingSize = none ↔ _ := mapFault?_eq_none_iff
  unfold firstFault?
  rw [List.findSome?_eq_none_iff]
  cases ha : k.accepted? o.version.candidates with
  | none => simp [openSteps, setUpSteps, versionStep, ha]
  | some v =>
    simp [openSteps, setUpSteps, versionStep, socketStep, bindStep, ringSteps, ha, hmap]
    tauto

/-- The calls that the steps of opening make. -/
theorem mem_performedCalls {c : Call} (h : c ∈ performedCalls (openSteps o ifindex k)) :
    c ∈ (socketStep o k).calls ∨ c ∈ (bindStep k ifindex).calls ∨
      (∃ v, c = .setOption (.version v)) ∨
      ∃ v, c ∈ [ringCall o v, mapCall o.geometry.mappingSize, .eventfd 0 eventFlags,
        statisticsCall v] := by
  obtain ⟨s, hs, hc⟩ := List.mem_flatMap.1 h
  have hstep := performed_subset _ hs
  unfold openSteps setUpSteps at hstep
  rcases List.mem_cons.1 hstep with rfl | hstep
  · exact Or.inl hc
  rcases List.mem_cons.1 hstep with rfl | hstep
  · exact Or.inr (Or.inl hc)
  rcases List.mem_cons.1 hstep with rfl | hstep
  · obtain ⟨v, -, rfl⟩ := List.mem_map.1 hc
    exact Or.inr (Or.inr (Or.inl ⟨v, rfl⟩))
  · cases ha : k.accepted? o.version.candidates with
    | none =>
      rw [ha] at hstep
      cases hstep
    | some v =>
      rw [ha] at hstep
      refine Or.inr (Or.inr (Or.inr ⟨v, ?_⟩))
      simp only [Option.elim_some, ringSteps, List.mem_cons, List.not_mem_nil, or_false] at hstep
      rcases hstep with rfl | rfl | rfl | rfl <;> simp at hc <;> simp [hc]

/-- The only ring that opening unmaps is one that it mapped. -/
theorem unmap_not_mem_performedCalls (o : Options) (ifindex : Int) (k : Kernel) (length : Nat) :
    Call.unmap length ∉ performedCalls (openSteps o ifindex k) := by
  intro h
  obtain h | h | ⟨v, h⟩ | ⟨v, h⟩ := mem_performedCalls h
  · simp [socketStep] at h
  · simp [bindStep] at h
  · cases h
  · simp [ringCall, mapCall, statisticsCall] at h

theorem length_request (g : Geometry) (v : Version) :
    (g.request v).length = if v = .v3 then 28 else 16 := by
  cases v <;> simp [Geometry.request, Geometry.requestWords, length_toLE]

/-- **Opening is all or nothing.** Nothing is asked of the kernel for options or an interface that
are refused. Else the steps are performed up to the first that fails, in whose error the open ends:
nothing but calls in the log then tells that there was one, and a ring that was mapped is unmapped
once. The open succeeds if no step fails, with the first version that the kernel takes. -/
theorem acquire_all_or_nothing (o : Options) (pageSize : Nat) (k : Kernel)
    (hs : k.socketOpen = false) (hm : k.mapping = none) :
    (∀ v, (o.geometry.request v).length = if v = .v3 then 28 else 16) ∧
    (∀ e, admitted o pageSize k = .error e →
      acquire o pageSize k = (.error e, k) ∧ ∃ p os, e = .configuration p os) ∧
    (∀ ifindex e, admitted o pageSize k = .ok ifindex →
      firstFault? (openSteps o ifindex k) = some e →
      acquire o pageSize k = (.error e, k.logged (performedCalls (openSteps o ifindex k) ++
        unmapCalls k o.geometry.mappingSize (performedCalls (openSteps o ifindex k)))) ∧
      ∀ n, Call.unmap n ∉ performedCalls (openSteps o ifindex k)) ∧
    (∀ ifindex, admitted o pageSize k = .ok ifindex →
      firstFault? (openSteps o ifindex k) = none →
      ∃ v, k.accepted? o.version.candidates = some v ∧ acquire o pageSize k =
        (.ok (opened o ifindex v),
          { withRing k o (performedCalls (openSteps o ifindex k)) with socketOpen := true })) ∧
    ((∃ h, (acquire o pageSize k).1 = .ok h) ↔
      (∃ ifindex, admitted o pageSize k = .ok ifindex) ∧
      (∃ v, k.accepted? o.version.candidates = some v) ∧
      (∀ p ∈ [FailPoint.socket, .bind, .requestRing, .map, .mapNull, .createWaker, .statistics],
        k.failure? p = none) ∧
      o.geometry.mappingSize ≤ k.maxMapping) ∧
    (∀ e, (acquire o pageSize k).1 = .error e →
      (acquire o pageSize k).2.socketOpen = false ∧ (acquire o pageSize k).2.mapping = none) := by
  refine ⟨length_request o.geometry, ?_, ?_, ?_, ?_, ?_⟩
  · intro e h
    exact ⟨acquire_of_refused h, configuration_of_refused h⟩
  · intro ifindex e h hf
    obtain ⟨e', hf', hend⟩ | ⟨hf', -⟩ := acquire_cases hs hm h
    · rw [hf] at hf'
      cases hf'
      exact ⟨hend, unmap_not_mem_performedCalls o ifindex k⟩
    · rw [hf] at hf'
      cases hf'
  · intro ifindex h hf
    obtain ⟨e', hf', -⟩ | ⟨-, hend⟩ := acquire_cases hs hm h
    · rw [hf] at hf'
      cases hf'
    · exact hend
  · cases h : admitted o pageSize k with
    | error e =>
      rw [acquire_of_refused h]
      simp
    | ok ifindex =>
      have hnone : firstFault? (openSteps o ifindex k) = none ↔ _ :=
        firstFault?_openSteps_eq_none_iff
      rw [← hnone]
      obtain ⟨e, hf, hend⟩ | ⟨hf, v, -, hend⟩ := acquire_cases hs hm h
      · rw [hf, hend]
        simp
      · rw [hf, hend]
        simp
  · intro e he
    cases h : admitted o pageSize k with
    | error e =>
      rw [acquire_of_refused h]
      exact ⟨hs, hm⟩
    | ok ifindex =>
      obtain ⟨e, -, hend⟩ | ⟨-, v, -, hend⟩ := acquire_cases hs hm h
      · rw [hend]
        exact ⟨hs, hm⟩
      · rw [hend] at he
        cases he

/-- With the third version not taken and no waker to be had, the ring of the second is unmapped
again. -/
theorem acquire_all_or_nothing_noWaker :
    let o : Options := { frameSize := 256, blockSize := 4096, numBlocks := 1 }
    let k : Kernel := { failures := [(.version .v3, 92), (.createWaker, 24)] }
    acquire o 4096 k = (.error (.setup .createWaker (.os 24)), k.logged
      [ .socket 17 524291 768, .bind (linkAddress 0), .setOption (.version .v3),
        .setOption (.version .v2), .setOption (.receiveRing (o.geometry.request .v2)),
        .map 4096 3 1 0, .eventfd 0 526336, .unmap 4096 ]) := by
  intro o k
  have hadmitted : admitted o 4096 k = .ok 0 := by decide +kernel
  have hcalls : performedCalls (openSteps o 0 k) ++
      unmapCalls k o.geometry.mappingSize (performedCalls (openSteps o 0 k)) =
      [ .socket 17 524291 768, .bind (linkAddress 0), .setOption (.version .v3),
        .setOption (.version .v2), .setOption (.receiveRing (o.geometry.request .v2)),
        .map 4096 3 1 0, .eventfd 0 526336, .unmap 4096 ] := by decide +kernel
  obtain ⟨-, -, hfault, -⟩ := acquire_all_or_nothing o 4096 k rfl rfl
  rw [← hcalls]
  exact (hfault 0 (.setup .createWaker (.os 24)) hadmitted (by decide)).1

end Open

end Handle

end PacketRing
