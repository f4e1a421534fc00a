import Mathlib
import PacketRing.Proofs.SubnetTexts
import PacketRing.Proofs.Totals

/-!
# Who is let in

The allowlist of the API, by what its entries say and not by how they are read.

* `Admits` : an entry is a subnet of a client's family with the client's leading bits;
* `Outside` : there are entries, and none of them admits the client;
* `Allowlist.admits_eq_false_iff` : these are the clients that the allowlist turns away;
* `Service.status_respond`, `status_stream` : only they are answered with 403;
* `Session.refused_iff_outside` : so it is with every request of a session, and a request that is
  refused leaves the session as it was.
-/

namespace PacketRing

variable {family : AddressFamily}

/-! ## Leading bits -/

/-- The entry is a subnet that has the client's address in it. -/
def Admits (entry : String) (client : BitVec family.width) : Prop :=
  ∃ (base : BitVec family.width) (bits : Nat),
    SubnetText family entry.toList base.toNat bits ∧
      ∀ i < bits, base.getMsbD i = client.getMsbD i

/-- There is a list, and no entry of it admits the client. -/
def Outside (entries : List String) (client : BitVec family.width) : Prop :=
  entries ≠ [] ∧ ∀ e ∈ entries, ¬ Admits e client

theorem shiftRight_eq_iff {w n : Nat} (hn : n ≤ w) (x y : BitVec w) :
    x.toNat >>> (w - n) = y.toNat >>> (w - n) ↔ ∀ i < n, x.getMsbD i = y.getMsbD i := by
  constructor
  · intro h i hi
    have hbit := congrArg (Nat.testBit · (n - 1 - i)) h
    simp only [Nat.testBit_shiftRight] at hbit
    rw [show w - n + (n - 1 - i) = w - 1 - i by omega] at hbit
    rw [BitVec.getMsbD_eq_getLsbD, BitVec.getMsbD_eq_getLsbD]
    exact congrArg _ hbit
  · intro h
    refine Nat.eq_of_testBit_eq fun j => ?_
    rw [Nat.testBit_shiftRight, Nat.testBit_shiftRight]
    by_cases hj : j < n
    · have hbit := h (n - 1 - j) (by omega)
      rw [BitVec.getMsbD_eq_getLsbD, BitVec.getMsbD_eq_getLsbD,
        show w - 1 - (n - 1 - j) = w - n + j by omega, decide_eq_true (by omega)] at hbit
      exact hbit
    · exact (BitVec.getLsbD_of_ge x _ (by omega)).trans (BitVec.getLsbD_of_ge y _ (by omega)).symm

theorem contains_iff {base client : BitVec family.width} {bits : Nat}
    (hbits : bits ≤ family.width) :
    Subnet.contains ⟨⟨family, base.toNat⟩, bits⟩ ⟨family, client.toNat⟩ = true ↔
      ∀ i < bits, base.getMsbD i = client.getMsbD i := by
  unfold Subnet.contains Subnet.leading
  rw [beq_self_eq_true, Bool.true_and, beq_iff_eq]
  exact shiftRight_eq_iff hbits base client

theorem admits_iff_contains {e : String} {client : BitVec family.width} :
    Admits e client ↔
      ∃ net ∈ Subnet.ofText? e, net.contains ⟨family, client.toNat⟩ = true := by
  constructor
  · rintro ⟨base, bits, htext, hbits⟩
    exact ⟨⟨⟨family, base.toNat⟩, bits⟩, Subnet.ofText?_iff.2 htext,
      (contains_iff htext.bits_le).2 hbits⟩
  · rintro ⟨⟨⟨family', value⟩, bits⟩, hread, hin⟩
    obtain rfl : family' = family := by
      unfold Subnet.contains at hin
      exact eq_of_beq (Bool.and_eq_true_iff.1 hin).1
    have htext : SubnetText family' e.toList value bits := Subnet.ofText?_iff.1 hread
    have hvalue : (BitVec.ofNat family'.width value).toNat = value := by
      rw [BitVec.toNat_ofNat, Nat.mod_eq_of_lt htext.value_lt]
    rw [← hvalue] at hin htext
    exact ⟨BitVec.ofNat family'.width value, bits, htext, (contains_iff htext.bits_le).1 hin⟩

theorem Allowlist.admits_eq_false_iff (entries : List String) (client : BitVec family.width) :
    (ofEntries entries).admits (some ⟨family, client.toNat⟩) = false ↔ Outside entries client := by
  unfold ofEntries Outside
  cases entries with
  | nil => exact ⟨nofun, fun h => absurd rfl h.1⟩
  | cons e entries =>
    rw [List.isEmpty_cons, if_neg Bool.false_ne_true]
    show List.any _ _ = false ↔ _
    simp only [admits_iff_contains, List.any_eq_false, List.mem_filterMap]
    constructor
    · intro h
      refine ⟨List.cons_ne_nil _ _, ?_⟩
      rintro e' he ⟨net, hread, hin⟩
      exact h net ⟨e', he, hread⟩ hin
    · rintro ⟨-, h⟩ net ⟨e', he, hread⟩ hin
      exact h e' he ⟨net, hread, hin⟩

/-! ## Answers -/

namespace Service

variable (s : Service) (r : Request) (t : Traffic) (uptime : Nat) (h : Handle) (k : Kernel)

/-- No route refuses a request as the allowlist does. -/
theorem status_handle (route : Route) :
    (s.handle r t uptime h k route).1.status ≠ Response.forbidden.status := by
  cases route with
  | stream =>
    show r.upgradeRefusal.status ≠ 403
    unfold Request.upgradeRefusal Response.plainText
    split_ifs <;> decide
  | _ => exact nofun

theorem respond_of_refused (hadmits : s.allowlist.admits r.client = false) :
    (s.respond r t uptime h k).1.status = Response.forbidden.status ∧
      (s.respond r t uptime h k).2 = (s, h, k) := by
  unfold respond
  dsimp only
  rw [hadmits]
  exact ⟨rfl, rfl⟩

theorem status_respond :
    (s.respond r t uptime h k).1.status = Response.forbidden.status ↔
      s.allowlist.admits r.client = false := by
  refine ⟨fun hstatus => ?_, fun hadmits => (s.respond_of_refused r t uptime h k hadmits).1⟩
  by_contra hadmits
  rw [Bool.not_eq_false] at hadmits
  revert hstatus
  unfold respond
  dsimp only
  rw [hadmits, Bool.not_true, if_neg Bool.false_ne_true]
  cases Route.ofPath? (Route.path r.target) with
  | none => exact nofun
  | some route =>
    dsimp only
    split
    · exact nofun
    · split <;> exact s.status_handle r t uptime h k route

theorem stream_of_refused {client : Option Address}
    (hadmits : s.allowlist.admits client = false) (messages : Nat) :
    s.stream client messages t uptime h k = (Response.forbidden.status, [], h, k) := by
  unfold stream
  rw [hadmits]
  rfl

theorem status_stream (client : Option Address) (messages : Nat) :
    (s.stream client messages t uptime h k).1 = Response.forbidden.status ↔
      s.allowlist.admits client = false := by
  cases hadmits : s.allowlist.admits client with
  | false => exact iff_of_true (by rw [s.stream_of_refused t uptime h k hadmits]) rfl
  | true => exact iff_of_false (by rw [stream_of_admitted hadmits]; exact nofun) nofun

end Service

/-! ## Requests of a session -/

namespace Session

/-- **The allowlist turns away the clients outside of it, and a refusal has no effect.** Whatever
the entries, the client and the request, the answer is 403 just if there are entries and none is a
subnet with the client's leading bits; this goes for a WebSocket as well. After a refusal all of the
session is as it was: the counters of the capture, the totals, the traffic, the metrics, and the
kernel with the calls it was asked for. -/
theorem refused_iff_outside (s : Session) (w : Surroundings) (entries : List String)
    (hlist : s.service.allowlist = .ofEntries entries) (client : BitVec family.width) :
    (∀ r : Request, r.client = some ⟨family, client.toNat⟩ →
      ∃ answer s', s.perform w (.request r) = (.response answer, s') ∧
        (answer.status = 403 ↔ Outside entries client) ∧ (answer.status = 403 → s' = s)) ∧
    ∀ messages, ∃ status reports s',
      s.perform w (.stream (some ⟨family, client.toNat⟩) messages) =
        (.messages status reports, s') ∧
      (status = 403 ↔ Outside entries client) ∧ (status = 403 → reports = [] ∧ s' = s) := by
  have houtside := Allowlist.admits_eq_false_iff entries client
  rw [← hlist] at houtside
  constructor
  · intro r hr
    rw [← hr] at houtside
    have hstatus := s.service.status_respond r s.traffic w.uptime s.handle s.kernel
    have hkept := s.service.respond_of_refused r s.traffic w.uptime s.handle s.kernel
    generalize hx : s.service.respond r s.traffic w.uptime s.handle s.kernel = x at hstatus hkept
    refine ⟨x.1, { s with service := x.2.1, handle := x.2.2.1, kernel := x.2.2.2 },
      by rw [← hx]; rfl, hstatus.trans houtside, fun hrefused => ?_⟩
    rw [(hkept (hstatus.1 hrefused)).2]
  · intro messages
    have hstatus := s.service.status_stream s.traffic w.uptime s.handle s.kernel
      (some ⟨family, client.toNat⟩) messages
    have hkept (hadmits : s.service.allowlist.admits (some ⟨family, client.toNat⟩) = false) :=
      s.service.stream_of_refused s.traffic w.uptime s.handle s.kernel hadmits messages
    generalize hx : s.service.stream (some ⟨family, client.toNat⟩) messages s.traffic w.uptime
      s.handle s.kernel = x at hstatus hkept
    refine ⟨x.1, x.2.1, { s with handle := x.2.2.1, kernel := x.2.2.2 }, by rw [← hx]; rfl,
      hstatus.trans houtside, fun hrefused => ?_⟩
    rw [hkept (hstatus.1 hrefused)]
    exact ⟨rfl, rfl⟩

/-- Of the entries one is no subnet, one is of the other family, and one differs in its last bit
from the client 10.1.2.3. -/
theorem refused_iff_outside_lastBit :
    let entries := ["10.1.2.2/32", "not-a-cidr", "::/0"]
    let s : Session := { small .v3 with service := { allowlist := .ofEntries entries } }
    let client : BitVec AddressFamily.v4.width := 0x0a010203#32
    Outside entries client ∧
      ∃ answer, s.perform {} (.request
        { method := "GET", target := "/metrics", client := some ⟨.v4, client.toNat⟩ }) =
          (.response answer, s) ∧ answer.status = 403 := by
  intro entries s client
  obtain ⟨answer, s', hperform, hiff, hkept⟩ := (refused_iff_outside s {} entries rfl client).1
    { method := "GET", target := "/metrics", client := some ⟨.v4, client.toNat⟩ } rfl
  have hstatus : answer.status = 403 := by
    have hstate := (s.service.status_respond
      { method := "GET", target := "/metrics", client := some ⟨.v4, client.toNat⟩ } s.traffic 0
      s.handle s.kernel).2 (by decide +kernel)
    rw [← Answer.response.inj (congrArg Prod.fst hperform)]
    exact hstate
  obtain rfl := hkept hstatus
  exact ⟨hiff.1 hstatus, answer, hperform, hstatus⟩

end Session

end PacketRing
