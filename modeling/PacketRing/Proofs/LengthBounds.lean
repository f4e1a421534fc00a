import Mathlib
import PacketRing.Proofs.CopiedReads

/-!
# The bound on what is returned of a packet

The bound is applied where a packet is found in the ring. A copy of the packet may then get its tag
put back, and with it become longer than the bound.

* `Handle.read_of_readPacket`, `Handle.read_of_readInto` : the read behind one that copies;
* `Session.Begins.captureLength_le` : what is found in the ring keeps to the bound;
* `Session.snapLength_exceeded_iff` : which reads return more;
* `Session.tag_exceeds_snapLength` : 18 bytes returned where the bound is 14.
-/

namespace PacketRing

namespace Handle

variable {h h' : Handle} {k k' : Kernel} {p : Packet} {info : CaptureInfo} {buffer filled : Bytes}

theorem read_of_readPacket (hp : h.readPacket k = (.ok p, h', k')) :
    ∃ f, h.read k = (.ok f, h', k') ∧ p = h'.copyOut k' f := by
  rcases hread : h.read k with ⟨e | f, h₁, k₁⟩
  · rw [readPacket_of_error hread] at hp
    cases hp
  · rw [readPacket_of_read hread] at hp
    cases hp
    exact ⟨f, rfl, rfl⟩

theorem read_of_readInto (hi : h.readInto k buffer = (.ok info, filled, h', k')) :
    ∃ f, h.read k = (.ok f, h', k') ∧
      info.captureLength = min (data k' f).length buffer.length ∧
      filled = (data k' f).take info.captureLength ++ buffer.drop info.captureLength := by
  rcases hread : h.read k with ⟨e | f, h₁, k₁⟩
  · rw [readInto_of_error hread] at hi
    cases hi
  · rw [readInto_of_read hread buffer] at hi
    cases hi
    exact ⟨f, rfl, rfl, rfl⟩

end Handle

namespace Session

variable {s : Session} {o : Options} {pageSize : Nat} {k k' : Kernel} {f : Frame} {c : Cursor}

theorem Begins.captureLength_le (hb : s.Begins o pageSize k) (hsnap : 0 < o.snapLength)
    (hf : s.Gives f c k') : f.info.captureLength ≤ o.snapLength := by
  have hcaptured := (hb.inSlot hf).captureLength
  rw [if_pos hsnap] at hcaptured
  omega

/-- **Only a tag that is put back exceeds the bound.** With a bound on what is returned of a packet,
a packet left in the ring keeps to it, and so does what is stored of one in a buffer. A packet
copied out has more bytes than the bound just if its tag was put back and there was no room for
that: fewer than four bytes of what was captured were missing to the bound. -/
theorem snapLength_exceeded_iff (hb : s.Begins o pageSize k) (hsnap : 0 < o.snapLength)
    (steps : List (Surroundings × Act)) (w : Surroundings) (buffer : Bytes) :
    let h := (s.after steps).handle
    let k := (s.after steps).kernel.within w
    (∀ f h' k', h.read k = (.ok f, h', k') →
      f.info.captureLength ≤ o.snapLength ∧ (Handle.data k' f).length ≤ o.snapLength) ∧
    (∀ info filled h' k', h.readInto k buffer = (.ok info, filled, h', k') →
      info.captureLength ≤ o.snapLength ∧
      filled.drop info.captureLength = buffer.drop info.captureLength) ∧
    (∀ p h' k', h.readPacket k = (.ok p, h', k') → p.data.length = p.info.captureLength ∧
      ∃ f, h.read k = (.ok f, h', k') ∧ (o.snapLength < p.info.captureLength ↔
        f.info.gainsTag o.addVlanHeader = true ∧
          o.snapLength < f.info.captureLength + 4)) := by
  intro h k
  have hfound : ∀ f h' k', h.read k = (.ok f, h', k') →
      f.info.captureLength ≤ o.snapLength ∧
        (Handle.data k' f).length = f.info.captureLength := by
    intro f h' k' hread
    have hgives : s.Gives f h'.reader.cursor k' := ⟨steps, w, h', hread, rfl⟩
    exact ⟨hb.captureLength_le hsnap hgives, (hb.inSlot hgives).length⟩
  refine ⟨?_, ?_, ?_⟩
  · intro f h' k' hread
    obtain ⟨hle, hlength⟩ := hfound f h' k' hread
    exact ⟨hle, hlength.trans_le hle⟩
  · intro info filled h' k' hinto
    obtain ⟨f, hread, hstored, rfl⟩ := Handle.read_of_readInto hinto
    obtain ⟨hle, hlength⟩ := hfound f h' k' hread
    refine ⟨by omega, ?_⟩
    apply List.drop_left'
    rw [List.length_take]
    omega
  · intro p h' k' hpacket
    obtain ⟨f, hread, rfl⟩ := Handle.read_of_readPacket hpacket
    obtain ⟨hle, hlength⟩ := hfound f h' k' hread
    have hadd : h'.addVlanHeader = o.addVlanHeader :=
      (Handle.addVlanHeader_of_read hread).trans (hb.addVlanHeader_after steps)
    have hcopy := Handle.length_copyOut (h := h') hlength
    rw [hadd] at hcopy
    refine ⟨rfl, f, hread, ?_⟩
    change o.snapLength < (h'.copyOut k' f).data.length ↔ _
    rw [hcopy]
    by_cases hgains : f.info.gainsTag o.addVlanHeader = true
    · simp [hgains]
    · simp [hgains, hle]

/-! ### A tag without room -/

/-- The options of a handle that returns at most 14 bytes of a packet, and puts tags back. -/
def cappedOptions : Options := { taggingOptions with snapLength := 14 }

def capped : Session where
  handle := opened cappedOptions 0 .v2
  kernel := (Handle.acquire cappedOptions 4096 {}).2
  service := { allowlist := .everyone }

theorem begins_capped : capped.Begins cappedOptions 4096 {} :=
  ⟨rfl, rfl, rfl, Prod.ext (by decide +kernel) rfl, rfl⟩

/-- The kernel writes a frame of VLAN 5 with all its 60 bytes. -/
def wholeFrame : Surroundings where
  writes :=
    [⟨0, [17, 0, 0, 0, 60, 0, 0, 0, 60, 0, 0, 0, 48, 0, 0, 0, 0, 0, 0, 0, 0, 0, 0, 0, 5, 0]⟩]

theorem read_capped : ∃ f h' k',
    capped.handle.read (capped.kernel.within wholeFrame) = (.ok f, h', k') ∧
      f.info = taggedInfo := by
  obtain ⟨f, h', k', hread, rfl⟩ := Handle.read_of_packet (h := capped.handle)
    (k := capped.kernel.within wholeFrame) rfl nofun rfl (by decide +kernel) (by decide +kernel)
  exact ⟨_, h', k', hread, by decide +kernel⟩

/-- The bound is 14, as many bytes are found, and the tag goes over it. -/
theorem snapLength_exceeded_iff_capped :
    let h := capped.handle
    let k := capped.kernel.within wholeFrame
    capped.Begins cappedOptions 4096 {} ∧ 0 < cappedOptions.snapLength ∧
      ∃ f p h' k', h.read k = (.ok f, h', k') ∧ f.info.captureLength ≤ 14 ∧
        h.readPacket k = (.ok p, h', k') ∧ 14 < p.info.captureLength := by
  intro h k
  obtain ⟨f, h', k', hread, hinfo⟩ := read_capped
  obtain ⟨hplace, -, hpacket⟩ :=
    snapLength_exceeded_iff begins_capped (by decide) [] wholeFrame []
  obtain ⟨-, g, hok, hiff⟩ := hpacket _ _ _ (Handle.readPacket_of_read hread)
  cases hread.symm.trans hok
  refine ⟨begins_capped, by decide, f, _, h', k', hread, (hplace f h' k' hread).1,
    Handle.readPacket_of_read hread, hiff.2 ?_⟩
  rw [hinfo]
  decide

/-- A read returns 18 bytes of a packet although the bound is 14. -/
theorem tag_exceeds_snapLength :
    capped.Begins cappedOptions 4096 {} ∧ cappedOptions.snapLength = 14 ∧
      ∃ p h' k', capped.handle.readPacket (capped.kernel.within wholeFrame) = (.ok p, h', k') ∧
        p.info.captureLength = 18 ∧ p.data.length = 18 := by
  obtain ⟨f, h', k', hread, hinfo⟩ := read_capped
  have hgives : capped.Gives f h'.reader.cursor k' := ⟨[], wholeFrame, h', hread, rfl⟩
  have hcopy := Handle.length_copyOut (h := h') (begins_capped.inSlot hgives).length
  rw [Handle.addVlanHeader_of_read hread, hinfo] at hcopy
  exact ⟨begins_capped, rfl, _, h', k', Handle.readPacket_of_read hread, hcopy, hcopy⟩

end Session

end PacketRing
