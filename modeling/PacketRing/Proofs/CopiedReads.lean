import Mathlib
import PacketRing.Proofs.CopiedTags
import PacketRing.Ring.Region.Lemmas

/-!
# The three ways of reading

A packet is left in the ring, copied out of it, or copied into a buffer. All three take the same
packet and leave the handle and the kernel alike; they differ in the bytes that the caller gets.

* `TagIn` : bytes with a tag put back, by what can be seen of them (`tagIn_withVlanHeader`);
* `Packet.CopyOf` : the copy of a packet (`Handle.copyOf_copyOut`);
* `Handle.readPacket_of_read`, `Handle.readInto_of_read` : the copying reads, by the read that both
  make;
* `Session.Begins.addVlanHeader_after`, `Session.Begins.tci_lt` : whether a session puts tags back,
  and which;
* `Session.reads_agree` : the three reads from one state.
-/

namespace PacketRing

/-! ## Bytes with a tag -/

/-- `tagged` is `data` with four bytes more behind the two addresses: the type of a tag, and the tag
itself, its upper byte first. -/
structure TagIn (data tagged : Bytes) (tci : Nat) : Prop where
  length : tagged.length = data.length + 4
  tag : ∃ upper lower : UInt8, (tagged.drop 12).take 4 = [0x81, 0x00, upper, lower] ∧
    tci = 256 * upper.toNat + lower.toNat
  others : tagged.take 12 ++ tagged.drop 16 = data

theorem tagIn_withVlanHeader {data : Bytes} {tci : Nat} (hzero : tci ≠ 0) (hlt : tci < 65536)
    (hlength : ethernetHeaderLength ≤ data.length) : TagIn data (withVlanHeader data tci) tci := by
  have hput : withVlanHeader data tci = data.take 12 ++
      ([0x81, 0x00, UInt8.ofNat (tci / 256), UInt8.ofNat tci] ++ data.drop 12) := by
    unfold withVlanHeader
    rw [if_neg (by omega)]
    simp only [List.append_assoc]
    rfl
  have haddresses : (data.take 12).length = 12 := by
    unfold ethernetHeaderLength at hlength
    rw [List.length_take]
    omega
  refine ⟨?_, ⟨UInt8.ofNat (tci / 256), UInt8.ofNat tci, ?_, ?_⟩, ?_⟩
  · rw [length_withVlanHeader, if_pos ⟨hzero, hlength⟩]
  · rw [hput, List.drop_left' haddresses]
    rfl
  · simp only [UInt8.toNat_ofNat']
    omega
  · have hrest : (withVlanHeader data tci).drop 16 = data.drop 12 := by
      rw [hput, show 16 = 12 + 4 from rfl, ← List.drop_drop, List.drop_left' haddresses]
      rfl
    rw [hrest, hput, List.take_left' haddresses, List.take_append_drop]

/-! ## Copies -/

/-- `p` is the copy of a packet with these bytes, of which this is known: the same, or the packet
with its tag put back. -/
structure Packet.CopyOf (addVlanHeader : Bool) (data : Bytes) (info : CaptureInfo) (p : Packet) :
    Prop where
  plain : info.gainsTag addVlanHeader = false → p = ⟨data, info⟩
  tagged : info.gainsTag addVlanHeader = true →
    ∃ tag, info.vlan = some tag ∧ TagIn data p.data tag.tci
  info : p.info = { info with captureLength := p.data.length }

theorem Header.tci_lt {hd : Header} {mem : Region} {tag : VlanTag} (h : hd.vlan? mem = some tag) :
    tag.tci < 65536 := by
  unfold vlan? at h
  cases hoffset : hd.version.tagOffset? with
  | none => simp [hoffset] at h
  | some offset =>
    have hword := mem.word_lt (hd.record + offset) 2
    simp only [hoffset, Region.word?] at h
    split at h
    · split at h
      · cases h
        exact hword
      · cases h
    · cases h

namespace Handle

variable {h h' : Handle} {k k' : Kernel} {f : Frame} {e : CaptureError}

theorem copyOf_copyOut (hlength : (data k f).length = f.info.captureLength)
    (htci : ∀ tag, f.info.vlan = some tag → tag.tci < 65536) :
    (h.copyOut k f).CopyOf h.addVlanHeader (data k f) f.info := by
  unfold copyOut
  cases hv : f.info.vlan with
  | none =>
    refine ⟨fun _ => ?_, fun hgains => ?_, rfl⟩
    · simp only [hlength]
    · simp [CaptureInfo.gainsTag, hv] at hgains
  | some tag =>
    cases hadd : h.addVlanHeader with
    | false =>
      refine ⟨fun _ => ?_, fun hgains => ?_, rfl⟩
      · simp [hlength]
      · simp [CaptureInfo.gainsTag] at hgains
    | true =>
      have hgains : f.info.gainsTag true = true ↔
          tag.tci ≠ 0 ∧ ethernetHeaderLength ≤ (data k f).length := by
        simp [CaptureInfo.gainsTag, hv, hlength]
      refine ⟨fun hnot => ?_, fun hyes => ⟨tag, hv, ?_⟩, rfl⟩
      · have hsame : withVlanHeader (data k f) tag.tci = data k f := by
          unfold withVlanHeader
          rw [if_pos]
          by_contra hne
          rw [Bool.eq_false_iff] at hnot
          exact hnot (hgains.2 (by omega))
        simp [hsame, hlength]
      · obtain ⟨hzero, henough⟩ := hgains.1 hyes
        exact tagIn_withVlanHeader hzero (htci tag hv) henough

/-! ### The copying reads -/

theorem readPacket_of_read (hr : h.read k = (.ok f, h', k')) :
    h.readPacket k = (.ok (h'.copyOut k' f), h', k') := by
  simp [readPacket, hr]

theorem readPacket_of_error (hr : h.read k = (.error e, h', k')) :
    h.readPacket k = (.error e, h', k') := by
  simp [readPacket, hr]

/-- As many bytes come to the buffer as it has room for, and the rest of it stays. -/
theorem readInto_of_read (hr : h.read k = (.ok f, h', k')) (buffer : Bytes) :
    let n := min (data k' f).length buffer.length
    h.readInto k buffer =
      (.ok { f.info with captureLength := n }, (data k' f).take n ++ buffer.drop n, h', k') := by
  have htake : (data k' f).take (min (data k' f).length buffer.length) =
      (data k' f).take buffer.length := by
    rw [List.take_eq_take_iff]
    omega
  dsimp only
  rw [htake]
  simp only [readInto, hr, List.length_take, Nat.min_comm]

theorem readInto_of_error (hr : h.read k = (.error e, h', k')) (buffer : Bytes) :
    h.readInto k buffer = (.error e, buffer, h', k') := by
  simp [readInto, hr]

theorem addVlanHeader_of_read {x : Except CaptureError Frame} (hr : h.read k = (x, h', k')) :
    h'.addVlanHeader = h.addVlanHeader := by
  unfold read at hr
  split at hr <;> cases hr <;> rfl

/-- With no slot held and one with a packet to take, a read hands out that packet. -/
theorem read_of_packet (hopen : h.closed = false) (hph : h.reader.cursor.phase ≠ .haveHeader)
    (hp : h.reader.cursor.pendingRelease = false)
    (hu : h.reader.cursor.isUser k.memory = true)
    (hl : (h.reader.cursor.header k.memory).length k.memory ≠ 0) :
    ∃ f h' k', h.read k = (.ok f, h', k') ∧
      f = (h.reader.cursor.take k.memory).frame k.memory (h.reader.cursor.header k.memory) := by
  have hread := read_of_open (k := k) hopen
  rw [Reader.next_of_packet hph hp hu hl] at hread
  exact ⟨_, _, _, hread, rfl⟩

end Handle

/-! ## In a session -/

namespace Session

variable {s : Session} {o : Options} {pageSize : Nat} {k k' : Kernel} {f : Frame} {c : Cursor}

theorem Begins.addVlanHeader_after (hb : s.Begins o pageSize k)
    (steps : List (Surroundings × Act)) :
    (s.after steps).handle.addVlanHeader = o.addVlanHeader := by
  obtain ⟨-, ifindex, v, hh, -⟩ := hb.state
  rw [Session.addVlanHeader_after, hh]
  rfl

theorem Begins.tci_lt (hb : s.Begins o pageSize k) (hf : s.Gives f c k') {tag : VlanTag}
    (htag : f.info.vlan = some tag) : tag.tci < 65536 := by
  obtain ⟨-, -, rfl, -⟩ := hb.gives hf
  exact Header.tci_lt htag

/-- **The three ways of reading are the same read.** At any point of a session, and whatever it then
meets, a packet left in the ring, one copied out and one copied into a buffer are read alike: all
three fail, with the same error, or none, and they leave the same handle and the same kernel. Where
they succeed, a copy is the packet itself, or the packet with its tag put back; and a buffer takes
as much of the packet as it has room for, which its capture length says, and keeps its other
bytes. -/
theorem reads_agree (hb : s.Begins o pageSize k) (steps : List (Surroundings × Act))
    (w : Surroundings) (buffer : Bytes) :
    let h := (s.after steps).handle
    let k := (s.after steps).kernel.within w
    (∃ e h' k', h.read k = (.error e, h', k') ∧ h.readPacket k = (.error e, h', k') ∧
      h.readInto k buffer = (.error e, buffer, h', k')) ∨
    ∃ f p h' k', h.read k = (.ok f, h', k') ∧
      (Handle.data k' f).length = f.info.captureLength ∧
      h.readPacket k = (.ok p, h', k') ∧
      p.CopyOf o.addVlanHeader (Handle.data k' f) f.info ∧
      let n := min (Handle.data k' f).length buffer.length
      h.readInto k buffer = (.ok { f.info with captureLength := n },
        (Handle.data k' f).take n ++ buffer.drop n, h', k') := by
  intro h k
  rcases hread : h.read k with ⟨e | f, h', k'⟩
  · exact Or.inl ⟨e, h', k', rfl, Handle.readPacket_of_error hread,
      Handle.readInto_of_error hread buffer⟩
  · have hgives : s.Gives f h'.reader.cursor k' := ⟨steps, w, h', hread, rfl⟩
    have hlength := (hb.inSlot hgives).length
    have hcopy := Handle.copyOf_copyOut (h := h') hlength fun _ => hb.tci_lt hgives
    have hadd : h'.addVlanHeader = o.addVlanHeader :=
      (Handle.addVlanHeader_of_read hread).trans (hb.addVlanHeader_after steps)
    rw [hadd] at hcopy
    exact Or.inr ⟨f, h'.copyOut k' f, h', k', rfl, hlength, Handle.readPacket_of_read hread, hcopy,
      Handle.readInto_of_read hread buffer⟩

theorem read_tagging : ∃ f h' k',
    tagging.handle.read (tagging.kernel.within taggedFrame) = (.ok f, h', k') ∧
      f.info = taggedInfo := by
  obtain ⟨f, h', k', hread, rfl⟩ := Handle.read_of_packet (h := tagging.handle)
    (k := tagging.kernel.within taggedFrame) rfl nofun rfl (by decide +kernel) (by decide +kernel)
  exact ⟨_, h', k', hread, by decide +kernel⟩

/-- A frame of VLAN 5 with 14 bytes captured: the copy has 18, and a buffer of ten takes ten. -/
theorem reads_agree_tagged :
    let h := tagging.handle
    let k := tagging.kernel.within taggedFrame
    let buffer := List.replicate 10 0xEE
    tagging.Begins taggingOptions 4096 {} ∧ ∃ f p h' k', h.read k = (.ok f, h', k') ∧
      h.readPacket k = (.ok p, h', k') ∧ p.info.captureLength = 18 ∧
      TagIn (Handle.data k' f) p.data 5 ∧
      h.readInto k buffer =
        (.ok { f.info with captureLength := 10 }, (Handle.data k' f).take 10, h', k') := by
  intro h k buffer
  obtain ⟨f, h', k', hread, hinfo⟩ := read_tagging
  refine ⟨begins_tagging, ?_⟩
  rcases reads_agree begins_tagging [] taggedFrame buffer with ⟨e, _, _, herror, -⟩ | hagree
  · cases hread.symm.trans herror
  · obtain ⟨g, p, _, _, hok, hlength, hpacket, hcopy, hinto⟩ := hagree
    cases hread.symm.trans hok
    rw [hinfo] at hlength hcopy
    obtain ⟨tag, htag, hin⟩ := hcopy.tagged rfl
    cases htag
    refine ⟨f, p, h', k', hread, hpacket, ?_, hin, ?_⟩
    · rw [hcopy.info]
      exact hin.length.trans (congrArg (· + 4) hlength)
    · have hroom : min taggedInfo.captureLength buffer.length = 10 := rfl
      have hrest : buffer.drop 10 = [] := rfl
      rw [hlength, hroom] at hinto
      dsimp only at hinto
      rw [hrest, List.append_nil] at hinto
      exact hinto

end Session

end PacketRing
