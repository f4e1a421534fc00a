import Mathlib
import PacketRing.Proofs.Delivery

/-!
# Rings of frames

In a v1 or v2 ring a slot is one frame with one packet.

* `FrameHandover` : the kernel fills a frame as it likes; its packet is what the header then tells;
* `frames_delivered` : every packet of a length is returned once, in the order of the handovers.
-/

namespace PacketRing

/-- The kernel fills frame `i`, with any bytes. The packet in it is the one that the header there
then tells of. -/
def FrameHandover (c : Cursor) : Handover := fun i mem mem' fs =>
  Fills c i mem mem' ∧ fs = [c.frame mem' (c.front mem' i)]

/-- The packets with a length; the reader passes over the others. -/
def withLength (fs : List Frame) : List Frame := fs.filter fun f => f.info.length ≠ 0

/-! ## A frame in its slot -/

theorem slotSize_frame (g : Geometry) {v : Version} (hv : v ≠ .v3) :
    g.slotSize v = g.frameSize := by
  cases v with
  | v3 => exact absurd rfl hv
  | _ => rfl

theorem address_frame {v : Version} (hv : v ≠ .v3) : v.layout.address = 32 := by
  cases v with
  | v3 => exact absurd rfl hv
  | _ => rfl

variable {c : Cursor} {i : Nat} {mem mem' : Region}

theorem front_frame (hv : c.version ≠ .v3) (mem : Region) (i : Nat) :
    c.front mem i = .ofFrame c.version (c.offset i) c.geometry.frameSize := by
  obtain ⟨v, g, snap, t, ix, ph, pr, bl⟩ := c
  cases v with
  | v3 => exact absurd rfl hv
  | _ => rfl

theorem records_frame (hv : c.version ≠ .v3) (mem : Region) (i : Nat) :
    c.records mem i = [c.front mem i] := by
  obtain ⟨v, g, snap, t, ix, ph, pr, bl⟩ := c
  cases v with
  | v3 => exact absurd rfl hv
  | _ => rfl

theorem inside_frame (hv : c.version ≠ .v3) (hsize : 64 ≤ c.geometry.frameSize) :
    c.Inside mem i := by
  refine Or.inr fun h hh => ?_
  rw [records_frame hv, List.mem_singleton, front_frame hv] at hh
  rw [hh, c.offset_succ, slotSize_frame _ hv, address_frame hv]
  refine ⟨rfl, rfl, Nat.le_refl _, ?_⟩
  show c.offset i + 32 + 8 ≤ _
  omega

theorem contents_frame (hv : c.version ≠ .v3) (mem : Region) (i : Nat) :
    c.contents mem i = withLength [c.frame mem (c.front mem i)] := by
  have hlen : (c.frame mem (c.front mem i)).info.length = (c.front mem i).length mem := rfl
  unfold Cursor.contents withLength
  rw [records_frame hv]
  by_cases hz : (c.front mem i).length mem = 0
  · rw [if_pos hz, List.filter_cons_of_neg (by rw [hlen, hz]; decide)]
    rfl
  · rw [if_neg hz, List.filter_cons_of_pos (by rw [hlen]; exact decide_eq_true hz)]
    rfl

/-! ## Delivery -/

theorem aligned_frames (hv : c.version ≠ .v3) (h16 : c.geometry.frameSize % 16 = 0)
    (hsize : 64 ≤ c.geometry.frameSize) (hslots : 0 < c.geometry.slots c.version) : c.Aligned := by
  refine ⟨hslots, ?_, ?_⟩
  · rw [slotSize_frame _ hv]
    omega
  · rw [slotSize_frame _ hv]
    exact h16

theorem feeds_frames (ha : c.Aligned) (hv : c.version ≠ .v3) (hsize : 64 ≤ c.geometry.frameSize) :
    Feeds (FrameHandover c) c withLength where
  fills := And.left
  owned := by
    rintro i mem mem' fs ⟨hfill, rfl⟩ hi hm
    exact ⟨hfill.isUser ha hm hi, inside_frame hv hsize, contents_frame hv mem' i⟩

theorem withLength_flatten (l : List (List Frame)) :
    (l.map withLength).flatten = withLength l.flatten := by
  unfold withLength
  rw [List.filter_flatten]

/-- At any point of any run, what was returned, followed by what is still to be read from the cursor
on, is what was handed over, less the packets without a length. -/
theorem frames_delivered {cu : Cursor} {l : Ledger} (c : Cursor) (hv : c.version ≠ .v3)
    (h16 : c.geometry.frameSize % 16 = 0) (hsize : 64 ≤ c.geometry.frameSize)
    (hslots : 0 < c.geometry.slots c.version) (moment : Moment (FrameHandover c) c cu mem l) :
    l.returned ++ cu.unread mem = withLength l.handed.flatten := by
  have ha := aligned_frames hv h16 hsize hslots
  rw [← withLength_flatten]
  exact moment.unread_eq ha (feeds_frames ha hv hsize)

/-! ### A ring of two frames -/

def twoFrames : Cursor where
  version := .v2
  geometry := ⟨64, 2, 1, ⟨0⟩⟩
  snapLength := 0
  timeout := 0

/-- A frame with a packet of 60 bytes, four of which were captured. -/
def oneFrame : Store := ⟨0, [1, 0, 0, 0, 60, 0, 0, 0, 4, 0, 0, 0, 40, 0]⟩

def oneFramePolled : Kernel where
  mapping := some (.zeroed 128)
  script := [{ writes := [oneFrame] }]

def onePacket : Frame where
  offset := 40
  size := 4
  info :=
    { timestamp := .ofEpoch 0 0, captureLength := 4, length := 60, ifindex := 0, vlan := none }

theorem handover_oneFrame : FrameHandover twoFrames 0 (.zeroed 128)
    ((Region.zeroed 128).stored [oneFrame]) [onePacket] := by
  refine ⟨⟨by decide +kernel, rfl, fun x _ hx => ?_, by decide +kernel⟩, by decide +kernel⟩
  refine (Region.byte_stored_of_disjoint _ fun w hw => ?_).symm
  rw [List.mem_singleton.1 hw]
  change x < 0 ∨ 64 ≤ x at hx
  show x < 0 ∨ 14 ≤ x
  omega

/-- The frame is handed over in the middle of a read, which returns it. -/
theorem frames_delivered_twoFrames :
    ∃ cu mem l, Moment (FrameHandover twoFrames) twoFrames cu mem l ∧ l.returned = [onePacket] ∧
      l.returned ++ cu.unread mem = withLength l.handed.flatten := by
  obtain ⟨hpolled, hfound, hnext⟩ :=
    Reader.next_of_first_poll (r := { cursor := twoFrames.start }) (k := oneFramePolled) rfl rfl
      (by decide +kernel) rfl (by decide +kernel) (by decide +kernel)
  have hrun := run_of_first_poll (H := FrameHandover twoFrames) (s := { writes := [oneFrame] })
    rfl rfl hpolled hfound handover_oneFrame
  refine ⟨_, _, _, .between hrun, ?_,
    frames_delivered twoFrames (by decide) (by decide) (by decide) (by decide) (.between hrun)⟩
  rw [hnext]
  decide +kernel

end PacketRing
