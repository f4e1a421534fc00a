import PacketRing.Capture.Handle
import PacketRing.Traffic

/-!
# The capture loop

* `Handle.run` : reading and counting packets until the loop is told to stop or a read fails;
* `Handle.capture` : a whole run of the loop.
-/

namespace PacketRing

namespace Handle

def counted (h : Handle) (k : Kernel) (copyOut : Bool) (f : Frame) : CaptureInfo :=
  if copyOut then (h.copyOut k f).info else f.info

/-- Reads and counts packets for as long as `running` is set. A timeout leads to another look at
it, unless the script is used up and nothing would ever change; a closed handle ends the loop, any
other error is counted and ends it. -/
def run (h : Handle) (t : Traffic) (wallClock : Int) (copyOut : Bool) (k : Kernel) :
    Handle × Traffic × Kernel :=
  if !k.running then (h, t, k)
  else
    let read := h.read k
    match _ : read.1 with
    | .ok f =>
      run read.2.1 (t.record wallClock (read.2.1.counted read.2.2 copyOut f)) wallClock copyOut
        read.2.2
    | .error .pollTimeout =>
      if read.2.2.script.length < k.script.length then
        run read.2.1 t wallClock copyOut read.2.2
      else (read.2.1, t, read.2.2)
    | .error .closed => (read.2.1, t, read.2.2)
    | .error _ => (read.2.1, t.recordError, read.2.2)
termination_by h.reader.work k
decreasing_by
  · next hr => exact read_ok_lt h k hr
  · next hs => exact Prod.Lex.left _ _ hs

/-- A whole run of the loop, with `running` set as given. Once the script is used up the loop is
woken, as by a close. -/
def capture (h : Handle) (t : Traffic) (wallClock : Int) (copyOut running : Bool) (k : Kernel) :
    Handle × Traffic × Kernel :=
  let (h, t, k) := h.run t wallClock copyOut { k with running, idle := .stopping }
  (h, t, { k with idle := .quiet })

end Handle

end PacketRing
