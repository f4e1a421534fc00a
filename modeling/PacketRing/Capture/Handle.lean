import PacketRing.Capture.Reader
import PacketRing.Capture.Statistics
import PacketRing.Text.Utf8

/-!
# The capture handle

A packet socket with its mapped ring and the cursor that drains it.

* `Handle.acquire` : opening a capture. If a step fails, what the steps before it acquired is given
  back;
* `Handle.read`, `Handle.readPacket`, `Handle.readInto` : the next packet, in place or copied out;
* `Handle.send`, `Handle.attachFilter`, `Handle.attachCompiled`, `Handle.joinFanout`,
  `Handle.socketStats` : what does not wait for a read;
* `Handle.close` : giving everything back, once;
* `Handle.drain`, `Handle.closeWhileReading` : reading until a read fails.
-/

namespace PacketRing

structure Handle where
  version : Version
  /-- The interface it is bound to; zero for all of them. -/
  ifindex : Int
  geometry : Geometry
  addVlanHeader : Bool
  reader : Reader
  totals : KernelTotals := {}
  closed : Bool := false
  deriving DecidableEq, Repr

/-! ## Opening -/

namespace Kernel

def noDevice : Errno := 19

/-- The index of the interface that a capture is to be bound to. An interface without an index of
its own cannot be found. -/
def resolveInterface (k : Kernel) (name : String) : Except CaptureError Int :=
  if name.isEmpty then .ok 0
  else if name.toList.contains '\x00' then .error (.configuration (.nameWithNul name) none)
  else
    match (k.interfaceIndex? (Text.encode name)).filter (· ≠ 0) with
    | some index => .ok (signed UInt32.size (index % UInt32.size))
    | none => .error (.configuration (.unknownInterface name) (some noDevice))

/-- Settles on the first version that the kernel takes. -/
def negotiate (k : Kernel) (last : Option Errno) :
    List Version → Except CaptureError Version × Kernel
  | [] => (.error (.configuration .noVersion last), k)
  | v :: rest =>
    match k.setOption (.version v) with
    | (.ok (), k) => (.ok v, k)
    | (.error e, k) => negotiate k (some e) rest

def mapRing (k : Kernel) (length : Nat) : Except CaptureError Unit × Kernel :=
  if length = 0 then (.error (.setup .map .emptyRing), k)
  else
    match k.map length with
    | (.error e, k) => (.error (.setup .map (.os e)), k)
    | (.ok false, k) => (.error (.setup .map .noRing), k)
    | (.ok true, k) => (.ok (), k)

/-- The kernel's counts since the last query. -/
def counts (k : Kernel) (v : Version) : Except CaptureError Counts × Kernel :=
  match k.queryStatistics v with
  | (.error e, k) => (.error (.syscall .queryStatistics e), k)
  | (.ok c, k) => (.ok c, k)

end Kernel

namespace Handle

/-- The last steps of opening, with the ring mapped: the waker, and counters at zero. -/
def finish (v : Version) (k : Kernel) : Except CaptureError KernelTotals × Kernel :=
  match k.createWaker with
  | (.error e, k) => (.error (.setup .createWaker (.os e)), k)
  | (.ok (), k) =>
    let (answer, k) := k.counts v
    match KernelTotals.reset {} answer with
    | (.error e, _) => (.error e, k)
    | (.ok (), totals) => (.ok totals, k)

/-- The steps of opening with the socket open: binding it, settling on a version, and setting up
the ring. The ring is unmapped if a step after its mapping fails. -/
def setUp (o : Options) (ifindex : Int) (k : Kernel) : Except CaptureError Handle × Kernel :=
  match k.bind ifindex with
  | (.error e, k) => (.error (.syscall .bind e), k)
  | (.ok (), k) =>
  match k.negotiate none o.version.candidates with
  | (.error e, k) => (.error e, k)
  | (.ok version, k) =>
  match k.setOption (.receiveRing (o.geometry.request version)) with
  | (.error e, k) => (.error (.setup .requestRing (.os e)), k)
  | (.ok (), k) =>
  match k.mapRing o.geometry.mappingSize with
  | (.error e, k) => (.error e, k)
  | (.ok (), k) =>
  match finish version k with
  | (.error e, k) => (.error e, (k.unmap o.geometry.mappingSize).2)
  | (.ok totals, k) =>
    let cursor : Cursor :=
      { version, geometry := o.geometry, snapLength := o.snapLength, timeout := o.pollTimeout }
    (.ok
      { version, ifindex, geometry := o.geometry, addVlanHeader := o.addVlanHeader
        reader := { cursor }, totals }, k)

/-- Opens a capture on a machine with pages of `pageSize` bytes. The socket is closed again if a
step after its opening fails. -/
def acquire (o : Options) (pageSize : Nat) (k : Kernel) : Except CaptureError Handle × Kernel :=
  match o.check pageSize with
  | .error e => (.error e, k)
  | .ok () =>
  match k.resolveInterface o.interface with
  | .error e => (.error e, k)
  | .ok ifindex =>
  match k.openSocket o.socketType with
  | (.error e, k) => (.error (.syscall .socket e), k)
  | (.ok (), k) =>
  match setUp o ifindex k with
  | (.error e, k) => (.error e, k.closeSocket)
  | (.ok h, k) => (.ok h, k)

/-! ## Reading -/

/-- The next packet, left in the ring. Its slot is the reader's until the next read. -/
def read (h : Handle) (k : Kernel) : Except CaptureError Frame × Handle × Kernel :=
  if h.closed then (.error .closed, h, k)
  else
    let (result, reader, k) := h.reader.next k
    (result, { h with reader }, k)

def data (k : Kernel) (f : Frame) : Bytes := k.memory.slice f.offset f.size

/-- The packet copied out of the ring, with its VLAN tag put back if the handle does so. -/
def copyOut (h : Handle) (k : Kernel) (f : Frame) : Packet :=
  let bytes := data k f
  let bytes :=
    match f.info.vlan with
    | some tag => if h.addVlanHeader then withVlanHeader bytes tag.tci else bytes
    | none => bytes
  { data := bytes, info := { f.info with captureLength := bytes.length } }

def readPacket (h : Handle) (k : Kernel) : Except CaptureError Packet × Handle × Kernel :=
  match h.read k with
  | (.error e, h, k) => (.error e, h, k)
  | (.ok f, h, k) => (.ok (h.copyOut k f), h, k)

/-- The next packet, copied to the front of `buffer` as far as it fits. The capture length says
how much that is; a read that fails leaves the buffer alone. -/
def readInto (h : Handle) (k : Kernel) (buffer : Bytes) :
    Except CaptureError CaptureInfo × Bytes × Handle × Kernel :=
  match h.read k with
  | (.error e, h, k) => (.error e, buffer, h, k)
  | (.ok f, h, k) =>
    let copied := (data k f).take buffer.length
    (.ok { f.info with captureLength := copied.length }, copied ++ buffer.drop copied.length, h, k)

/-! ## Requests that do not wait for a read -/

/-- Asks the kernel for something, unless the handle is closed. -/
def request (h : Handle) (k : Kernel) (op : Operation)
    (ask : Kernel → Except Errno Unit × Kernel) : Except CaptureError Unit × Kernel :=
  if h.closed then (.error .closed, k)
  else
    match ask k with
    | (.error e, k) => (.error (.syscall op e), k)
    | (.ok (), k) => (.ok (), k)

def send (h : Handle) (k : Kernel) (frame : Bytes) : Except CaptureError Unit × Kernel :=
  h.request k .write (·.send frame)

/-- Installs a classic filter program in place of any before it. -/
def attachFilter (h : Handle) (k : Kernel) (program : Program) :
    Except CaptureError Unit × Kernel :=
  if h.closed then (.error .closed, k)
  else if CaptureError.maxFilterLength < program.length then
    (.error (.filterTooLarge program.length), k)
  else h.request k .attachFilter (·.setOption (.filter program))

/-- Installs a compiled filter program that is loaded already. -/
def attachCompiled (h : Handle) (k : Kernel) (descriptor : Nat) :
    Except CaptureError Unit × Kernel :=
  h.request k .attachCompiled (·.setOption (.compiledFilter descriptor))

def joinFanout (h : Handle) (k : Kernel) (type : Fanout) (group : Nat) :
    Except CaptureError Unit × Kernel :=
  h.request k .joinFanout (·.setOption (.fanout (type.argument group)))

/-- The kernel's counters since the handle was opened. -/
def socketStats (h : Handle) (k : Kernel) : Except CaptureError KernelTotals × Handle × Kernel :=
  if h.closed then (.error .closed, h, k)
  else
    let (answer, k) := k.counts h.version
    let (result, totals) := h.totals.accumulate answer
    (result, { h with totals }, k)

/-- The message for a compiled program whose file cannot be loaded. -/
def loadFailure (path : String) : String := "failed to load eBPF object " ++ path

/-! ## Closing -/

/-- Gives the ring and the socket back. -/
def giveBack (h : Handle) (k : Kernel) : Kernel := (k.unmap h.geometry.mappingSize).2.closeSocket

/-- Closes the handle: a reader that waits is woken, the ring unmapped, the socket closed. A second
close does nothing. -/
def close (h : Handle) (k : Kernel) : Handle × Kernel :=
  if h.closed then (h, k) else ({ h with closed := true }, h.giveBack k.wake.2)

/-! ## Reading until it ends -/

/-- A packet read leaves less to do. -/
theorem read_ok_lt (h : Handle) (k : Kernel) {f : Frame} (hr : (h.read k).1 = .ok f) :
    Reader.WorkLt ((h.read k).2.1.reader.work (h.read k).2.2) (h.reader.work k) := by
  unfold read at hr ⊢
  split at hr
  · simp at hr
  · next hc => simpa [hc] using h.reader.next_ok_lt k hr

/-- Reads packets until a read fails. -/
def drain (h : Handle) (k : Kernel) : List Frame × CaptureError × Handle × Kernel :=
  let read := h.read k
  match _ : read.1 with
  | .error e => ([], e, read.2)
  | .ok f =>
    let rest := drain read.2.1 read.2.2
    (f :: rest.1, rest.2)
termination_by h.reader.work k
decreasing_by
  rename_i hr
  exact read_ok_lt h k hr

/-- Reads until nothing is left, waits, and is closed from elsewhere while it waits. The wait of
the blocked read is where the wake happens. -/
def closeWhileReading (h : Handle) (k : Kernel) : List Frame × CaptureError × Handle × Kernel :=
  let (frames, error, h, k) := h.drain { k with script := [{ outcome := .block }] }
  (frames, error, { h with closed := true }, h.giveBack k)

end Handle

end PacketRing
