import PacketRing.Error
import PacketRing.Ring.Geometry

/-!
# Capture options

* `Options` : what opening a capture needs to know, with its defaults;
* `Options.geometry` : the ring they ask for;
* `Options.check` : refusing what the kernel would refuse anyway;
* `Options.pollTimeout` : the wait of one read as poll takes it.
-/

namespace PacketRing

/-- The framing of what the socket delivers. -/
inductive SocketType where
  /-- Frames with their link-layer header. -/
  | raw
  /-- Frames without it. -/
  | datagram
  deriving DecidableEq, Repr

def SocketType.number : SocketType → Nat
  | raw => 3
  | datagram => 2

/-- The page size to go by where the machine does not tell. -/
def defaultPageSize : Nat := 4096

def defaultFrameSize : Nat := 4096
def defaultBlockSize : Nat := defaultFrameSize * 128
def defaultNumBlocks : Nat := 128
def defaultBlockTimeout : Duration := .ofMillis 64

/-- What opening a capture needs to know. -/
structure Options where
  /-- The interface to bind to; the empty name means all of them. -/
  interface : String := ""
  version : VersionChoice := .highest
  frameSize : Nat := defaultFrameSize
  blockSize : Nat := defaultBlockSize
  numBlocks : Nat := defaultNumBlocks
  /-- How long the kernel keeps a v3 block that is not full; zero leaves it to the kernel. -/
  blockTimeout : Duration := defaultBlockTimeout
  /-- How long a read may wait; `none` waits until a packet arrives. -/
  readTimeout : Option Duration := none
  socketType : SocketType := .raw
  /-- The most bytes to return of a packet; zero sets no bound. -/
  snapLength : Nat := 0
  /-- Put a stripped VLAN tag back into packets that are copied out. -/
  addVlanHeader : Bool := false
  deriving DecidableEq, Repr

namespace Options

def geometry (o : Options) : Geometry where
  frameSize := o.frameSize
  framesPerBlock := o.blockSize / max o.frameSize 1
  numBlocks := o.numBlocks
  blockTimeout := o.blockTimeout

/-- The first problem with the options on a machine with pages of `pageSize` bytes. -/
def problem? (o : Options) (pageSize : Nat) : Option Problem :=
  let g := o.geometry
  if o.frameSize = 0 ∨ o.blockSize = 0 then some .zeroSize
  else if pageSize = 0 ∨ o.blockSize % pageSize ≠ 0 then
    some (.blockNotPages o.blockSize pageSize)
  else if o.blockSize % o.frameSize ≠ 0 then some (.blockNotFrames o.blockSize o.frameSize)
  else if o.numBlocks < 1 then some (.noBlocks o.numBlocks)
  else if UInt32.size ≤ o.blockSize ∨ UInt32.size ≤ o.frameSize ∨ UInt32.size ≤ o.numBlocks ∨
      UInt32.size ≤ g.frameCount then
    some (.ringTooLarge o.numBlocks o.blockSize)
  else if o.blockTimeout.nanos ≠ 0 ∧ o.blockTimeout.nanos < (Duration.ofMillis 1).nanos then
    some (.blockTimeoutTooShort o.blockTimeout)
  else none

/-- Refuses options with a problem. -/
def check (o : Options) (pageSize : Nat) : Except CaptureError Unit :=
  match o.problem? pageSize with
  | some p => .error (.configuration p none)
  | none => .ok ()

/-- The longest wait that poll takes, in milliseconds: the greatest signed 32-bit number. -/
def maxPollTimeout : Nat := 2147483647

/-- The wait of one read in milliseconds: -1 without a bound, else cut to what poll takes. -/
def pollTimeout (o : Options) : Int :=
  match o.readTimeout with
  | none => -1
  | some t => min t.millis maxPollTimeout

end Options

end PacketRing
