import PacketRing.Capture.Fanout
import PacketRing.Options

/-!
# Settings

What the agent can be told, in a file or on the command line.

* `Settings`, `CaptureSettings`, `FanoutSettings` : the settings and their defaults;
* `Settings.captureOptions` : the options of the capture they ask for.
-/

namespace PacketRing

/-- How the ring is sized and read. -/
structure CaptureSettings where
  /-- The ring version to insist on. -/
  version : Option Version := none
  frameSize : Nat := defaultFrameSize
  blockSize : Nat := defaultBlockSize
  numBlocks : Nat := defaultNumBlocks
  /-- In milliseconds. -/
  blockTimeout : Nat := defaultBlockTimeout.millis
  /-- In milliseconds: how long one read may wait. -/
  pollTimeout : Nat := 1000
  snapLength : Nat := 0
  addVlanHeader : Bool := false
  deriving DecidableEq, Repr

/-- Membership of a fanout group. -/
structure FanoutSettings where
  type : Fanout
  group : Nat
  deriving DecidableEq, Repr

/-- The port of the API unless another is given. -/
def defaultPort : Nat := 3000

/-- The agent's settings. -/
structure Settings where
  /-- The interface to capture on; `none` for all of them. -/
  interface : Option String := none
  port : Nat := defaultPort
  quiet : Bool := false
  /-- The subnets whose clients may use the API; none for all clients. -/
  allowedIps : List String := []
  capture : CaptureSettings := {}
  /-- A classic filter program's listing. -/
  filterFile : Option String := none
  /-- A compiled filter program. -/
  ebpfObject : Option String := none
  /-- The EtherTypes that the compiled program lets through. -/
  etherTypes : List Nat := []
  fanout : Option FanoutSettings := none
  deriving DecidableEq, Repr

namespace Settings

/-- The options of the capture. -/
def captureOptions (s : Settings) : Options where
  interface := s.interface.getD ""
  version := match s.capture.version with
    | some v => .exactly v
    | none => .highest
  frameSize := s.capture.frameSize
  blockSize := s.capture.blockSize
  numBlocks := s.capture.numBlocks
  blockTimeout := .ofMillis s.capture.blockTimeout
  readTimeout := some (.ofMillis s.capture.pollTimeout)
  snapLength := s.capture.snapLength
  addVlanHeader := s.capture.addVlanHeader

end Settings

end PacketRing
