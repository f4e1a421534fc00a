import PacketRing.Api.Router
import PacketRing.Capture.Run
import PacketRing.Main
import PacketRing.Ring.Region.Lemmas
import PacketRing.Proofs.Contents
import PacketRing.Proofs.Ownership
import PacketRing.Proofs.Polling
import PacketRing.Proofs.Balance
import PacketRing.Proofs.Delivery
import PacketRing.Proofs.Frames
import PacketRing.Proofs.Blocks
import PacketRing.Proofs.BlockReads
import PacketRing.Proofs.Opening
import PacketRing.Proofs.Boundary
import PacketRing.Proofs.Session
import PacketRing.Proofs.Closing
import PacketRing.Proofs.Spans
import PacketRing.Proofs.Isolation
import PacketRing.Proofs.Answers
import PacketRing.Proofs.Totals
import PacketRing.Proofs.CaptureRuns
import PacketRing.Proofs.CopiedTags
import PacketRing.Proofs.ControlCalls
import PacketRing.Proofs.Scrapes
import PacketRing.Proofs.Returning
import PacketRing.Proofs.Looks
import PacketRing.Proofs.RecordsReturned
import PacketRing.Proofs.PollPolicy
import PacketRing.Proofs.Releases
import PacketRing.Proofs.BlockWalks
import PacketRing.Proofs.FailedReads
import PacketRing.Proofs.LayingOut
import PacketRing.Proofs.Layouts
import PacketRing.Proofs.Admission
import PacketRing.Proofs.SubnetTexts
import PacketRing.Proofs.Merging
import PacketRing.Proofs.RingRequests
import PacketRing.Proofs.EmptyRecords
import PacketRing.Proofs.WordArithmetic
import PacketRing.Proofs.CopiedReads
import PacketRing.Proofs.LengthBounds
import PacketRing.Proofs.Listings
import PacketRing.Proofs.TrafficReports
import PacketRing.Proofs.CursorStates
import PacketRing.Proofs.HealthReports
