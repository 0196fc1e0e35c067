import Uvcd.Correctness.Standing
import Uvcd.Correctness.Dispatch
import Uvcd.Correctness.Bounds
import Uvcd.Correctness.Formats
import Uvcd.Correctness.Frames
import Uvcd.Correctness.Isolation
import Uvcd.Correctness.Lookup
import Uvcd.Correctness.Negotiation
import Uvcd.Correctness.Pairing
import Uvcd.Correctness.Queue
import Uvcd.Correctness.Rounds
import Uvcd.Correctness.Starts
import Uvcd.Refinement.Calls
import Uvcd.Refinement.Served
import Uvcd.Correctness.Census
import Uvcd.Correctness.Commits
import Uvcd.Correctness.Descriptors
import Uvcd.Correctness.Ids
import Uvcd.Correctness.Lives
import Uvcd.Correctness.Payloads
import Uvcd.Correctness.Releases
import Uvcd.Correctness.Setups
import Uvcd.Correctness.Choice
import Uvcd.Correctness.Snapshot
import Uvcd.Correctness.Enumeration
import Uvcd.Correctness.Frees
import Uvcd.Correctness.Records
import Uvcd.Correctness.Drain
import Uvcd.Correctness.Pool
import Uvcd.Correctness.Conversion
import Uvcd.Correctness.Lists
import Uvcd.Correctness.Watches
import Uvcd.Correctness.Pictures
import Uvcd.Correctness.TestNegotiation
import Uvcd.Correctness.TestApp
import Uvcd.Correctness.TestSignals
import Uvcd.Correctness.DescMem
import Uvcd.Correctness.Dmabufs
import Uvcd.Correctness.Shutdown
