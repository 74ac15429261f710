import NetReactor.Machine.Perform
import NetReactor.Session.Plaintext
import NetReactor.Proofs.Machine.Frame
import NetReactor.Proofs.Machine.Quiet
import NetReactor.Proofs.Machine.QuietSession
import NetReactor.Proofs.Loop.Registry
import NetReactor.Proofs.Machine.Trace
import NetReactor.Proofs.Machine.Within
import NetReactor.Proofs.Machine.Growth
import NetReactor.Proofs.Machine.Coherence
import NetReactor.Proofs.Machine.Journal
import NetReactor.Proofs.Machine.Cycle
import NetReactor.Proofs.Machine.Actions
import NetReactor.Proofs.Loop.Walk
import NetReactor.Proofs.Loop.Snapshot
import NetReactor.Proofs.Machine.Replay
import NetReactor.Proofs.Loop.Withdrawal
import NetReactor.Proofs.Loop.Replacement
import NetReactor.Proofs.Machine.History
import NetReactor.Proofs.Machine.Invariant
import NetReactor.Proofs.Machine.Response
import NetReactor.Proofs.Loop.InsertionOrder
import NetReactor.Proofs.Loop.OneShot
import NetReactor.Proofs.Loop.Delivery
import NetReactor.Proofs.Session.Conversation
import NetReactor.Proofs.Session.Sides
import NetReactor.Proofs.Session.Fragmentation
import NetReactor.Proofs.Session.Framed
import NetReactor.Proofs.Session.Paired
import NetReactor.Proofs.Session.Receiving
import NetReactor.Proofs.Session.RoundTrip
import NetReactor.Proofs.Session.Stages
import NetReactor.Proofs.Session.Closing
import NetReactor.Proofs.Ownership.Owned
import NetReactor.Proofs.Loop.Listener
import NetReactor.Proofs.Loop.Accepting
import NetReactor.Proofs.Loop.Steady
import NetReactor.Proofs.Loop.Sparing
import NetReactor.Proofs.Loop.Running
import NetReactor.Proofs.Session.Observed
import NetReactor.Proofs.Session.Sending
import NetReactor.Proofs.Session.Denied
import NetReactor.Proofs.Loop.Cancelling
import NetReactor.Proofs.Loop.Orphaned
import NetReactor.Proofs.Session.Receipts
import NetReactor.Proofs.Session.Conserving
import NetReactor.Proofs.Session.Reading
import NetReactor.Proofs.Loop.Reentry
import NetReactor.Proofs.Loop.Invoking
import NetReactor.Proofs.Loop.InnerRun
import NetReactor.Proofs.Session.Gathering
import NetReactor.Proofs.Session.Returning
import NetReactor.Proofs.Session.InRange
import NetReactor.Proofs.Session.Farewell
import NetReactor.Proofs.Session.Pipe
import NetReactor.Proofs.Socket.Codec
import NetReactor.Proofs.Socket.Timeout
import NetReactor.Proofs.Loop.Polling
import NetReactor.Proofs.Socket.Reporting
import NetReactor.Proofs.Session.Explaining
import NetReactor.Proofs.Machine.Laws
import NetReactor.Proofs.Machine.Failures
import NetReactor.Proofs.Loop.Waiting
