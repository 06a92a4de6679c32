import ServiceSocket.Session.Script
import ServiceSocket.Proofs.Connection.Sending
import ServiceSocket.Proofs.Readiness
import ServiceSocket.Proofs.Deadline.Clock
import ServiceSocket.Proofs.Deadline.Bounds
import ServiceSocket.Proofs.Address.Grammar
import ServiceSocket.Proofs.Ownership.Ledger
import ServiceSocket.Proofs.Ownership.Operations
import ServiceSocket.Proofs.Ownership.Items
import ServiceSocket.Proofs.Ownership.Sessions
import ServiceSocket.Proofs.Ownership.Actions
import ServiceSocket.Proofs.Ownership.Traces
import ServiceSocket.Proofs.Address.RoundTrip
import ServiceSocket.Proofs.Connection.Copying
import ServiceSocket.Proofs.Closing
import ServiceSocket.Proofs.Failure.Undertakings
import ServiceSocket.Proofs.Address.Codec
import ServiceSocket.Proofs.Kernel.Recording
import ServiceSocket.Proofs.Readiness.Rounds
import ServiceSocket.Proofs.Virtual.Settling
import ServiceSocket.Proofs.Virtual.Waiting
import ServiceSocket.Proofs.Kernel.Answering
import ServiceSocket.Proofs.Virtual.Answers
import ServiceSocket.Proofs.Readiness.Ending
import ServiceSocket.Proofs.Connection.Progress
import ServiceSocket.Proofs.Kernel.Modes
import ServiceSocket.Proofs.Dialer.Outcomes
import ServiceSocket.Proofs.Virtual.Connecting
import ServiceSocket.Proofs.Virtual.Proceeding
import ServiceSocket.Proofs.Dialer.Handshake
import ServiceSocket.Proofs.Address.Classes
import ServiceSocket.Proofs.Dialer.BeyondClock
import ServiceSocket.Proofs.Failure.Layers
import ServiceSocket.Proofs.Tcp.Deadlines
import ServiceSocket.Proofs.Address.Canonical
import ServiceSocket.Proofs.Address.Faults
import ServiceSocket.Proofs.Kernel.Queue
import ServiceSocket.Proofs.Readiness.Taking
import ServiceSocket.Proofs.Connection.Receiving
import ServiceSocket.Proofs.Listener.Accepting
import ServiceSocket.Proofs.Network
import ServiceSocket.Proofs.Naming
import ServiceSocket.Proofs.Deadline.Setting
import ServiceSocket.Proofs.Connection.Deadlines
import ServiceSocket.Proofs.Failure.Sources
import ServiceSocket.Proofs.Readiness.Counting
import ServiceSocket.Proofs.Connection.Lingering
