/-!
The closed set of failures that every operation reports. A system error number and a condition without
a number are both read into it; whatever has no failure of its own is `unknown`.
-/
namespace NetReactor

inductive Error where
  | wouldBlock
  | invalidAddress
  | invalidPort
  | socketCreationFailed
  | bindFailed
  | listenFailed
  | acceptFailed
  | connectFailed
  | connectionRefused
  | connectionReset
  | sendFailed
  | receiveFailed
  | timeout
  | addressInUse
  | addressNotAvailable
  | networkUnreachable
  | hostUnreachable
  | alreadyConnected
  | notConnected
  | socketClosed
  | handshakeFailed
  | unknown
deriving DecidableEq, Repr

abbrev Outcome (α : Type) := Except Error α

inductive Condition where
  | wouldBlock
  | connectionRefused
  | connectionReset
  | connectionAborted
  | brokenPipe
  | timedOut
  | addressInUse
  | addressNotAvailable
  | notConnected
  | unexpectedEnd
  | other
deriving DecidableEq, Repr

namespace Error

def numbers : List (Int × Error) :=
  [ -- try again, in progress, already in progress
    (11, .wouldBlock), (115, .wouldBlock), (114, .wouldBlock),
    (111, .connectionRefused),
    -- reset, broken pipe, aborted
    (104, .connectionReset), (32, .connectionReset), (103, .connectionReset),
    (110, .timeout),
    (98, .addressInUse),
    (99, .addressNotAvailable),
    -- network unreachable, network down
    (101, .networkUnreachable), (100, .networkUnreachable),
    (113, .hostUnreachable),
    (106, .alreadyConnected),
    (107, .notConnected),
    -- bad descriptor, not a socket
    (9, .socketClosed), (88, .socketClosed),
    -- address family not supported
    (97, .invalidAddress) ]

def ofNumber (number : Int) : Error := (numbers.lookup number).getD .unknown

def ofCondition : Condition → Error
  | .wouldBlock => .wouldBlock
  | .connectionRefused => .connectionRefused
  | .connectionReset => .connectionReset
  | .connectionAborted => .connectionReset
  | .brokenPipe => .connectionReset
  | .timedOut => .timeout
  | .addressInUse => .addressInUse
  | .addressNotAvailable => .addressNotAvailable
  | .notConnected => .notConnected
  | .unexpectedEnd => .socketClosed
  | .other => .unknown

def message : Error → String
  | .wouldBlock => "Operation would block"
  | .invalidAddress => "Invalid address"
  | .invalidPort => "Invalid port"
  | .socketCreationFailed => "Socket creation failed"
  | .bindFailed => "Bind failed"
  | .listenFailed => "Listen failed"
  | .acceptFailed => "Accept failed"
  | .connectFailed => "Connect failed"
  | .connectionRefused => "Connection refused"
  | .connectionReset => "Connection reset"
  | .sendFailed => "Send failed"
  | .receiveFailed => "Receive failed"
  | .timeout => "Operation timed out"
  | .addressInUse => "Address already in use"
  | .addressNotAvailable => "Address not available"
  | .networkUnreachable => "Network unreachable"
  | .hostUnreachable => "Host unreachable"
  | .alreadyConnected => "Already connected"
  | .notConnected => "Not connected"
  | .socketClosed => "Socket closed"
  | .handshakeFailed => "TLS handshake failed"
  | .unknown => "Unknown error"

instance : ToString Error := ⟨message⟩

def isWouldBlock (error : Error) : Bool := error == .wouldBlock

/-- A failure that no number explained takes the name of the operation that failed. -/
def orElse (error operation : Error) : Error :=
  if error = .unknown then operation else error

end Error
end NetReactor
