import NetReactor.Duration
import NetReactor.Socket
/-!
Settings of a socket and questions to it: blocking mode, options, shutting down one direction, the pending
failure and both addresses. Their failures are reported as the kernel gives them.
-/
namespace NetReactor.Socket

variable {σ : Type}

def nonblockingFlag : UInt32 := 2048

def socketLevel : Int := 1

def reuseAddress : Int := 2

def pendingFailure : Int := 4

def receiveTimeout : Int := 20

def sendTimeout : Int := 21

def withNonblocking (flags : UInt32) (on : Bool) : UInt32 :=
  if on then flags ||| nonblockingFlag else flags &&& ~~~nonblockingFlag

def setNonblocking (kernel : Kernel σ) (socket : Socket) (on : Bool) : StateM σ (Outcome Unit) := do
  match ← socket.call kernel .getFlags
      (fun reply => if reply.failed then .error reply.error else .ok reply.result) with
  | .error failure => return .error failure
  | .ok flags =>
    let flags := withNonblocking (UInt32.ofInt flags) on
    socket.call kernel (.setFlags · flags) (·.outcome id)

def setOption (kernel : Kernel σ) (socket : Socket) (option : Int) (value : Bytes) :
    StateM σ (Outcome Unit) :=
  socket.call kernel (.setOption · socketLevel option value) (·.outcome id)

def setReuseAddress (kernel : Kernel σ) (socket : Socket) (on : Bool) : StateM σ (Outcome Unit) :=
  socket.setOption kernel reuseAddress (Bytes.littleEndian 4 on.toNat)

def timeval (duration : Duration) : Bytes :=
  Bytes.littleEndian 8 duration.timevalSeconds ++ Bytes.littleEndian 8 duration.timevalMicros

/-- Limits receiving first and then sending; zero takes the limit away. -/
def setTimeout (kernel : Kernel σ) (socket : Socket) (duration : Duration) :
    StateM σ (Outcome Unit) := do
  match ← socket.setOption kernel receiveTimeout (timeval duration) with
  | .error failure => return .error failure
  | .ok () => socket.setOption kernel sendTimeout (timeval duration)

inductive Direction where
  | read
  | write
  | both
deriving DecidableEq, Repr

def Direction.number : Direction → Int
  | .read => 0
  | .write => 1
  | .both => 2

def shutdown (kernel : Kernel σ) (socket : Socket) (direction : Direction) :
    StateM σ (Outcome Unit) :=
  socket.call kernel (.shutdown · direction.number) (·.outcome id)

def takeError (kernel : Kernel σ) (socket : Socket) : StateM σ (Outcome (Option Error)) :=
  socket.call kernel (.getOption · socketLevel pendingFailure) fun reply =>
    if reply.failed then .error reply.error
    else .ok (if reply.value = 0 then none else some (Error.ofNumber reply.value))

def localAddress (kernel : Kernel σ) (socket : Socket) : StateM σ (Outcome Address) :=
  socket.call kernel .localName fun reply =>
    if reply.failed then .error reply.error else Address.ofReply reply

def peerAddress (kernel : Kernel σ) (socket : Socket) : StateM σ (Outcome Address) :=
  socket.call kernel .peerName fun reply =>
    if reply.failed then .error reply.error else Address.ofReply reply

end NetReactor.Socket
