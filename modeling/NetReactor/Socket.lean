import NetReactor.Address
/-!
A socket that owns its descriptor, over any kernel. A socket without a descriptor makes no system call.
Each operation says which failures it reports; a failure that no number explains is reported under the name
of the operation where the operation has one.
-/
namespace NetReactor

structure Socket where
  descriptor : Descriptor
deriving DecidableEq, Repr

namespace Socket

variable {σ : Type}

def shut : Socket := ⟨Descriptor.closed⟩

def isOpen (socket : Socket) : Bool := socket.descriptor != Descriptor.closed

def call {α : Type} (kernel : Kernel σ) (socket : Socket) (syscall : Descriptor → Syscall)
    (result : Reply → Outcome α) : StateM σ (Outcome α) :=
  if socket.isOpen then do return result (← kernel (syscall socket.descriptor))
  else pure (.error .socketClosed)

def streamKind : Int := 524289

def streamProtocol : Int := 6

/-- Keeps the interrupted sender from being killed by a signal. -/
def sendFlags : Int := 16384

def interrupted : Int := 4

def create (kernel : Kernel σ) (family : Family) : StateM σ (Outcome Socket) := do
  let reply ← kernel (.socket family.domain streamKind streamProtocol)
  return if reply.failed then .error .socketCreationFailed else .ok ⟨reply.result⟩

def bindFailure : Error → Error
  | .addressInUse => .addressInUse
  | .addressNotAvailable => .addressNotAvailable
  | _ => .bindFailed

def bind (kernel : Kernel σ) (socket : Socket) (address : Address) : StateM σ (Outcome Unit) :=
  socket.call kernel (.bind · address.encode) (·.outcome bindFailure)

def listen (kernel : Kernel σ) (socket : Socket) (backlog : Int) : StateM σ (Outcome Unit) :=
  socket.call kernel (.listen · backlog) (·.outcome fun _ => .listenFailed)

def connect (kernel : Kernel σ) (socket : Socket) (address : Address) : StateM σ (Outcome Unit) :=
  socket.call kernel (.connect · address.encode) (·.outcome (·.orElse .connectFailed))

def send (kernel : Kernel σ) (socket : Socket) (data : Bytes) : StateM σ (Outcome Nat) :=
  socket.call kernel (.send · data sendFlags) (·.count (·.orElse .sendFailed))

/-- Receives into a buffer. Gives the number of bytes, none when the peer has closed, and the buffer, over
which the kernel may have written whatever it answers. -/
def recv (kernel : Kernel σ) (socket : Socket) (buffer : Bytes) : StateM σ (Outcome Nat × Bytes) :=
  if socket.isOpen then do
    let reply ← kernel (.recv socket.descriptor buffer.length 0)
    return (reply.count (·.orElse .receiveFailed), buffer.overlay reply.data)
  else pure (.error .socketClosed, buffer)

def close (kernel : Kernel σ) (socket : Socket) : StateM σ Socket := do
  if socket.isOpen then
    -- The descriptor is gone, whatever the kernel says to it.
    let _ ← kernel (.close socket.descriptor)
  return shut

def acceptFailure (reply : Reply) : Error :=
  if reply.error = .wouldBlock ∨ reply.number = interrupted then .wouldBlock else .acceptFailed

/-- Accepts a connection. One whose peer has no readable address is closed again. -/
def accept (kernel : Kernel σ) (socket : Socket) : StateM σ (Outcome (Socket × Address)) :=
  if socket.isOpen then do
    let reply ← kernel (.accept socket.descriptor)
    if reply.failed then return .error (acceptFailure reply)
    else
      let client : Socket := ⟨reply.result⟩
      match Address.ofReply reply with
      | .ok peer => return .ok (client, peer)
      | .error failure =>
        let _ ← client.close kernel
        return .error failure
  else pure (.error .socketClosed)

def text (socket : Socket) : String :=
  "Socket \x7b file_descriptor: " ++ toString socket.descriptor ++ " \x7d"

def asyncText (socket : Socket) : String :=
  "AsyncSocket \x7b socket: " ++ socket.text ++ " \x7d"

end Socket
end NetReactor
