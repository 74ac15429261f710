import NetReactor.Bytes
import NetReactor.Error
/-!
The system calls that the library makes, and a kernel as any state machine that answers them. Nothing is
assumed about the answers: a negative result is a failure with a number, every other one a success.
-/
namespace NetReactor

abbrev Descriptor := Int

def Descriptor.closed : Descriptor := -1

abbrev Watch := Descriptor × UInt16

inductive Syscall where
  | poll (watches : List Watch) (timeout : Int)
  | socket (domain kind protocol : Int)
  | bind (descriptor : Descriptor) (address : Bytes)
  | listen (descriptor : Descriptor) (backlog : Int)
  | accept (descriptor : Descriptor)
  | connect (descriptor : Descriptor) (address : Bytes)
  | localName (descriptor : Descriptor)
  | peerName (descriptor : Descriptor)
  | send (descriptor : Descriptor) (data : Bytes) (flags : Int)
  | recv (descriptor : Descriptor) (length : Nat) (flags : Int)
  | close (descriptor : Descriptor)
  | getFlags (descriptor : Descriptor)
  | setFlags (descriptor : Descriptor) (flags : UInt32)
  | setOption (descriptor : Descriptor) (level option : Int) (value : Bytes)
  | getOption (descriptor : Descriptor) (level option : Int)
  | shutdown (descriptor : Descriptor) (direction : Int)
deriving DecidableEq, Repr

/-- What the kernel answers. Beside the result there is what it wrote for the caller: the reported events
of a poll call by position, the bytes of a receive call or of an address, the value of an option. -/
structure Reply where
  result : Int := 0
  number : Int := 0
  events : List UInt16 := []
  data : Bytes := []
  value : Int := 0
deriving DecidableEq, Repr

abbrev Kernel (σ : Type) := Syscall → StateM σ Reply

namespace Reply

def failed (reply : Reply) : Bool := reply.result < 0

def error (reply : Reply) : Error := Error.ofNumber reply.number

def outcome (reply : Reply) (failure : Error → Error) : Outcome Unit :=
  if reply.failed then .error (failure reply.error) else .ok ()

def count (reply : Reply) (failure : Error → Error) : Outcome Nat :=
  if reply.failed then .error (failure reply.error) else .ok reply.result.toNat

end Reply
end NetReactor
