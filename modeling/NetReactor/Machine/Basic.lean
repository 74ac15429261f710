import NetReactor.Loop.Basic
import NetReactor.Session.Handshake
import NetReactor.Session.Records
import NetReactor.Socket.Option
import NetReactor.Table
/-!
The state that a program acts on: its sockets, event loops and callbacks by number, the names under which
it holds them, and a journal of what happened. Numbers are given out in order and are never used again, so
a socket that is closed and a loop that is gone keep theirs. Everything beyond the library (the kernel, the
providers and the wires of secure sessions, and what the program itself remembers) is `outside`, a state of
any type.
-/
namespace NetReactor

abbrev SocketId := Nat

abbrev LoopId := Nat

abbrev SessionId := Nat

abbrev CodeId := Nat

/-- What is done when the descriptor of a callback is ready, before the program's code runs. An accepted
connection is kept under a name that is built from `keep`, or else closed. -/
inductive Operation where
  | watch
  | connect (socket : SocketId)
  | accept (socket : SocketId) (keep : Option String)
  | send (socket : SocketId) (data : Bytes)
  | recv (socket : SocketId) (buffer : Bytes)
deriving DecidableEq, Repr

def Operation.socket? : Operation → Option SocketId
  | .watch => none
  | .connect socket | .accept socket _ | .send socket _ | .recv socket _ => some socket

structure Callback where
  operation : Operation
  code : CodeId
  once : Bool
  calls : Nat := 0
  accepted : Nat := 0
  -- Whether it is for a single dispatch and was run.
  spent : Bool := false
deriving DecidableEq, Repr

inductive Notice where
  | ready (descriptor : Descriptor) (interest : Interest)
  | connected (result : Outcome Unit)
  | accepted (result : Outcome (SocketId × Address))
  | sent (result : Outcome Nat)
  | received (result : Outcome Nat) (buffer : Bytes)

inductive Link where
  | socket (id : SocketId)
  | wire
deriving DecidableEq, Repr

structure OpenSession where
  id : SessionId
  link : Link
  session : Session

structure SocketHandle where
  id : SocketId
  asynchronous : Bool
deriving DecidableEq, Repr

def SocketHandle.isPlain (handle : SocketHandle) : Bool := !handle.asynchronous

structure SessionView where
  id : SessionId
  stage : Stage
  sizing : Option RecordSizing
  context : Context
  descriptor : Option Descriptor

inductive Answer where
  | nothing
  -- There is nothing under the name.
  | missing
  | flag (yes : Bool)
  | count (number : Nat)
  | mask (interest : Option Interest)
  | duration (timeout : Option Duration)
  | text (shown : String)
  | descriptor (descriptor : Descriptor)
  | family (family : Family)
  | done (result : Outcome Unit)
  | sent (result : Outcome Nat)
  | received (result : Outcome Nat) (buffer : Bytes)
  | address (result : Outcome Address)
  | failure (result : Outcome (Option Error))
  | socket (isOpen : Bool) (descriptor : Descriptor) (shown : String)
  | session (view : SessionView)

inductive ProviderCall where
  | credentials (role : Role) (host : Option String) (granted : Bool)
  | step (target : Option String) (input : Option Bytes) (answer : HandshakeStep)
  | sizes (known : Bool)
  -- As it was asked for, whatever the answer.
  | encrypt (record : Record)
  | decrypt (message : Bytes) (status : Status)
  | shutdown (given : Bool)

inductive WireCall where
  | send (data : Bytes) (result : Outcome Nat)
  | recv (length : Nat) (result : Outcome Nat)
  | close

/-- What happened to an event loop. It begins without registrations. A registration is removed by the
program, and withdrawn by a listener that failed to accept. The depth of a dispatch is the number of cycles
that are running, its own included; a dispatch is over when the callback has returned. -/
inductive LoopEvent where
  | created
  | registered (registration : Registration)
  | removed (descriptor : Descriptor)
  | withdrawn (descriptor : Descriptor) (callback : CallbackId)
  | retired (descriptor : Descriptor) (callback : CallbackId)
  | dispatched (depth : Nat) (callback : CallbackId) (descriptor : Descriptor) (ready : Interest)
  | finished (depth : Nat) (callback : CallbackId)
  | stopped

/-- What happened to a socket: it took a descriptor over from the program, gave its own back, or is about to
close it. The program asked for that, or it came about by itself; `kept` tells whether anything kept the socket
at that moment. -/
inductive SocketEvent where
  | adopted (descriptor : Descriptor)
  | givenUp (descriptor : Descriptor)
  | closing (descriptor : Descriptor) (asked kept : Bool)
deriving DecidableEq, Repr

inductive Event where
  | syscall (call : Syscall) (reply : Reply)
  | provider (session : SessionId) (call : ProviderCall)
  | wire (session : SessionId) (call : WireCall)
  -- The start of code, with the event loops as it finds them.
  | callback (id : CallbackId) (code : CodeId) (notice : Notice) (found : List EventLoop)
  -- The end of an action inside code.
  | answered (label : String) (answer : Answer)
  | loop (id : LoopId) (event : LoopEvent)
  | socket (id : SocketId) (event : SocketEvent)

structure Machine (ω : Type) where
  outside : ω
  -- What happened, the latest first.
  journal : List Event := []
  sockets : List Socket := []
  loops : List EventLoop := []
  callbacks : List Callback := []
  sessionCount : Nat := 0
  loopHandles : Table Nat LoopId := []
  weakHandles : Table Nat LoopId := []
  socketHandles : Table String SocketHandle := []
  sessionHandles : Table String OpenSession := []
  executing : List CallbackId := []
  -- The callbacks that each running cycle found registered, the innermost cycle first.
  snapshots : List (List CallbackId) := []
  busyLoops : List LoopId := []
  busySockets : List SocketId := []

abbrev Step (ω : Type) := StateM (Machine ω)

abbrev Run (ω : Type) := Budgeted (Machine ω)

namespace Machine

variable {ω : Type}

def note (machine : Machine ω) (event : Event) : Machine ω :=
  { machine with journal := event :: machine.journal }

def socketAt (machine : Machine ω) (id : SocketId) : Socket := machine.sockets.getD id Socket.shut

def setSocket (machine : Machine ω) (id : SocketId) (socket : Socket) : Machine ω :=
  { machine with sockets := machine.sockets.set id socket }

def loopAt (machine : Machine ω) (id : LoopId) : EventLoop := machine.loops.getD id {}

def updateLoop (machine : Machine ω) (id : LoopId) (change : EventLoop → EventLoop) : Machine ω :=
  { machine with loops := machine.loops.modify id change }

def updateRegistry (machine : Machine ω) (id : LoopId) (event : LoopEvent)
    (change : Registry → Registry) : Machine ω :=
  (machine.updateLoop id fun loop => { loop with registry := change loop.registry }).note
    (.loop id event)

def callback? (machine : Machine ω) (id : CallbackId) : Option Callback := machine.callbacks[id]?

def updateCallback (machine : Machine ω) (id : CallbackId) (change : Callback → Callback) :
    Machine ω :=
  { machine with callbacks := machine.callbacks.modify id change }

def addSocket (socket : Socket) : Step ω SocketId := fun machine =>
  (machine.sockets.length, { machine with sockets := machine.sockets ++ [socket] })

def addLoop (loop : EventLoop) : Step ω LoopId := fun machine =>
  (machine.loops.length,
    { machine with loops := machine.loops ++ [loop] }.note (.loop machine.loops.length .created))

def addCallback (callback : Callback) : Step ω CallbackId := fun machine =>
  (machine.callbacks.length, { machine with callbacks := machine.callbacks ++ [callback] })

def nextSession : Step ω SessionId := fun machine =>
  (machine.sessionCount, { machine with sessionCount := machine.sessionCount + 1 })

end Machine
end NetReactor
