import NetReactor.Machine.Basic
/-!
What a program can ask for, and programs as trees: an action, and for every answer to it the rest. The code
of a callback is such a tree, chosen anew each time it is run; it may read all that lies outside.
-/
namespace NetReactor

inductive LoopRequest where
  | add (descriptor : Descriptor) (interest : Interest) (code : CodeId) (once : Bool)
  | remove (descriptor : Descriptor)
  | runOnce (timeout : Option Duration)
  | run (timeout : Option Duration)
  | runDefault
  | stop
  | isRunning
  | isEmpty
  | size
  | contains (descriptor : Descriptor)
  | interest (descriptor : Descriptor)
  | defaultTimeout
  | text

inductive LoopAction where
  | create (name : Nat) (settings : LoopSettings)
  | clone (name other : Nat)
  | drop (name : Nat)
  | weaken (weak name : Nat)
  | upgrade (weak : Nat) (keep : Option Nat)
  | weakRemove (weak : Nat) (descriptor : Descriptor)
  | weakText (weak : Nat)
  | request (name : Nat) (request : LoopRequest)

inductive SocketRequest where
  | bind (address : Address)
  | listen (backlog : Int)
  | accept (keep : String)
  | connect (address : Address)
  | send (data : Bytes)
  | recv (buffer : Bytes)
  | close
  | setNonblocking (on : Bool)
  | setReuseAddress (on : Bool)
  | setTimeout (timeout : Duration)
  | shutdown (direction : Socket.Direction)
  | takeError
  | localAddress
  | peerAddress
  | view

inductive AsyncRequest where
  | connect (address : Address) (code : CodeId)
  | accept (keep : Option String) (code : CodeId)
  | send (data : Bytes) (code : CodeId)
  | recv (buffer : Bytes) (code : CodeId)
  | cancel

inductive SocketAction where
  | create (name : String) (family : Family) (asynchronous : Bool)
  | adopt (name : String) (descriptor : Descriptor)
  | giveUp (name : String)
  | makeAsync (name source : String)
  | drop (name : String)
  | request (name : String) (request : SocketRequest)
  | async (name : String) (loop : Nat) (request : AsyncRequest)
  | familyOf (address : Address)

inductive SessionRequest where
  | connect (address : Address)
  | handshake
  | send (data : Bytes)
  | recv (buffer : Bytes)
  | close
  | view

inductive SessionAction (ω : Type) where
  -- A new session is made known outside by `prepare`, before its first call.
  | open (name : String) (source : Option String) (context : Context) (prepare : SessionId → ω → ω)
  | create (name : String) (family : Family) (context : Context) (prepare : SessionId → ω → ω)
  | connectTo (name : String) (address : Address) (context : Context) (prepare : SessionId → ω → ω)
  | drop (name : String)
  | request (name : String) (request : SessionRequest)
  | outside (name : String) (change : SessionId → ω → ω)

inductive Action (ω : Type) where
  | loop (action : LoopAction)
  | socket (action : SocketAction)
  | session (action : SessionAction ω)
  | outside (change : ω → ω)

inductive Program (ω : Type) where
  | done
  | perform (label : String) (action : Action ω) (next : Answer → Program ω)

/-- All that is not part of the library: the kernel, the provider and the wire of each session, and the
code of the callbacks, which is told how often it ran before. -/
structure Host (ω : Type) where
  kernel : Kernel ω
  channel : SessionId → SecureChannel ω
  wire : SessionId → Transport ω
  code : CodeId → (calls : Nat) → Notice → ω → Program ω

end NetReactor
