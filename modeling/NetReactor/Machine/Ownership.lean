import NetReactor.Machine.Calls
/-!
Who keeps what. A socket is kept by its handles, by a session over it, by the action that is using it, and
by callbacks that need it; a callback by its registration and by the cycles that found it registered; a loop
by its handles and by the action that is using it. Whatever is kept by nothing any more is released: the
socket is closed, the registrations of the loop are dropped in their order. None of this is counted: `keeps`
reads it off the state.
-/
namespace NetReactor.Machine

variable {ω α : Type}

def isReachable (machine : Machine ω) (id : CallbackId) : Bool :=
  machine.loops.any (·.registry.callbacks.contains id) || machine.snapshots.any (·.contains id)

def needs (machine : Machine ω) (id : CallbackId) (socket : SocketId) : Bool :=
  match machine.callback? id with
  | none => false
  | some callback =>
    callback.operation.socket? == some socket &&
      (machine.executing.contains id || (!callback.spent && machine.isReachable id))

def keeps (machine : Machine ω) (socket : SocketId) : Bool :=
  machine.busySockets.contains socket ||
  machine.socketHandles.values.any (·.id == socket) ||
  machine.sessionHandles.values.any (·.link == .socket socket) ||
  (List.range machine.callbacks.length).any (machine.needs · socket)

def keepsLoop (machine : Machine ω) (loop : LoopId) : Bool :=
  machine.busyLoops.contains loop || machine.loopHandles.values.contains loop

def closing (machine : Machine ω) (id : SocketId) (asked : Bool) : Machine ω :=
  let socket := machine.socketAt id
  if socket.isOpen then
    -- Whether anything keeps the socket is told as of this moment, before the call.
    machine.note (.socket id (.closing socket.descriptor asked (machine.keeps id)))
  else machine

def closeSocket (host : Host ω) (id : SocketId) (asked : Bool) : Step ω Unit := do
  modify (·.closing id asked)
  let socket ← ((← get).socketAt id).close (kernel host)
  modify (·.setSocket id socket)

def releaseSocket (host : Host ω) (id : SocketId) : Step ω Unit := do
  if !(← get).keeps id then closeSocket host id false

def releaseCallback (host : Host ω) (id : CallbackId) : Step ω Unit := do
  match ((← get).callback? id).bind (·.operation.socket?) with
  | some socket => releaseSocket host socket
  | none => pure ()

def releaseOld (host : Host ω) : Option Registration → Step ω Unit
  | some old => releaseCallback host old.callback
  | none => pure ()

def register (host : Host ω) (loop : LoopId) (descriptor : Descriptor) (interest : Interest)
    (callback : Callback) : Step ω Unit := do
  let id ← addCallback callback
  let old := ((← get).loopAt loop).registry.lookup? descriptor
  let fresh : Registration := ⟨descriptor, interest, id, callback.once⟩
  modify (·.updateRegistry loop (.registered fresh) (·.insert fresh))
  releaseOld host old

def takeAway (host : Host ω) (loop : LoopId) (descriptor : Descriptor) (event : LoopEvent) :
    Step ω Unit := do
  let old := ((← get).loopAt loop).registry.lookup? descriptor
  modify (·.updateRegistry loop event (·.remove descriptor))
  releaseOld host old

def unregister (host : Host ω) (loop : LoopId) (descriptor : Descriptor) : Step ω Unit :=
  takeAway host loop descriptor (.removed descriptor)

def withdraw (host : Host ω) (loop : LoopId) (descriptor : Descriptor) (id : CallbackId) :
    Step ω Unit :=
  takeAway host loop descriptor (.withdrawn descriptor id)

def unregisterAll (host : Host ω) (loop : LoopId) : List Descriptor → Step ω Unit
  | [] => pure ()
  | descriptor :: rest => do
    unregister host loop descriptor
    unregisterAll host loop rest

def releaseLoop (host : Host ω) (loop : LoopId) : Step ω Unit := do
  let machine ← get
  if !machine.keepsLoop loop then
    unregisterAll host loop ((machine.loopAt loop).registry.entries.map (·.descriptor))

def releaseSnapshot (host : Host ω) : List CallbackId → Step ω Unit
  | [] => modify fun machine => { machine with snapshots := machine.snapshots.tail }
  | id :: rest => do
    modify fun machine => { machine with snapshots := rest :: machine.snapshots.tail }
    releaseCallback host id
    releaseSnapshot host rest

def usingLoop (host : Host ω) (loop : LoopId) (action : Run ω α) : Run ω α := do
  modify fun machine => { machine with busyLoops := loop :: machine.busyLoops }
  let answer ← action
  modify fun machine => { machine with busyLoops := machine.busyLoops.erase loop }
  releaseLoop host loop
  return answer

def usingSocket (host : Host ω) (socket : SocketId) (action : Run ω α) : Run ω α := do
  modify fun machine => { machine with busySockets := socket :: machine.busySockets }
  let answer ← action
  modify fun machine => { machine with busySockets := machine.busySockets.erase socket }
  releaseSocket host socket
  return answer

def storeLoop (host : Host ω) (name : Nat) (loop : LoopId) : Step ω Unit := do
  let old := (← get).loopHandles.get? name
  modify fun machine => { machine with loopHandles := machine.loopHandles.put name loop }
  match old with
  | some old => releaseLoop host old
  | none => pure ()

def storeSocket (host : Host ω) (name : String) (handle : SocketHandle) : Step ω Unit := do
  let old := (← get).socketHandles.get? name
  modify fun machine => { machine with socketHandles := machine.socketHandles.put name handle }
  match old with
  | some old => releaseSocket host old.id
  | none => pure ()

/-- Takes the name of a socket away, if it is the name of a handle that `suits`. The socket is not let go of. -/
def takeSocket (name : String) (suits : SocketHandle → Bool) : Step ω (Option SocketHandle) := do
  match ((← get).socketHandles.get? name).filter suits with
  | none => return none
  | some handle =>
    modify fun machine => { machine with socketHandles := machine.socketHandles.without name }
    return some handle

end NetReactor.Machine
