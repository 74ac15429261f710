import NetReactor.Machine.Ownership
/-!
Running callbacks. First comes what the operation of the callback does with its socket, then the program's
code with the result. Whatever a program may do inside is an argument here: `perform`.
-/
namespace NetReactor.Machine

variable {ω : Type}

def runProgram (perform : Action ω → Run ω Answer) : Program ω → Run ω Unit
  | .done => pure ()
  | .perform label action next => do
    let answer ← perform action
    modify (·.note (.answered label answer))
    runProgram perform (next answer)

def runCode (host : Host ω) (perform : Action ω → Run ω Answer) (id : CallbackId) (notice : Notice) :
    Run ω Unit := do
  let machine ← get
  match machine.callback? id with
  | none => pure ()
  | some callback =>
    modify (·.note (.callback id callback.code notice machine.loops))
    modify (·.updateCallback id fun callback => { callback with calls := callback.calls + 1 })
    runProgram perform (host.code callback.code callback.calls notice (← get).outside)

def connectResult (host : Host ω) (socket : SocketId) (ready : Interest) : Step ω (Outcome Unit) := do
  if ready.contains Interest.error then
    match ← ((← get).socketAt socket).takeError (kernel host) with
    | .ok (some failure) => return .error (failure.orElse .connectFailed)
    | .ok none | .error _ => return .error .connectFailed
  else return .ok ()

def acceptedName (keep : String) (number : Nat) : String := keep ++ toString number

def placeAccepted (host : Host ω) (id : CallbackId) (keep : Option String) (client : Socket) :
    Step ω SocketId := do
  let socket ← addSocket client
  match keep, (← get).callback? id with
  | some keep, some callback =>
    modify (·.updateCallback id fun callback => { callback with accepted := callback.accepted + 1 })
    storeSocket host (acceptedName keep callback.accepted) ⟨socket, false⟩
  | _, _ => closeSocket host socket false
  return socket

/-- What a ready listener has to tell. It is registered until something other than a lack of connections
goes wrong, and then it tells that for the last time. -/
def acceptResult (host : Host ω) (loop : LoopId) (id : CallbackId) (socket : SocketId)
    (keep : Option String) (descriptor : Descriptor) (ready : Interest) :
    Step ω (Option (Outcome (SocketId × Address))) := do
  if ready.contains Interest.error then
    withdraw host loop descriptor id
    return some (.error .acceptFailed)
  else
    match ← ((← get).socketAt socket).accept (kernel host) with
    | .ok (client, peer) => return some (.ok (← placeAccepted host id keep client, peer))
    | .error .wouldBlock => return none
    | .error failure =>
      withdraw host loop descriptor id
      return some (.error failure)

def sendResult (host : Host ω) (socket : SocketId) (data : Bytes) (ready : Interest) :
    Step ω (Outcome Nat) := do
  if ready.contains Interest.error then return .error .sendFailed
  else ((← get).socketAt socket).send (kernel host) data

def recvResult (host : Host ω) (socket : SocketId) (buffer : Bytes) (ready : Interest) :
    Step ω (Outcome Nat × Bytes) := do
  if ready.contains Interest.error then return (.error .receiveFailed, buffer)
  else ((← get).socketAt socket).recv (kernel host) buffer

def react (host : Host ω) (perform : Action ω → Run ω Answer) (loop : LoopId) (id : CallbackId)
    (operation : Operation) (descriptor : Descriptor) (ready : Interest) : Run ω Unit := do
  match operation with
  | .watch => runCode host perform id (.ready descriptor ready)
  | .connect socket =>
    let result ← connectResult host socket ready
    runCode host perform id (.connected result)
  | .accept socket keep =>
    match ← (acceptResult host loop id socket keep descriptor ready : Step ω _) with
    | some result => runCode host perform id (.accepted result)
    | none => pure ()
  | .send socket data =>
    let result ← sendResult host socket data ready
    runCode host perform id (.sent result)
  | .recv socket buffer =>
    let (result, buffer) ← recvResult host socket buffer ready
    runCode host perform id (.received result buffer)

/-- Runs a callback, unless it was for a single dispatch and had that. Afterwards its socket is let go of if
nothing else keeps it. -/
def fire (host : Host ω) (perform : Action ω → Run ω Answer) (loop : LoopId) (id : CallbackId)
    (descriptor : Descriptor) (ready : Interest) : Run ω Unit := do
  match (← get).callback? id with
  | none => pure ()
  | some callback =>
    if !callback.spent then
      modify fun machine =>
        { machine.updateCallback id (fun callback => { callback with spent := callback.once }) with
          executing := id :: machine.executing }
      react host perform loop id callback.operation descriptor ready
      modify fun machine => { machine with executing := machine.executing.erase id }
      releaseCallback host id

def runAtOnce (host : Host ω) (perform : Action ω → Run ω Answer) (operation : Operation)
    (code : CodeId) (notice : Notice) : Run ω Unit := do
  let id ← (addCallback { operation, code, once := true, spent := true } : Step ω CallbackId)
  runCode host perform id notice

end NetReactor.Machine
