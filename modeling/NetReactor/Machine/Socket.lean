import NetReactor.Machine.Callback
/-!
What sockets answer to a program, by the names of their handles, and what they do in the background of an
event loop. A socket has one place in a loop: a second background operation replaces the first.
-/
namespace NetReactor.Machine

variable {ω α : Type}

def onSocket (id : SocketId) (call : Socket → Step ω α) : Step ω α := do
  call ((← get).socketAt id)

def askSocket (host : Host ω) (handle : SocketHandle) (request : SocketRequest) : Step ω Answer := do
  let id := handle.id
  match request with
  | .bind address => return .done (← onSocket id (·.bind (kernel host) address))
  | .listen backlog => return .done (← onSocket id (·.listen (kernel host) backlog))
  | .accept keep =>
    match ← onSocket id (·.accept (kernel host)) with
    | .error failure => return .address (.error failure)
    | .ok (client, peer) =>
      let socket ← addSocket client
      storeSocket host keep ⟨socket, false⟩
      return .address (.ok peer)
  | .connect address => return .done (← onSocket id (·.connect (kernel host) address))
  | .send data => return .sent (← onSocket id (·.send (kernel host) data))
  | .recv buffer =>
    let (result, buffer) ← onSocket id (·.recv (kernel host) buffer)
    return .received result buffer
  | .close =>
    closeSocket host id true
    return .nothing
  | .setNonblocking on => return .done (← onSocket id (·.setNonblocking (kernel host) on))
  | .setReuseAddress on => return .done (← onSocket id (·.setReuseAddress (kernel host) on))
  | .setTimeout timeout => return .done (← onSocket id (·.setTimeout (kernel host) timeout))
  | .shutdown direction => return .done (← onSocket id (·.shutdown (kernel host) direction))
  | .takeError => return .failure (← onSocket id (·.takeError (kernel host)))
  | .localAddress => return .address (← onSocket id (·.localAddress (kernel host)))
  | .peerAddress => return .address (← onSocket id (·.peerAddress (kernel host)))
  | .view =>
    let socket := (← get).socketAt id
    return .socket socket.isOpen socket.descriptor
      (if handle.asynchronous then socket.asyncText else socket.text)

def await (host : Host ω) (loop : LoopId) (socket : SocketId) (interest : Interest) (once : Bool)
    (operation : Operation) (code : CodeId) : Step ω Unit := do
  let descriptor := ((← get).socketAt socket).descriptor
  register host loop descriptor interest { operation, code, once }

/-- Starts an operation in the background. If its result is there at once the code runs at once. -/
def startAsync (host : Host ω) (perform : Action ω → Run ω Answer) (loop : LoopId)
    (socket : SocketId) (request : AsyncRequest) : Run ω Unit := do
  let isOpen := ((← get).socketAt socket).isOpen
  match request with
  | .connect address code =>
    match ← (onSocket socket (·.connect (kernel host) address) : Step ω _) with
    | .error .wouldBlock =>
      await host loop socket Interest.write true (.connect socket) code
    | result => runAtOnce host perform (.connect socket) code (.connected result)
  | .accept keep code =>
    if isOpen then await host loop socket Interest.read false (.accept socket keep) code
    else runAtOnce host perform (.accept socket keep) code (.accepted (.error .socketClosed))
  | .send data code =>
    if isOpen then await host loop socket Interest.write true (.send socket data) code
    else runAtOnce host perform (.send socket data) code (.sent (.error .socketClosed))
  | .recv buffer code =>
    if isOpen then await host loop socket Interest.read true (.recv socket buffer) code
    else
      runAtOnce host perform (.recv socket buffer) code (.received (.error .socketClosed) buffer)
  | .cancel => unregister host loop ((← get).socketAt socket).descriptor

def becomeAsync (host : Host ω) (name : String) (id : SocketId) : Step ω Answer := do
  match ← onSocket id (·.setNonblocking (kernel host) true) with
  | .error failure =>
    releaseSocket host id
    return .done (.error failure)
  | .ok () =>
    storeSocket host name ⟨id, true⟩
    return .done (.ok ())

def socketAction (host : Host ω) (perform : Action ω → Run ω Answer) (action : SocketAction) :
    Run ω Answer := do
  match action with
  | .create name family asynchronous =>
    match ← (Socket.create (kernel host) family : Step ω _) with
    | .error failure => return .done (.error failure)
    | .ok socket =>
      let id ← (addSocket socket : Step ω SocketId)
      if asynchronous then becomeAsync host name id
      else
        storeSocket host name ⟨id, false⟩
        return .done (.ok ())
  | .adopt name descriptor =>
    let id ← (addSocket ⟨descriptor⟩ : Step ω SocketId)
    modify (·.note (.socket id (.adopted descriptor)))
    storeSocket host name ⟨id, false⟩
    return .nothing
  | .giveUp name =>
    match ← (takeSocket name SocketHandle.isPlain : Step ω _) with
    | none => return .missing
    | some handle =>
      let descriptor := ((← get).socketAt handle.id).descriptor
      modify fun machine =>
        (machine.note (.socket handle.id (.givenUp descriptor))).setSocket handle.id Socket.shut
      return .descriptor descriptor
  | .makeAsync name source =>
    match ← (takeSocket source SocketHandle.isPlain : Step ω _) with
    | none => return .missing
    | some handle => becomeAsync host name handle.id
  | .drop name =>
    match ← (takeSocket name fun _ => true : Step ω _) with
    | none => return .flag false
    | some handle =>
      releaseSocket host handle.id
      return .flag true
  | .request name request =>
    match (← get).socketHandles.get? name with
    | none => return .missing
    | some handle => askSocket host handle request
  | .async name loop request =>
    match ((← get).socketHandles.get? name).filter (·.asynchronous), (← get).loopHandles.get? loop with
    | some handle, some loop =>
      -- The loop is let go of before the socket.
      usingSocket host handle.id <| usingLoop host loop do
        startAsync host perform loop handle.id request
        return .nothing
    | _, _ => return .missing
  | .familyOf address => return .family address.family

end NetReactor.Machine
