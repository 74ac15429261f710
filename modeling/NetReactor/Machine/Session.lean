import NetReactor.Machine.Ownership
/-!
What secure sessions answer to a program, by their names. A session has the socket under it for itself, and
closes it when it is dropped.
-/
namespace NetReactor.Machine

variable {ω : Type}

def socketTransport (host : Host ω) (id : SocketId) (asked : Bool) : Transport (Machine ω) where
  send data := do ((← get).socketAt id).send (kernel host) data
  recv buffer := do ((← get).socketAt id).recv (kernel host) buffer
  close := closeSocket host id asked

/-- What lies under a session as a byte stream. Only in a close call the program `asked` to close it. -/
def transport (host : Host ω) (id : SessionId) (asked : Bool) : Link → Transport (Machine ω)
  | .socket socket => socketTransport host socket asked
  | .wire => wire host id

def dropSession (host : Host ω) (opened : OpenSession) : Step ω Unit := do
  let _ ← opened.session.close (transport host opened.id false opened.link) (channel host opened.id)

def openSession (host : Host ω) (link : Link) (context : Context) (prepare : SessionId → ω → ω) :
    Step ω OpenSession := do
  let id ← nextSession
  modify fun machine => { machine with outside := prepare id machine.outside }
  let session ← Session.create (channel host id) context
  return { id, link, session }

def storeSession (host : Host ω) (name : String) (opened : OpenSession) : Step ω Unit := do
  let old := (← get).sessionHandles.get? name
  modify fun machine => { machine with sessionHandles := machine.sessionHandles.put name opened }
  match old with
  | some old => dropSession host old
  | none => pure ()

def connectLink (host : Host ω) (link : Link) (address : Address) : Step ω (Outcome Unit) := do
  match link with
  | .socket id => ((← get).socketAt id).connect (kernel host) address
  | .wire => return .error .connectFailed

def shakeHands (host : Host ω) (budget : Nat) (opened : OpenSession) :
    Run ω (Outcome Unit × OpenSession) := do
  let (result, session) ← opened.session.handshake (transport host opened.id false opened.link)
    (channel host opened.id) budget
  return (result, { opened with session })

def connectSession (host : Host ω) (budget : Nat) (address : Address) (opened : OpenSession) :
    Run ω (Outcome Unit × OpenSession) := do
  match ← (connectLink host opened.link address : Step ω _) with
  | .error failure => return (.error failure, opened)
  | .ok () => shakeHands host budget opened

def viewSession (machine : Machine ω) (opened : OpenSession) : SessionView where
  id := opened.id
  stage := opened.session.stage
  sizing := opened.session.sizing
  context := opened.session.context
  descriptor :=
    match opened.link with
    | .socket id => some (machine.socketAt id).descriptor
    | .wire => none

def askSession (host : Host ω) (budget : Nat) (opened : OpenSession) (request : SessionRequest) :
    Run ω (Answer × OpenSession) := do
  let transport := transport host opened.id (request matches .close) opened.link
  let channel := channel host opened.id
  match request with
  | .connect address =>
    let (result, opened) ← connectSession host budget address opened
    return (.done result, opened)
  | .handshake =>
    let (result, opened) ← shakeHands host budget opened
    return (.done result, opened)
  | .send data =>
    let result ← opened.session.send transport channel data
    return (.sent result, opened)
  | .recv buffer =>
    let received ← opened.session.recv transport channel buffer
    return (.received received.result received.buffer, { opened with session := received.session })
  | .close =>
    let session ← opened.session.close transport channel
    return (.nothing, { opened with session })
  | .view => return (.session ((← get).viewSession opened), opened)

def sessionAction (host : Host ω) (budget : Nat) (action : SessionAction ω) : Run ω Answer := do
  match action with
  | .open name none context prepare =>
    let opened ← openSession host .wire context prepare
    storeSession host name opened
    return .nothing
  | .open name (some source) context prepare =>
    match ← (takeSocket source SocketHandle.isPlain : Step ω _) with
    | none => return .missing
    | some handle =>
      let opened ← openSession host (.socket handle.id) context prepare
      storeSession host name opened
      return .nothing
  | .create name family context prepare =>
    match ← (Socket.create (kernel host) family : Step ω _) with
    | .error failure => return .done (.error failure)
    | .ok socket =>
      let id ← (addSocket socket : Step ω SocketId)
      let opened ← openSession host (.socket id) context prepare
      storeSession host name opened
      return .done (.ok ())
  | .connectTo name address context prepare =>
    match ← (Socket.create (kernel host) address.family : Step ω _) with
    | .error failure => return .done (.error failure)
    | .ok socket =>
      let id ← (addSocket socket : Step ω SocketId)
      let opened ← openSession host (.socket id) context prepare
      let (result, opened) ← connectSession host budget address opened
      match result with
      | .error failure =>
        dropSession host opened
        return .done (.error failure)
      | .ok () =>
        storeSession host name opened
        return .done (.ok ())
  | .drop name =>
    match (← get).sessionHandles.get? name with
    | none => return .flag false
    | some opened =>
      modify fun machine => { machine with sessionHandles := machine.sessionHandles.without name }
      dropSession host opened
      return .flag true
  | .request name request =>
    match (← get).sessionHandles.get? name with
    | none => return .missing
    | some opened =>
      let (answer, opened) ← askSession host budget opened request
      modify fun machine => { machine with sessionHandles := machine.sessionHandles.put name opened }
      return answer
  | .outside name change =>
    match (← get).sessionHandles.get? name with
    | none => return .missing
    | some opened =>
      modify fun machine => { machine with outside := change opened.id machine.outside }
      return .nothing

end NetReactor.Machine
