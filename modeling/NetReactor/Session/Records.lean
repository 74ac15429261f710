import NetReactor.Session.Basic
/-!
Plaintext over an established session. Sending makes one record of the data. Receiving hands out plaintext
that is held, or else decrypts one record, with at most one raw receive in a call; a record that is still
not whole after it is left for a later call.
-/
namespace NetReactor.Session

variable {σ : Type}

def blank (sizing : RecordSizing) (data : Bytes) : Record :=
  ⟨Bytes.zeros sizing.header, data, Bytes.zeros sizing.trailer⟩

def written (before after : Record) : Record :=
  ⟨before.header.overlay after.header, before.body.overlay after.body,
    before.trailer.overlay after.trailer⟩

def wireBytes (record : Record) (used : Nat) : Bytes :=
  record.header ++ record.body ++ record.trailer.take used

def send (transport : Transport σ) (channel : SecureChannel σ) (session : Session) (data : Bytes) :
    StateM σ (Outcome Nat) :=
  match session.establishedSizing with
  | .error failure => pure (.error failure)
  | .ok sizing =>
    if sizing.maxMessage < data.length then pure (.error .sendFailed)
    else do
      match ← channel.encrypt (blank sizing data) with
      | (.error _, _) => return .error .sendFailed
      | (.ok used, record) =>
        match ← transport.sendAll (wireBytes (written (blank sizing data) record) used) with
        | .error failure => return .error failure
        | .ok () => return .ok data.length

structure Received where
  result : Outcome Nat
  buffer : Bytes
  session : Session

def deliver (session : Session) (buffer : Bytes) : Received :=
  let length := min session.held.length buffer.length
  { result := .ok length
    buffer := buffer.overlay session.held
    session := { session with held := session.held.drop length } }

/-- Takes the plaintext of a decrypted message, and carries over what lies past its record. A message
without plaintext is a failure, but the rest of it is carried over all the same. -/
def accept (session : Session) (decrypted : Decrypted) (message buffer : Bytes) : Received :=
  let rest := (decrypted.region? .extra).bind (·.bytes? message)
  let session := { session with carried := rest.getD session.carried }
  match decrypted.payload?.bind (·.bytes? message) with
  | some data => { session with held := session.held ++ data }.deliver buffer
  | none => { result := .error .receiveFailed, buffer, session }

inductive Attempt where
  | ended (received : Received)
  -- The carried bytes hold no whole record.
  | incomplete (session : Session)

def decryptCarried (channel : SecureChannel σ) (session : Session) (buffer : Bytes) :
    StateM σ Attempt := do
  let (decrypted, left) ← channel.decrypt session.carried
  let message := session.carried.overlay left
  let taken := { session with carried := [] }
  match decrypted.status with
  | .done => return .ended (taken.accept decrypted message buffer)
  | .incompleteMessage =>
    return .incomplete { session with carried := message, carriedIncomplete := true }
  | _ => return .ended { result := .error .receiveFailed, buffer, session := taken }

def receiveMore (transport : Transport σ) (channel : SecureChannel σ) (session : Session)
    (buffer : Bytes) : StateM σ Received := do
  match ← transport.recv (Bytes.zeros chunk) with
  | (.error failure, _) => return { result := .error failure, buffer, session }
  | (.ok 0, _) => return { result := .ok 0, buffer, session }
  | (.ok count, scratch) =>
    let fuller := { session with
      carried := session.carried ++ scratch.take count, carriedIncomplete := false }
    match ← fuller.decryptCarried channel buffer with
    | .ended received => return received
    | .incomplete session => return { result := .error .wouldBlock, buffer, session }

/-- Receives plaintext into a buffer. An empty buffer gets nothing and changes nothing; held plaintext goes
first; carried bytes are tried before more are received, unless they are known not to hold a record. -/
def recv (transport : Transport σ) (channel : SecureChannel σ) (session : Session) (buffer : Bytes) :
    StateM σ Received :=
  match session.establishedSizing with
  | .error failure => pure { result := .error failure, buffer, session }
  | .ok _ =>
    if buffer.isEmpty then pure { result := .ok 0, buffer, session }
    else if !session.held.isEmpty then pure (session.deliver buffer)
    else if session.carried.isEmpty || session.carriedIncomplete then
      session.receiveMore transport channel buffer
    else do
      match ← session.decryptCarried channel buffer with
      | .ended received => return received
      | .incomplete session => session.receiveMore transport channel buffer

end NetReactor.Session
