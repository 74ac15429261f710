import NetReactor.Proofs.Session.Closing
/-!
The calls of a session with a check at each access to a buffer, and at each sum or difference of lengths: a call
halts where it would go out of range. Lengths are numbers below a limit, as those of a machine are.
-/
namespace NetReactor

variable {σ α : Type}

inductive Halt where
  | outOfRange
  | exhausted
deriving DecidableEq, Repr

abbrev Guarded (σ : Type) := StateT σ (Except Halt)

namespace Guarded

def lift (action : StateM σ α) : Guarded σ α := fun state => .ok (action state)

instance : MonadLift (StateM σ) (Guarded σ) := ⟨lift⟩

def halt (reason : Halt) : Guarded σ α := fun _ => .error reason

def demand (holds : Prop) [Decidable holds] : Guarded σ Unit :=
  if holds then pure () else halt .outOfRange

def add (limit one other : Nat) : Guarded σ Nat := do
  demand (one + other < limit)
  return one + other

def sub (one other : Nat) : Guarded σ Nat := do
  demand (other ≤ one)
  return one - other

def slice (bytes : Bytes) (first past : Nat) : Guarded σ Bytes := do
  demand (first ≤ past ∧ past ≤ bytes.length)
  return (bytes.drop first).take (past - first)

def splitAt (bytes : Bytes) (position : Nat) : Guarded σ (Bytes × Bytes) := do
  demand (position ≤ bytes.length)
  return (bytes.take position, bytes.drop position)

def drain (bytes : Bytes) (count : Nat) : Guarded σ Bytes := do
  demand (count ≤ bytes.length)
  return bytes.drop count

def copy (bytes : Bytes) (first past : Nat) (source : Bytes) : Guarded σ Bytes := do
  let range ← slice bytes first past
  demand (range.length = source.length)
  return bytes.take first ++ source ++ bytes.drop past

def sendAll (transport : Transport σ) (data : Bytes) : Guarded σ (Outcome Unit) :=
  match data with
  | [] => pure (.ok ())
  | byte :: rest => do
    match ← transport.send (byte :: rest) with
    | .error failure => return .error failure
    | .ok 0 => return .error .sendFailed
    | .ok (sent + 1) =>
      demand (sent + 1 ≤ (byte :: rest).length)
      sendAll transport (rest.drop sent)
termination_by data.length
decreasing_by
  simp only [List.length_drop, List.length_cons]
  omega

def send (limit : Nat) (transport : Transport σ) (channel : SecureChannel σ) (session : Session) (data : Bytes) :
    Guarded σ (Outcome Nat) :=
  match session.establishedSizing with
  | .error failure => pure (.error failure)
  | .ok sizing =>
    if sizing.maxMessage < data.length then pure (.error .sendFailed)
    else do
      let past ← add limit sizing.header data.length
      let length ← add limit past sizing.trailer
      let buffer ← copy (Bytes.zeros length) sizing.header past data
      let (header, rest) ← splitAt buffer sizing.header
      let (body, trailer) ← splitAt rest data.length
      match ← channel.encrypt ⟨header, body, trailer⟩ with
      | (.error _, _) => return .error .sendFailed
      | (.ok used, left) =>
        let record := Session.written ⟨header, body, trailer⟩ left
        let length ← add limit past (min used sizing.trailer)
        let wire ← slice (record.header ++ record.body ++ record.trailer) 0 length
        match ← sendAll transport wire with
        | .error failure => return .error failure
        | .ok () => return .ok data.length

def deliver (session : Session) (buffer : Bytes) : Guarded σ Session.Received := do
  let length := min session.held.length buffer.length
  let part ← slice session.held 0 length
  let buffer ← copy buffer 0 length part
  let held ← drain session.held length
  return { result := .ok length, buffer, session := { session with held } }

def accept (session : Session) (decrypted : Decrypted) (message buffer : Bytes) : Guarded σ Session.Received :=
  let rest := (decrypted.region? .extra).bind (·.bytes? message)
  let session := { session with carried := rest.getD session.carried }
  match decrypted.payload?.bind (·.bytes? message) with
  | some data => deliver { session with held := session.held ++ data } buffer
  | none => return { result := .error .receiveFailed, buffer, session }

def decryptCarried (channel : SecureChannel σ) (session : Session) (buffer : Bytes) : Guarded σ Session.Attempt := do
  let (decrypted, left) ← channel.decrypt session.carried
  let message := session.carried.overlay left
  let taken := { session with carried := [] }
  match decrypted.status with
  | .done => return .ended (← accept taken decrypted message buffer)
  | .incompleteMessage =>
    return .incomplete { session with carried := message, carriedIncomplete := true }
  | _ => return .ended { result := .error .receiveFailed, buffer, session := taken }

def receiveMore (transport : Transport σ) (channel : SecureChannel σ) (session : Session) (buffer : Bytes) :
    Guarded σ Session.Received := do
  match ← transport.recv (Bytes.zeros Session.chunk) with
  | (.error failure, _) => return { result := .error failure, buffer, session }
  | (.ok 0, _) => return { result := .ok 0, buffer, session }
  | (.ok (count + 1), scratch) =>
    let part ← slice scratch 0 (count + 1)
    let fuller := { session with carried := session.carried ++ part, carriedIncomplete := false }
    match ← decryptCarried channel fuller buffer with
    | .ended received => return received
    | .incomplete session => return { result := .error .wouldBlock, buffer, session }

def recv (transport : Transport σ) (channel : SecureChannel σ) (session : Session) (buffer : Bytes) :
    Guarded σ Session.Received :=
  match session.establishedSizing with
  | .error failure => pure { result := .error failure, buffer, session }
  | .ok _ =>
    if buffer.isEmpty then pure { result := .ok 0, buffer, session }
    else if !session.held.isEmpty then deliver session buffer
    else if session.carried.isEmpty || session.carriedIncomplete then
      receiveMore transport channel session buffer
    else do
      match ← decryptCarried channel session buffer with
      | .ended received => return received
      | .incomplete session => receiveMore transport channel session buffer

def settle (exchange : Exchange) (step : HandshakeStep) : Guarded σ Exchange :=
  let length := exchange.pending.length
  match step.extra with
  | some extra =>
    if 0 < extra ∧ extra ≤ length then do
      let used ← sub length extra
      let pending ← drain exchange.pending used
      return { exchange with status := step.status, consumed := decide (extra < length), pending }
    else pure (Exchange.settle.settleWhole exchange step)
  | none => pure (Exchange.settle.settleWhole exchange step)

def receive (transport : Transport σ) (exchange : Exchange) : Guarded σ (Outcome Exchange) := do
  match ← transport.recv exchange.scratch with
  | (.error failure, _) => return .error failure
  | (.ok 0, _) => return .error .socketClosed
  | (.ok (count + 1), scratch) =>
    let part ← slice scratch 0 (count + 1)
    return .ok { exchange with pending := exchange.pending ++ part, scratch }

def feed (transport : Transport σ) (channel : SecureChannel σ) (target : Option String) (exchange : Exchange) :
    Guarded σ (Outcome Exchange) := do
  let step ← channel.handshakeStep target (some exchange.pending)
  match ← sendAll transport step.output with
  | .error failure => return .error failure
  | .ok () => return .ok (← settle exchange step)

def advance (transport : Transport σ) (channel : SecureChannel σ) (target : Option String) (exchange : Exchange) :
    Guarded σ (Outcome Exchange) := do
  if exchange.needsInput then
    match ← receive transport exchange with
    | .error failure => return .error failure
    | .ok exchange => feed transport channel target exchange
  else feed transport channel target exchange

def run (transport : Transport σ) (channel : SecureChannel σ) (target : Option String) :
    (budget : Nat) → Exchange → Guarded σ (Outcome Exchange)
  | 0, _ => halt .exhausted
  | budget + 1, exchange => do
    if exchange.isOpen then
      match ← advance transport channel target exchange with
      | .error failure => return .error failure
      | .ok exchange => run transport channel target budget exchange
    else return .ok exchange

def exchangeTokens (transport : Transport σ) (channel : SecureChannel σ) (budget : Nat) (session : Session) :
    Guarded σ (Outcome Session.Agreement) := do
  let target := session.context.hostname
  let step ← channel.handshakeStep target none
  match ← sendAll transport step.output with
  | .error failure => return .error failure
  | .ok () =>
    match ← run transport channel target budget { pending := session.carried, status := step.status } with
    | .error failure => return .error failure
    | .ok exchange => Session.conclude channel exchange

def handshake (transport : Transport σ) (channel : SecureChannel σ) (budget : Nat) (session : Session) :
    Guarded σ (Outcome Unit × Session) := do
  match session.stage, session.credentials with
  | .notStarted, true =>
    let exchanging := { session with stage := .exchanging }
    match ← exchangeTokens transport channel budget exchanging with
    | .ok agreement =>
      return (.ok (), { exchanging with
        stage := .established, sizing := some agreement.sizing, carried := agreement.carried })
    | .error _ => return (.error .handshakeFailed, { exchanging with stage := .failed })
  | .established, _ => return (.error .alreadyConnected, session)
  | _, _ => return (.error .handshakeFailed, session)

def close (transport : Transport σ) (channel : SecureChannel σ) (session : Session) : Guarded σ Session := do
  if session.isEstablished then
    match ← channel.shutdownToken with
    | .ok token => let _ ← sendAll transport token
    | .error _ => pure ()
    transport.close
    return { session with stage := .notStarted, sizing := none }
  else
    transport.close
    return session

def answer (limit : Nat) (transport : Transport σ) (channel : SecureChannel σ) (session : Session) :
    Session.Request → Guarded σ (Session.Answer × Session)
  | .handshake budget => do
    let (result, next) ← handshake transport channel budget session
    return (.shaken result, next)
  | .send data => do return (.sent (← send limit transport channel session data), session)
  | .recv buffer => do
    let received ← recv transport channel session buffer
    return (.received received.result received.buffer, received.session)
  | .close => do return (.closed, ← close transport channel session)

def converse (limit : Nat) (transport : Transport σ) (channel : SecureChannel σ) :
    Session → List Session.Request → Guarded σ (List Session.View)
  | _, [] => return []
  | session, request :: requests => do
    let (answer, next) ← answer limit transport channel session request
    return ⟨answer, next.stage, next.sizing⟩ :: (← converse limit transport channel next requests)

end Guarded
end NetReactor
