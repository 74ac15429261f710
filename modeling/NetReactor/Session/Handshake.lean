import NetReactor.Session.Basic
/-!
The handshake: tokens go back and forth until the provider is done. Between two steps there are the bytes
that are still pending, the last status, and whether the provider used any of its last input; a raw receive
happens only when the next step would otherwise see nothing new. The exchange is a repeated `advance`,
counted by a budget of steps, since an arbitrary provider need not come to an end.
-/
namespace NetReactor

/-- A computation that gives nothing when its budget of steps is used up. -/
abbrev Budgeted (σ : Type) := StateT σ Option

def Budgeted.lift {σ α : Type} (action : StateM σ α) : Budgeted σ α := fun state => some (action state)

instance {σ : Type} : MonadLift (StateM σ) (Budgeted σ) := ⟨Budgeted.lift⟩

def Budgeted.exhausted {σ α : Type} : Budgeted σ α := fun _ => none

structure Exchange where
  pending : Bytes
  status : Status
  -- Whether the last input was used, at least in part.
  consumed : Bool := true
  -- The buffer of the raw receives.
  scratch : Bytes := Bytes.zeros Session.chunk

namespace Exchange

variable {σ : Type}

def isOpen (exchange : Exchange) : Bool :=
  exchange.status == .continueNeeded || exchange.status == .incompleteMessage

def needsInput (exchange : Exchange) : Bool :=
  exchange.pending.isEmpty || exchange.status == .incompleteMessage || !exchange.consumed

/-- The exchange after a step on all pending bytes. If the step left bytes at the end unused, these are
kept; otherwise everything is kept for an incomplete message and nothing after any other status. -/
def settle (exchange : Exchange) (step : HandshakeStep) : Exchange :=
  let length := exchange.pending.length
  match step.extra with
  | some extra =>
    if 0 < extra ∧ extra ≤ length then
      { exchange with
        status := step.status
        consumed := decide (extra < length)
        pending := exchange.pending.drop (length - extra) }
    else settleWhole
  | none => settleWhole
where
  -- No usable count of unused bytes was given.
  settleWhole : Exchange :=
    if step.status = .incompleteMessage then { exchange with status := step.status }
    else { exchange with status := step.status, consumed := true, pending := [] }

def receive (transport : Transport σ) (exchange : Exchange) : StateM σ (Outcome Exchange) := do
  match ← transport.recv exchange.scratch with
  | (.error failure, _) => return .error failure
  | (.ok 0, _) => return .error .socketClosed
  | (.ok count, scratch) =>
    return .ok { exchange with pending := exchange.pending ++ scratch.take count, scratch }

def feed (transport : Transport σ) (channel : SecureChannel σ) (target : Option String)
    (exchange : Exchange) : StateM σ (Outcome Exchange) := do
  let step ← channel.handshakeStep target (some exchange.pending)
  match ← transport.sendAll step.output with
  | .error failure => return .error failure
  | .ok () => return .ok (exchange.settle step)

def advance (transport : Transport σ) (channel : SecureChannel σ) (target : Option String)
    (exchange : Exchange) : StateM σ (Outcome Exchange) := do
  if exchange.needsInput then
    match ← exchange.receive transport with
    | .error failure => return .error failure
    | .ok exchange => exchange.feed transport channel target
  else exchange.feed transport channel target

def run (transport : Transport σ) (channel : SecureChannel σ) (target : Option String) :
    (budget : Nat) → Exchange → Budgeted σ (Outcome Exchange)
  | 0, _ => Budgeted.exhausted
  | budget + 1, exchange => do
    if exchange.isOpen then
      match ← exchange.advance transport channel target with
      | .error failure => return .error failure
      | .ok exchange => run transport channel target budget exchange
    else return .ok exchange

end Exchange

namespace Session

variable {σ : Type}

structure Agreement where
  sizing : RecordSizing
  carried : Bytes

def conclude (channel : SecureChannel σ) (exchange : Exchange) : StateM σ (Outcome Agreement) := do
  if exchange.status = .done then
    match ← channel.streamSizes with
    | .ok sizing => return .ok { sizing, carried := exchange.pending }
    | .error _ => return .error .handshakeFailed
  else return .error .handshakeFailed

def exchangeTokens (transport : Transport σ) (channel : SecureChannel σ) (budget : Nat)
    (session : Session) : Budgeted σ (Outcome Agreement) := do
  let target := session.context.hostname
  let step ← channel.handshakeStep target none
  match ← (transport.sendAll step.output : StateM σ _) with
  | .error failure => return .error failure
  | .ok () =>
    match ← Exchange.run transport channel target budget
        { pending := session.carried, status := step.status } with
    | .error failure => return .error failure
    | .ok exchange => conclude channel exchange

/-- Runs the handshake of a session that has not started one and has credentials. It ends established,
with the record sizes and with the bytes that came after the last token, or failed for good; why it failed
is not told. -/
def handshake (transport : Transport σ) (channel : SecureChannel σ) (budget : Nat)
    (session : Session) : Budgeted σ (Outcome Unit × Session) := do
  match session.stage, session.credentials with
  | .notStarted, true =>
    let exchanging := { session with stage := .exchanging }
    match ← exchanging.exchangeTokens transport channel budget with
    | .ok agreement =>
      return (.ok (), { exchanging with
        stage := .established, sizing := some agreement.sizing, carried := agreement.carried })
    -- The exchange may have used up what was carried. No call reads it in a stage that is never left, so it stays.
    | .error _ => return (.error .handshakeFailed, { exchanging with stage := .failed })
  | .established, _ => return (.error .alreadyConnected, session)
  | _, _ => return (.error .handshakeFailed, session)

end Session
end NetReactor
