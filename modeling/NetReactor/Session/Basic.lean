import NetReactor.Session.Transport
/-!
A secure session as the data it carries from call to call. Its stage says what may be done with it; record
sizes are known while it is established. Bytes that were received and not yet used wait in `carried`,
plaintext that found no room waits in `held`.
-/
namespace NetReactor

inductive Stage where
  | notStarted
  | exchanging
  | established
  | failed
deriving DecidableEq, Repr

structure Session where
  context : Context
  credentials : Bool
  stage : Stage := .notStarted
  sizing : Option RecordSizing := none
  carried : Bytes := []
  -- The provider has seen exactly the carried bytes and found no whole record in them.
  carriedIncomplete : Bool := false
  held : Bytes := []

namespace Session

variable {σ : Type}

def chunk : Nat := 16384

def create (channel : SecureChannel σ) (context : Context) : StateM σ Session := do
  match ← channel.acquireCredentials context with
  | .ok () => return { context, credentials := true }
  | .error _ => return { context, credentials := false }

def isEstablished (session : Session) : Bool := session.stage == .established

def establishedSizing (session : Session) : Outcome RecordSizing :=
  match session.stage, session.sizing with
  | .established, some sizing => .ok sizing
  | .notStarted, _ | .exchanging, _ =>
    .error (if session.credentials then .notConnected else .handshakeFailed)
  | _, _ => .error .handshakeFailed

/-- Sends the provider's last token if the session is established, whether that works or not, and closes
the transport. -/
def close (transport : Transport σ) (channel : SecureChannel σ) (session : Session) :
    StateM σ Session := do
  if session.isEstablished then
    match ← channel.shutdownToken with
    | .ok token => let _ ← transport.sendAll token
    | .error _ => pure ()
    transport.close
    return { session with stage := .notStarted, sizing := none }
  else
    transport.close
    return session

end Session
end NetReactor
