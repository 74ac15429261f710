import NetReactor.Error
import NetReactor.Session.Channel
/-!
The byte stream under a secure session: sending takes a part of the data, receiving fills the start of a
buffer. Sending everything repeats the first until nothing is left or something goes wrong.
-/
namespace NetReactor

structure Transport (σ : Type) where
  send : (data : Bytes) → StateM σ (Outcome Nat)
  recv : (buffer : Bytes) → StateM σ (Outcome Nat × Bytes)
  close : StateM σ Unit

def Transport.sendAll {σ : Type} (transport : Transport σ) (data : Bytes) :
    StateM σ (Outcome Unit) :=
  match data with
  | [] => pure (.ok ())
  | byte :: rest => do
    match ← transport.send (byte :: rest) with
    | .error failure => return .error failure
    | .ok 0 => return .error .sendFailed
    | .ok (sent + 1) => transport.sendAll (rest.drop sent)
termination_by data.length
decreasing_by
  simp only [List.length_drop, List.length_cons]
  omega

end NetReactor
