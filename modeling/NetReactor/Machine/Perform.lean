import NetReactor.Machine.Loop
import NetReactor.Machine.Session
import NetReactor.Machine.Socket
/-!
Performing actions. The code of a callback performs actions too, so an action may hold others to any depth,
and a loop that is never stopped has no last cycle. Both are bounded by one budget: an action gets one unit
less for the actions inside it, and as many cycles or handshake rounds as it has units.
-/
namespace NetReactor.Machine

variable {ω : Type}

def act (host : Host ω) (perform : Action ω → Run ω Answer) (budget : Nat) :
    Action ω → Run ω Answer
  | .loop action => loopAction host perform budget action
  | .socket action => socketAction host perform action
  | .session action => sessionAction host budget action
  | .outside change => do
    modify fun machine => { machine with outside := change machine.outside }
    return .nothing

def perform (host : Host ω) : (budget : Nat) → Action ω → Run ω Answer
  | 0, _ => Budgeted.exhausted
  | budget + 1, action => act host (perform host budget) budget action

end NetReactor.Machine
