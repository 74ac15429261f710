import NetReactor.Machine.Callback
import NetReactor.Poll
/-!
The cycles of an event loop. A cycle polls every registered descriptor and dispatches those that are ready,
in the order of their registrations. What it dispatches is fixed before the first callback runs: callbacks
that register, replace or remove something change later cycles only.
-/
namespace NetReactor.Machine

variable {ω : Type}

/-- Dispatches one registration, and tells whether its callback was run. One that is ready is run unless it
is being run already; one for a single dispatch is taken away first. -/
def dispatch (host : Host ω) (perform : Action ω → Run ω Answer) (loop : LoopId) (entry : PollEntry)
    (registration : Registration) : Run ω Bool := do
  if !entry.isReady then return false
  else
    let id := registration.callback
    if registration.once then
      modify (·.updateRegistry loop (.retired entry.descriptor id) (·.retire entry.descriptor id))
    let machine ← get
    if machine.executing.contains id then return false
    else
      let depth := machine.snapshots.length
      modify (·.note (.loop loop (.dispatched depth id entry.descriptor entry.returned)))
      fire host perform loop id entry.descriptor entry.returned
      modify (·.note (.loop loop (.finished depth id)))
      return true

def dispatchAll (host : Host ω) (perform : Action ω → Run ω Answer) (loop : LoopId) :
    List (PollEntry × Registration) → Run ω Nat
  | [] => return 0
  | (entry, registration) :: rest => do
    let ran ← dispatch host perform loop entry registration
    let others ← dispatchAll host perform loop rest
    return ran.toNat + others

def pollEntry (registration : Registration) : PollEntry :=
  { descriptor := registration.descriptor, requested := registration.interest }

def setBuffer (machine : Machine ω) (loop : LoopId) (buffer : List PollEntry) : Machine ω :=
  machine.updateLoop loop fun state => { state with buffer }

def refill (buffer : List PollEntry) (found : List Registration) : List PollEntry :=
  -- What the buffer held is cleared.
  buffer.take 0 ++ found.map pollEntry

/-- One cycle. It gives the number of callbacks that were run; a poll call that fails counts as one that
reported nothing, and without registrations there is no poll call. While the cycle has the buffer of the loop,
a cycle inside it works with an empty one. -/
def runOnce (host : Host ω) (perform : Action ω → Run ω Answer) (loop : LoopId)
    (timeout : Option Duration) : Run ω Nat := do
  let state := (← get).loopAt loop
  let found := state.registry.entries
  if found.isEmpty then return 0
  else
    modify fun machine =>
      { machine.setBuffer loop [] with
        snapshots := found.map (·.callback) :: machine.snapshots }
    let (result, entries) ← poll (kernel host) (refill state.buffer found) timeout
    let count ← match result with
      | .ok (_ + 1) => dispatchAll host perform loop (entries.zip found)
      | .ok 0 | .error _ => pure 0
    modify (·.setBuffer loop entries)
    releaseSnapshot host (found.map (·.callback))
    return count

def setRunning (machine : Machine ω) (loop : LoopId) (running : Bool) : Machine ω :=
  machine.updateLoop loop fun state => { state with running }

def cycles (host : Host ω) (perform : Action ω → Run ω Answer) (loop : LoopId)
    (timeout : Option Duration) : (budget : Nat) → Run ω Unit
  | 0 => Budgeted.exhausted
  | budget + 1 => do
    if ((← get).loopAt loop).shouldContinue then
      let _ ← runOnce host perform loop timeout
      cycles host perform loop timeout budget

def run (host : Host ω) (perform : Action ω → Run ω Answer) (loop : LoopId)
    (timeout : Option Duration) (budget : Nat) : Run ω Unit := do
  modify (·.setRunning loop true)
  cycles host perform loop timeout budget
  modify (·.setRunning loop false)

end NetReactor.Machine
