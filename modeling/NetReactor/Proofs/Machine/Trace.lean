import NetReactor.Proofs.Machine.Dispatches
import NetReactor.Proofs.Machine.Quiet
/-!
What a run can do, as one inductive relation: quiet steps, changes of registrations, and cycles with the
dispatches inside them, nested to any depth. Every invariant of runs is an induction over it. That actions
have such traces is shown elsewhere; nothing is assumed here about the program or about the kernel.
-/
namespace NetReactor.Machine

variable {ω : Type}

/-- What the operation of a callback tells the code of the program, if anything. -/
def respond (host : Host ω) (loop : LoopId) (id : CallbackId) (operation : Operation)
    (descriptor : Descriptor) (ready : Interest) : Step ω (Option Notice) := do
  match operation with
  | .watch => return some (.ready descriptor ready)
  | .connect socket => return some (.connected (← connectResult host socket ready))
  | .accept socket keep =>
    return (← acceptResult host loop id socket keep descriptor ready).map .accepted
  | .send socket data => return some (.sent (← sendResult host socket data ready))
  | .recv socket buffer =>
    let (result, buffer) ← recvResult host socket buffer ready
    return some (.received result buffer)

inductive Stretch where
  | code
  | cycle (loop : LoopId) (found : List Registration)
  | operation (loop : LoopId) (registration : Registration)

inductive Place where
  | stretch (stretch : Stretch)
  | reaction (loop : LoopId) (registration : Registration) (ready : Interest)

namespace Place

abbrev code : Place := .stretch .code

abbrev cycle (loop : LoopId) (found : List Registration) : Place := .stretch (.cycle loop found)

abbrev operation (loop : LoopId) (registration : Registration) : Place :=
  .stretch (.operation loop registration)

def handled? : Place → Option (LoopId × Registration)
  | .stretch .code | .stretch (.cycle ..) => none
  | .stretch (.operation loop registration) | .reaction loop registration _ => some (loop, registration)

end Place

/-- What happens in a stretch of a run, with the events it leaves in the journal, the latest first. -/
inductive Trace (host : Host ω) : Place → List Event → Machine ω → Machine ω → Prop
  | quiet {stretch events before after} (h : Quiet events before after) :
    Trace host (.stretch stretch) events before after
  -- A cycle waits for all that is registered.
  | poll {machine : Machine ω} {loop listed found} (current : machine.entries loop = found)
    (nonempty : found ≠ []) (timeout reply outside) :
    Trace host (.cycle loop listed) [.syscall (pollCall found timeout) reply] machine
      ({ machine with outside }.note (.syscall (pollCall found timeout) reply))
  | seq {stretch early late first middle last} (h : Trace host (.stretch stretch) early first middle)
    (h' : Trace host (.stretch stretch) late middle last) :
    Trace host (.stretch stretch) (late ++ early) first last
  | addLoop (machine settings) :
    Trace host .code [.loop machine.loops.length .created] machine (machine.withLoop settings)
  | register {machine : Machine ω} (loop descriptor interest) {callback : Callback}
    (fresh : callback.spent = false) (fits : machine.Fits callback.operation descriptor)
    (apt : callback.once = true → callback.operation.accepts = false) :
    Trace host .code
      [.loop loop (.registered (machine.placeFor descriptor interest callback))]
      machine (machine.enrolled loop descriptor interest callback)
  | remove (machine loop descriptor) :
    Trace host .code [.loop loop (.removed descriptor)] machine
      (machine.updateRegistry loop (.removed descriptor) (·.remove descriptor))
  -- Code with a result that was there at once.
  | atOnce {machine after : Machine ω} {callback : Callback} {notice events}
    (spent : callback.spent = true)
    (h : Trace host .code events
      ((machine.withCallback callback).told machine.callbacks.length callback.code notice) after) :
    Trace host .code
      (events ++ [.callback machine.callbacks.length callback.code notice machine.loops]) machine after
  | stop (machine loop) :
    Trace host .code [.loop loop .stopped] machine
      ((machine.setRunning loop false).note (.loop loop .stopped))
  | run {machine after : Machine ω} {loop events}
    (h : Trace host .code events (machine.setRunning loop true) after) :
    Trace host .code events machine (after.setRunning loop false)
  -- A cycle runs a callback at most once.
  | cycle {machine after : Machine ω} {loop events}
    {once : ((dispatches loop (machine.snapshots.length + 1) events).map (·.1)).Nodup}
    (h : Trace host (.cycle loop (machine.entries loop)) events (machine.cycling loop) after) :
    Trace host .code events machine { after with snapshots := machine.snapshots }
  -- A callback that is being run already is not run again.
  | skip {machine : Machine ω} {loop found registration} (member : registration ∈ found)
    (busy : registration.callback ∈ machine.executing) :
    Trace host (.cycle loop found) (retirement loop registration) machine
      (machine.retiring loop registration)
  | dispatch {machine after : Machine ω} {loop found registration ready events}
    (member : registration ∈ found) (idle : registration.callback ∉ machine.executing)
    (h : Trace host (.reaction loop registration ready) events
      (machine.announced loop registration ready) after) :
    Trace host (.cycle loop found)
      (.loop loop (.finished machine.snapshots.length registration.callback) :: (events ++
        (.loop loop (.dispatched machine.snapshots.length registration.callback
          registration.descriptor ready) :: retirement loop registration)))
      machine (after.note (.loop loop (.finished machine.snapshots.length registration.callback)))
  | withdraw (machine loop registration) :
    Trace host (.operation loop registration)
      [.loop loop (.withdrawn registration.descriptor registration.callback)] machine
      (machine.updateRegistry loop (.withdrawn registration.descriptor registration.callback)
        (·.remove registration.descriptor))
  -- A callback for a single dispatch that had it does nothing.
  | spent {machine : Machine ω} {loop registration ready callback}
    (known : machine.callback? registration.callback = some callback)
    (spent : callback.spent = true) :
    Trace host (.reaction loop registration ready) [] machine machine
  -- The operation has nothing to tell.
  | overlooked {machine middle last : Machine ω} {loop registration ready callback responded released}
    (known : machine.callback? registration.callback = some callback)
    (fresh : callback.spent = false)
    (gone : callback.once = true → machine.Gone registration.callback)
    (response : respond host loop registration.callback callback.operation registration.descriptor
      ready (machine.started registration.callback) = (none, middle))
    (operation : Trace host (.operation loop registration) responded
      (machine.started registration.callback) middle)
    {lets : (releaseCallback host registration.callback (middle.ended registration.callback)).2 = last}
    (release : Quiet released (middle.ended registration.callback) last) :
    Trace host (.reaction loop registration ready) (released ++ responded) machine last
  | told {machine middle inside last : Machine ω}
    {loop registration ready callback notice responded events released}
    (known : machine.callback? registration.callback = some callback)
    (fresh : callback.spent = false)
    (gone : callback.once = true → machine.Gone registration.callback)
    (response : respond host loop registration.callback callback.operation registration.descriptor
      ready (machine.started registration.callback) = (some notice, middle))
    (operation : Trace host (.operation loop registration) responded
      (machine.started registration.callback) middle)
    (code : Trace host .code events
      (middle.told registration.callback callback.code notice) inside)
    {lets : (releaseCallback host registration.callback (inside.ended registration.callback)).2 = last}
    (release : Quiet released (inside.ended registration.callback) last) :
    Trace host (.reaction loop registration ready)
      (released ++ (events ++
        (.callback registration.callback callback.code notice middle.loops :: responded)))
      machine last

/-- What happens is a sequence of changes, wherever it takes place. -/
theorem Trace.changes {host : Host ω} {place : Place} {events : List Event} {before after : Machine ω}
    (h : Trace host place events before after) : Changes events before after := by
  induction h with
  | quiet h => exact (Change.quiet h).once
  | poll current nonempty timeout reply outside =>
    exact (Change.poll current nonempty timeout reply outside).once
  | seq _ _ ih ih' => exact ih.trans ih'
  | addLoop machine settings => exact (Change.addLoop machine settings).once
  | register loop descriptor interest fresh fits apt =>
    exact (Change.register loop descriptor interest fresh fits apt).once
  | remove machine loop descriptor => exact (Change.remove machine loop descriptor).once
  | @atOnce machine _ _ notice _ spent _ ih => exact (changes_atOnce machine spent notice).trans ih
  | stop machine loop => exact (Change.setRunning machine loop false).once.step (.stopped _ loop)
  | @run machine _ loop _ _ ih =>
    have ran := ((Change.setRunning machine loop true).once.trans ih).step (.setRunning _ loop false)
    simpa using ran
  | @cycle machine _ loop _ _ _ ih =>
    have ran := ((changes_cycling machine loop).trans ih).step (.setSnapshots _ machine.snapshots)
    simpa using ran
  | @skip machine loop _ registration => exact (Change.retire machine loop registration).once
  | @dispatch machine _ loop _ registration ready _ _ _ _ ih =>
    exact ((changes_announced machine loop registration ready).trans ih).step (.finished _ loop _ _)
  | withdraw machine loop registration => exact (Change.withdraw machine loop _ _).once
  | spent => exact .refl _
  | overlooked known _ gone _ _ release ih =>
    have ran := (((Change.start known gone).once.trans ih).step (.finish _ _)).step (.quiet release)
    simpa using ran
  | told known _ gone _ _ _ release ih ih' =>
    have began := (((Change.start known gone).once.trans ih).step (.tell _ _ _ _)).trans ih'
    have ran := (began.step (.finish _ _)).step (.quiet release)
    simpa using ran

end NetReactor.Machine
