import NetReactor.Proofs.Loop.Delivery
import NetReactor.Proofs.Loop.Replacement
/-!
Cancelling what a socket does in the background of a loop. The call takes away what is registered for the
descriptor that the socket has by then. A socket that was closed meanwhile has none, so that nothing is found; what
is found and taken away never runs again.
-/
namespace NetReactor.Machine

variable {ω α : Type} {host : Host ω} {place : Place} {events : List Event}
variable {before after machine middle last : Machine ω} {loop other : LoopId} {registration : Registration}
variable {id : CallbackId} {socket : SocketId} {descriptor : Descriptor}

structure Over (machine : Machine ω) (id : CallbackId) : Prop where
  known : id < machine.callbacks.length
  gone : machine.Gone id

theorem Over.changes (h : before.Over id) (changes : Changes events before after) : after.Over id where
  known := Nat.lt_of_lt_of_le h.known changes.grows.callbacks
  gone loop registration mem same := by
    obtain early | fresh := changes.entries mem
    · exact h.gone loop registration early same
    · exact absurd h.known (Nat.not_lt_of_le (same ▸ (changes.registered fresh).1))

/-- No cycle of a stretch of code finds it, so its code never starts. -/
theorem Trace.never (h : Trace host .code events before after) (ended : before.Over id) :
    startCount id events = 0 := by
  refine startCount_eq_zero fun code notice found mem => ?_
  obtain ⟨loop, depth, descriptor, ready, dispatched⟩ | made :=
    (h.callback mem).resolve_left (Place.not_handles rfl)
  · obtain ⟨-, registration, present | fresh, same, -⟩ | ⟨_, cycle, -⟩ := h.dispatched dispatched
    · exact ended.gone loop registration present same
    · exact absurd ended.known (Nat.not_lt_of_le (same ▸ (h.changes.registered fresh).1))
    · cases cycle
  · exact absurd ended.known (Nat.not_lt_of_le made.lower)

theorem Over.onward (ended : machine.Over id) (coherent : machine.Coherent) (h : Onward host machine last) :
    last.Gone id ∧ startCount id (last.since machine) = 0 := by
  obtain ⟨events, trace⟩ := h.trace coherent
  rw [since_eq trace.changes.journal]
  exact ⟨(ended.changes trace.changes).gone, trace.never ended⟩

theorem registry_unregister (host : Host ω) (loop other : LoopId) (descriptor : Descriptor)
    (machine : Machine ω) : ((unregister host loop descriptor machine).2.loopAt other).registry =
      if loop = other then (machine.loopAt other).registry.remove descriptor
      else (machine.loopAt other).registry := by
  let removed := machine.updateRegistry loop (.removed descriptor) (·.remove descriptor)
  obtain ⟨events, released⟩ :=
    quietly_releaseOld host ((machine.loopAt loop).registry.lookup? descriptor) removed
  have same : ((unregister host loop descriptor machine).2.loopAt other).registry =
      (removed.loopAt other).registry := released.registry other
  rw [same, registry_updateRegistry]
  by_cases here : loop = other
  · subst here
    by_cases known : loop < machine.loops.length
    · rw [if_pos ⟨rfl, known⟩, if_pos rfl]
    · -- A loop that is not there has nothing to take away.
      have none : machine.loopAt loop = {} := by
        simp [loopAt, List.getD_eq_getElem?_getD, List.getElem?_eq_none (Nat.le_of_not_lt known)]
      rw [if_neg (fun both => known both.2), if_pos rfl, none]
      rfl
  · rw [if_neg (fun both => here both.1), if_neg here]

theorem journal_unregister (host : Host ω) (loop : LoopId) (descriptor : Descriptor) (machine : Machine ω) :
    ∃ closed, Closing closed ∧ (unregister host loop descriptor machine).2.journal =
      closed ++ .loop loop (.removed descriptor) :: machine.journal :=
  closes_releaseOld host ((machine.loopAt loop).registry.lookup? descriptor)
    (machine.updateRegistry loop (.removed descriptor) (·.remove descriptor))

/-- What is taken away leaves no registration of its callback. -/
theorem Coherent.gone_of_removed (h : before.Coherent) (mem : registration ∈ before.entries loop)
    (registry : ∀ other, (after.loopAt other).registry =
      if loop = other then (before.loopAt other).registry.remove registration.descriptor
      else (before.loopAt other).registry) : after.Gone registration.callback := by
  intro other old present same
  rw [entries, registry] at present
  split at present
  · next here =>
    subst here
    obtain ⟨there, apart⟩ := Registry.mem_remove.mp present
    obtain ⟨-, rfl⟩ := h.distinct loop loop registration mem old there same
    exact apart rfl
  · next elsewhere =>
    exact elsewhere (h.distinct loop other registration mem old present same).1.symm

theorem loopHandles_closeSocket (host : Host ω) (id : SocketId) (asked : Bool) (machine : Machine ω) :
    (closeSocket host id asked machine).2.loopHandles = machine.loopHandles := by
  cases isOpen : (machine.socketAt id).isOpen with
  | false => rw [closeSocket_shut host asked isOpen]
  | true =>
    obtain ⟨outside, reply, last⟩ := closeSocket_open host asked isOpen
    rw [last]

theorem loopHandles_releaseSocket (host : Host ω) (id : SocketId) (machine : Machine ω) :
    (releaseSocket host id machine).2.loopHandles = machine.loopHandles := by
  rw [releaseSocket_eq]
  split
  · rfl
  · exact loopHandles_closeSocket host id false machine

/-- What is taken away may close a socket, but no handle of a loop changes. -/
theorem loopHandles_unregister (host : Host ω) (loop : LoopId) (descriptor : Descriptor) (machine : Machine ω) :
    (unregister host loop descriptor machine).2.loopHandles = machine.loopHandles := by
  have named : Passes (fun now => now.loopHandles = machine.loopHandles)
      (releaseOld host ((machine.loopAt loop).registry.lookup? descriptor))
      fun _ now => now.loopHandles = machine.loopHandles := by
    unfold releaseOld
    split
    · refine .bind .get fun seen => ?_
      split
      · next id _ => exact fun now same => (loopHandles_releaseSocket host id now).trans same.1
      · exact fun _ same => same.1
    · exact fun _ same => same
  exact named (machine.updateRegistry loop (.removed descriptor) (·.remove descriptor)) rfl

theorem releaseLoop_kept (host : Host ω) (keeps : machine.keepsLoop loop = true) :
    (releaseLoop host loop machine).2 = machine := by
  unfold releaseLoop
  change ((if !machine.keepsLoop loop then unregisterAll host loop
    ((machine.loopAt loop).registry.entries.map (·.descriptor)) else pure () : Step ω Unit) machine).2 = machine
  rw [keeps]
  rfl

def cancelling (host : Host ω) (loop : LoopId) (socket : SocketId) (machine : Machine ω) : Machine ω :=
  let used := { machine with
    busySockets := socket :: machine.busySockets, busyLoops := loop :: machine.busyLoops }
  (unregister host loop (machine.socketAt socket).descriptor used).2

theorem cancel_eq {name : String} {number : Nat} (host : Host ω) (budget : Nat)
    (named : machine.socketHandles.get? name = some ⟨socket, true⟩)
    (looped : machine.loopHandles.get? number = some loop) :
    ∃ busyLoops busySockets,
      perform host (budget + 1) (.socket (.async name number .cancel)) machine = some (.nothing,
        (releaseSocket host socket
          { machine.cancelling host loop socket with busyLoops, busySockets }).2) := by
  let middle := machine.cancelling host loop socket
  have kept : keepsLoop { middle with busyLoops := middle.busyLoops.erase loop } loop = true := by
    have handles : middle.loopHandles = machine.loopHandles := loopHandles_unregister host loop _ _
    rw [keepsLoop, Bool.or_eq_true, List.contains_iff_mem, List.contains_iff_mem]
    exact .inr (handles ▸ Table.mem_values_of_get? looped)
  refine ⟨middle.busyLoops.erase loop, middle.busySockets.erase socket, ?_⟩
  rw [perform, act, socketAction, run_get, run_get, named, looped]
  have released := releaseLoop_kept host kept
  change some (Answer.nothing, (releaseSocket host socket
    { (releaseLoop host loop { middle with busyLoops := middle.busyLoops.erase loop }).2 with
      busySockets := (releaseLoop host loop
        { middle with busyLoops := middle.busyLoops.erase loop }).2.busySockets.erase socket }).2) = _
  rw [released]

/-- The registration of a background operation is for the descriptor of its socket, while that is open. -/
theorem History.descriptor_eq (h : machine.History) (mem : registration ∈ machine.entries loop)
    (works : machine.socketFor? registration.callback = some socket)
    (isOpen : (machine.socketAt socket).isOpen = true) :
    (machine.socketAt socket).descriptor = registration.descriptor := by
  obtain ⟨seen, view, needs⟩ := Option.bind_eq_some_iff.mp works
  exact (h.awaits (h.registered mem) view).descriptor_eq needs isOpen

/-- It is for a real descriptor, whatever became of the socket. -/
theorem History.descriptor_ne (h : machine.History) (mem : registration ∈ machine.entries loop)
    (works : machine.socketFor? registration.callback = some socket) :
    registration.descriptor ≠ Descriptor.closed := by
  obtain ⟨seen, view, needs⟩ := Option.bind_eq_some_iff.mp works
  have made := h.registered mem
  obtain ⟨outside, all⟩ := h
  obtain ⟨_, view', waits⟩ := all.awaits made
  cases view.symm.trans view'
  exact (waits socket needs).1

structure Cancelled (host : Host ω) (before after : Machine ω) (loop : LoopId) (socket : SocketId) : Prop where
  -- No code starts. At most sockets are closed that were kept by what is taken away.
  journal : ∃ closed, Closing closed ∧ after.journal =
    closed ++ .loop loop (.removed (before.socketAt socket).descriptor) :: before.journal
  -- All other registrations stay, in their order.
  spared : (after.loopAt loop).registry.others (before.socketAt socket).descriptor =
    (before.loopAt loop).registry.others (before.socketAt socket).descriptor
  elsewhere : ∀ other, other ≠ loop → (after.loopAt other).registry = (before.loopAt other).registry
  -- An operation of an open socket has no registration any more, and never will.
  withdrawn : (before.socketAt socket).isOpen = true → ∀ registration ∈ before.entries loop,
    before.socketFor? registration.callback = some socket → after.Gone registration.callback ∧
      ∀ last, Onward host after last → last.Gone registration.callback ∧
        startCount registration.callback (last.since after) = 0
  -- An operation of a socket that lost its descriptor is not found, and stays.
  overlooked : (before.socketAt socket).isOpen = false → ∀ registration ∈ before.entries loop,
    before.socketFor? registration.callback = some socket → registration ∈ after.entries loop

theorem cancel_withdraws {name : String} {number : Nat} (host : Host ω) (budget : Nat) (history : machine.History)
    (named : machine.socketHandles.get? name = some ⟨socket, true⟩)
    (looped : machine.loopHandles.get? number = some loop) :
    ∃ after, perform host (budget + 1) (.socket (.async name number .cancel)) machine =
      some (.nothing, after) ∧ Cancelled host machine after loop socket := by
  obtain ⟨busyLoops, busySockets, performed⟩ := cancel_eq host budget named looped
  refine ⟨_, performed, ?_⟩
  generalize left : (releaseSocket host socket
    { machine.cancelling host loop socket with busyLoops, busySockets }).2 = after at performed ⊢
  have registry (other : LoopId) : (after.loopAt other).registry =
      if loop = other then (machine.loopAt other).registry.remove (machine.socketAt socket).descriptor
      else (machine.loopAt other).registry := by
    obtain ⟨_, released⟩ := quietly_releaseSocket host socket
      { machine.cancelling host loop socket with busyLoops, busySockets }
    exact left ▸ (released.registry other).trans (registry_unregister host loop other _ _)
  obtain ⟨_, trace⟩ := runs_perform (budget + 1) _ machine _ after history.coherent performed
  constructor
  case journal =>
    obtain ⟨early, closing, removed⟩ := journal_unregister host loop (machine.socketAt socket).descriptor
      { machine with busySockets := socket :: machine.busySockets, busyLoops := loop :: machine.busyLoops }
    obtain ⟨late, closing', released⟩ := closes_releaseSocket host socket
      { machine.cancelling host loop socket with busyLoops, busySockets }
    refine ⟨late ++ early, fun event mem => (List.mem_append.mp mem).elim (closing' event) (closing event), ?_⟩
    rw [List.append_assoc, ← removed, ← left]
    exact released
  case spared => rw [registry, if_pos rfl, Registry.others_remove]
  case elsewhere => exact fun other apart => (registry other).trans (if_neg (Ne.symm apart))
  case withdrawn =>
    intro isOpen registration mem works
    have same := history.descriptor_eq mem works isOpen
    have ended : after.Over registration.callback :=
      { known := Nat.lt_of_lt_of_le (history.lt_callbacks (history.registered mem)) trace.changes.grows.callbacks
        gone := history.coherent.gone_of_removed mem (same ▸ registry) }
    exact ⟨ended.gone, fun last onward => ended.onward (history.coherent.changes trace.changes) onward⟩
  case overlooked =>
    intro shut registration mem works
    rw [entries, registry, if_pos rfl, Registry.mem_remove, Socket.eq_shut shut]
    exact ⟨mem, history.descriptor_ne mem works⟩

def openingKernel : Kernel (Option Role)
  | .socket .. => pure { result := 6 }
  | call => readableKernel call

def openingHost : Host (Option Role) := plainHost openingKernel fun _ _ _ _ => .done

def waitForData : List (Action (Option Role)) :=
  [.loop (.create 0 {}), .socket (.create "stream" .v4 true), .socket (.async "stream" 0 (.recv [0] 0))]

def pendingReceive : Registration := ⟨6, Interest.read, 0, true⟩

theorem cancel_withdraws_receive :
    ∃ machine after, machine.History ∧ machine.socketHandles.get? "stream" = some ⟨0, true⟩ ∧
      machine.loopHandles.get? 0 = some 0 ∧ (machine.socketAt 0).isOpen = true ∧
      pendingReceive ∈ machine.entries 0 ∧ machine.socketFor? 0 = some 0 ∧
      perform openingHost 1 (.socket (.async "stream" 0 .cancel)) machine = some (.nothing, after) ∧
      Cancelled openingHost machine after 0 0 ∧ after.Gone 0 := by
  have ran : (performAll openingHost 2 waitForData { outside := none }).map (fun machine =>
      decide (machine.socketHandles.get? "stream" = some ⟨0, true⟩ ∧ machine.loopHandles.get? 0 = some 0 ∧
        (machine.socketAt 0).isOpen = true ∧ pendingReceive ∈ machine.entries 0 ∧
        machine.socketFor? 0 = some 0)) = some true := by decide +kernel
  obtain ⟨machine, ran, checked⟩ := Option.map_eq_some_iff.mp ran
  obtain ⟨named, looped, isOpen, mem, works⟩ := of_decide_eq_true checked
  have history := ((Reachable.new none).performAll ran).history
  obtain ⟨after, performed, cancelled⟩ := cancel_withdraws openingHost 0 history named looped
  exact ⟨machine, after, history, named, looped, isOpen, mem, works, performed, cancelled,
    (cancelled.withdrawn isOpen pendingReceive mem works).1⟩

def closeThenCancel : List (Action (Option Role)) :=
  [.socket (.request "stream" .close), .socket (.async "stream" 0 .cancel)]

def cycleOnce : List (Action (Option Role)) := [.loop (.request 0 (.runOnce none))]

/-- The registration of a closed socket outlives its cancellation, and the next cycle runs the code. -/
theorem cancelled_receive_runs : ∃ machine after last,
    Reachable openingHost machine ∧ machine.snapshots = [] ∧ pendingReceive ∈ machine.entries 0 ∧
      machine.socketFor? pendingReceive.callback = some 0 ∧
    performAll openingHost 2 closeThenCancel machine = some after ∧ pendingReceive ∈ after.entries 0 ∧
    performAll openingHost 2 cycleOnce after = some last ∧
      startCount pendingReceive.callback (last.since after) = 1 := by
  have ran : ((performAll openingHost 2 waitForData { outside := none }).bind fun machine =>
      (performAll openingHost 2 closeThenCancel machine).bind fun after =>
        (performAll openingHost 2 cycleOnce after).map fun last =>
          decide (machine.snapshots = [] ∧ pendingReceive ∈ machine.entries 0 ∧
            machine.socketFor? pendingReceive.callback = some 0 ∧ pendingReceive ∈ after.entries 0 ∧
            startCount pendingReceive.callback (last.since after) = 1)) = some true := by decide +kernel
  obtain ⟨machine, began, ran⟩ := Option.bind_eq_some_iff.mp ran
  obtain ⟨after, cancelled, ran⟩ := Option.bind_eq_some_iff.mp ran
  obtain ⟨last, cycled, checked⟩ := Option.map_eq_some_iff.mp ran
  obtain ⟨idle, pending, works, stays, started⟩ := of_decide_eq_true checked
  exact ⟨machine, after, last, (Reachable.new none).performAll began, idle, pending, works, cancelled,
    stays, cycled, started⟩

end NetReactor.Machine
