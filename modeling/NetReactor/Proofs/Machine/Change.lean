import NetReactor.Proofs.Loop.Registry
import NetReactor.Proofs.Machine.Frame
/-!
The changes of a machine that event loops and callbacks do notice, and what each of them leaves alone. A run
is a sequence of such changes. Nothing is said here about when they happen.
-/
namespace NetReactor

def Callback.run (callback : Callback) : Callback := { callback with spent := callback.once }

@[simp] theorem Callback.uncounted_run (callback : Callback) :
    callback.run.uncounted = callback.uncounted.run := rfl

def Operation.accepts : Operation → Bool
  | .accept .. => true
  | _ => false

namespace Machine

variable {ω : Type}

def withCallback (machine : Machine ω) (callback : Callback) : Machine ω :=
  { machine with callbacks := machine.callbacks ++ [callback] }

def placeFor (machine : Machine ω) (descriptor : Descriptor) (interest : Interest)
    (callback : Callback) : Registration :=
  ⟨descriptor, interest, machine.callbacks.length, callback.once⟩

def enrolled (machine : Machine ω) (loop : LoopId) (descriptor : Descriptor) (interest : Interest)
    (callback : Callback) : Machine ω :=
  (machine.withCallback callback).updateRegistry loop
    (.registered (machine.placeFor descriptor interest callback))
    (·.insert (machine.placeFor descriptor interest callback))

def started (machine : Machine ω) (id : CallbackId) : Machine ω :=
  { machine.updateCallback id Callback.run with executing := id :: machine.executing }

def ended (machine : Machine ω) (id : CallbackId) : Machine ω :=
  { machine with executing := machine.executing.erase id }

def told (machine : Machine ω) (id : CallbackId) (code : CodeId) (notice : Notice) : Machine ω :=
  (machine.note (.callback id code notice machine.loops)).updateCallback id
    fun callback => { callback with calls := callback.calls + 1 }

def cycling (machine : Machine ω) (loop : LoopId) : Machine ω :=
  { machine.setBuffer loop [] with
    snapshots := (machine.entries loop).map (·.callback) :: machine.snapshots }

def withLoop (machine : Machine ω) (settings : LoopSettings) : Machine ω :=
  (addLoop settings.build machine).2

def retiring (machine : Machine ω) (loop : LoopId) (registration : Registration) : Machine ω :=
  if registration.once then
    machine.updateRegistry loop (.retired registration.descriptor registration.callback)
      (·.retire registration.descriptor registration.callback)
  else machine

/-- What the journal says about a registration that is taken away if it is for a single dispatch. -/
def retirement (loop : LoopId) (registration : Registration) : List Event :=
  if registration.once then
    [.loop loop (.retired registration.descriptor registration.callback)]
  else []

def announced (machine : Machine ω) (loop : LoopId) (registration : Registration) (ready : Interest) :
    Machine ω :=
  (machine.retiring loop registration).note (.loop loop (.dispatched machine.snapshots.length
    registration.callback registration.descriptor ready))

@[simp] theorem journal_retiring (machine : Machine ω) (loop : LoopId)
    (registration : Registration) :
    (machine.retiring loop registration).journal =
      retirement loop registration ++ machine.journal := by
  unfold retiring retirement
  split <;> rfl

@[simp] theorem executing_retiring (machine : Machine ω) (loop : LoopId)
    (registration : Registration) :
    (machine.retiring loop registration).executing = machine.executing := by
  unfold retiring
  split <;> rfl

@[simp] theorem snapshots_retiring (machine : Machine ω) (loop : LoopId)
    (registration : Registration) :
    (machine.retiring loop registration).snapshots = machine.snapshots := by
  unfold retiring
  split <;> rfl

@[simp] theorem executing_announced (machine : Machine ω) (loop : LoopId)
    (registration : Registration) (ready : Interest) :
    (machine.announced loop registration ready).executing = machine.executing :=
  executing_retiring machine loop registration

@[simp] theorem snapshots_announced (machine : Machine ω) (loop : LoopId)
    (registration : Registration) (ready : Interest) :
    (machine.announced loop registration ready).snapshots = machine.snapshots :=
  snapshots_retiring machine loop registration

@[simp] theorem length_withCallback (machine : Machine ω) (callback : Callback) :
    (machine.withCallback callback).callbacks.length = machine.callbacks.length + 1 := by
  simp [withCallback]

@[simp] theorem length_enrolled (machine : Machine ω) (loop : LoopId) (descriptor : Descriptor)
    (interest : Interest) (callback : Callback) :
    (machine.enrolled loop descriptor interest callback).callbacks.length =
      machine.callbacks.length + 1 :=
  length_withCallback machine callback

@[simp] theorem length_note (machine : Machine ω) (event : Event) :
    (machine.note event).callbacks.length = machine.callbacks.length := rfl

@[simp] theorem length_told (machine : Machine ω) (id : CallbackId) (code : CodeId)
    (notice : Notice) : (machine.told id code notice).callbacks.length = machine.callbacks.length := by
  simp [told, updateCallback]

@[simp] theorem length_started (machine : Machine ω) (id : CallbackId) :
    (machine.started id).callbacks.length = machine.callbacks.length := by
  simp [started, updateCallback]

theorem view?_eq_none {machine : Machine ω} {id : CallbackId} :
    machine.view? id = none ↔ machine.callbacks.length ≤ id := by
  simp [view?, callback?]

theorem lt_of_view? {machine : Machine ω} {id : CallbackId} {callback : Callback}
    (h : machine.view? id = some callback) : id < machine.callbacks.length := by
  apply Nat.lt_of_not_le
  intro le
  rw [view?_eq_none.mpr le] at h
  cases h

theorem view?_of_callback? {machine : Machine ω} {id : CallbackId} {callback : Callback}
    (h : machine.callback? id = some callback) : machine.view? id = some callback.uncounted := by
  rw [view?, h]
  rfl

theorem callback?_of_view? {machine : Machine ω} {id : CallbackId} {seen : Callback}
    (h : machine.view? id = some seen) :
    ∃ callback, machine.callback? id = some callback ∧ callback.uncounted = seen :=
  Option.map_eq_some_iff.mp h

theorem view?_withCallback (machine : Machine ω) (callback : Callback) (id : CallbackId) :
    (machine.withCallback callback).view? id =
      if id = machine.callbacks.length then some callback.uncounted else machine.view? id := by
  simp only [view?, callback?, withCallback, List.getElem?_append]
  by_cases known : id < machine.callbacks.length
  · rw [if_pos known, if_neg (Nat.ne_of_lt known)]
  · rw [if_neg known]
    by_cases h : id = machine.callbacks.length
    · simp [h]
    · have none : machine.callbacks[id]? = none := List.getElem?_eq_none (Nat.le_of_not_lt known)
      have beyond : id - machine.callbacks.length ≠ 0 :=
        Nat.sub_ne_zero_of_lt (Nat.lt_of_le_of_ne (Nat.le_of_not_lt known) (Ne.symm h))
      simp [h, none, beyond]

theorem view?_started (machine : Machine ω) (id other : CallbackId) :
    (machine.started id).view? other =
      if id = other then (machine.view? other).map Callback.run else machine.view? other := by
  simp only [view?, callback?, started, updateCallback, List.getElem?_modify]
  cases machine.callbacks[other]? with
  | none => simp
  | some callback => by_cases h : id = other <;> simp [h]

@[simp] theorem view?_enrolled (machine : Machine ω) (loop : LoopId) (descriptor : Descriptor)
    (interest : Interest) (callback : Callback) (id : CallbackId) :
    (machine.enrolled loop descriptor interest callback).view? id =
      (machine.withCallback callback).view? id := rfl

@[simp] theorem view?_told (machine : Machine ω) (id other : CallbackId) (code : CodeId)
    (notice : Notice) : (machine.told id code notice).view? other = machine.view? other := by
  have counted : Quiet [] (machine.note (.callback id code notice machine.loops))
      (machine.told id code notice) := quiet_updateCallback _ id fun _ => rfl
  exact counted.callbacks other

@[simp] theorem view?_ended (machine : Machine ω) (id other : CallbackId) :
    (machine.ended id).view? other = machine.view? other := rfl

@[simp] theorem view?_retiring (machine : Machine ω) (loop : LoopId) (registration : Registration)
    (id : CallbackId) : (machine.retiring loop registration).view? id = machine.view? id := by
  unfold retiring
  split <;> rfl

theorem loopAt_updateLoop (machine : Machine ω) (loop other : LoopId)
    (change : EventLoop → EventLoop) :
    (machine.updateLoop loop change).loopAt other =
      if loop = other ∧ loop < machine.loops.length then change (machine.loopAt other)
      else machine.loopAt other := by
  simp only [updateLoop, loopAt, List.getD_eq_getElem?_getD, List.getElem?_modify]
  by_cases h : loop = other
  · subst h
    by_cases known : loop < machine.loops.length
    · simp [known]
    · simp [known]
  · simp [h]

theorem quiet_setBuffer (machine : Machine ω) (loop : LoopId) (buffer : List PollEntry) :
    Quiet [] machine (machine.setBuffer loop buffer) :=
  { Quiet.refl machine with
    loops := by simp [setBuffer, updateLoop]
    registry := fun other => by
      rw [setBuffer, loopAt_updateLoop]
      split <;> rfl
    running := fun other => by
      rw [setBuffer, loopAt_updateLoop]
      split <;> rfl }

/-- A new loop has no registrations, and the others keep theirs. -/
theorem registry_withLoop (machine : Machine ω) (settings : LoopSettings) (loop : LoopId) :
    ((machine.withLoop settings).loopAt loop).registry = (machine.loopAt loop).registry := by
  change ((machine.loops ++ [settings.build]).getD loop {}).registry = _
  simp only [loopAt, List.getD_eq_getElem?_getD, List.getElem?_append]
  split
  · rfl
  · next h =>
    rw [List.getElem?_eq_none (Nat.le_of_not_lt h)]
    cases loop - machine.loops.length <;> rfl

@[simp] theorem length_withLoop (machine : Machine ω) (settings : LoopSettings) :
    (machine.withLoop settings).loops.length = machine.loops.length + 1 := by
  simp [withLoop, addLoop, note]

theorem entries_cycling (machine : Machine ω) (loop other : LoopId) :
    (machine.cycling loop).entries other = machine.entries other :=
  congrArg Registry.entries ((quiet_setBuffer machine loop []).registry other)

theorem entries_setRunning (machine : Machine ω) (loop other : LoopId) (running : Bool) :
    (machine.setRunning loop running).entries other = machine.entries other := by
  rw [entries, setRunning, loopAt_updateLoop]
  split <;> rfl

/-- A loop that is not there has no registrations. -/
theorem lt_of_mem_entries {machine : Machine ω} {loop : LoopId} {registration : Registration}
    (h : registration ∈ machine.entries loop) : loop < machine.loops.length := by
  apply Nat.lt_of_not_le
  intro le
  have none : machine.loops[loop]? = none := List.getElem?_eq_none le
  simp [entries, loopAt, List.getD_eq_getElem?_getD, none, Registry.empty] at h

theorem registry_updateRegistry (machine : Machine ω) (loop other : LoopId) (event : LoopEvent)
    (change : Registry → Registry) :
    ((machine.updateRegistry loop event change).loopAt other).registry =
      if loop = other ∧ loop < machine.loops.length then change (machine.loopAt other).registry
      else (machine.loopAt other).registry := by
  have h := loopAt_updateLoop machine loop other
    fun state => { state with registry := change state.registry }
  rw [show (machine.updateRegistry loop event change).loopAt other = _ from h]
  split <;> rfl

theorem mem_entries_updateRegistry {machine : Machine ω} {loop other : LoopId} {event : LoopEvent}
    {change : Registry → Registry} {registration : Registration}
    (h : registration ∈ (machine.updateRegistry loop event change).entries other) :
    registration ∈ machine.entries other ∨
      loop = other ∧ registration ∈ (change (machine.loopAt other).registry).entries := by
  rw [entries, registry_updateRegistry] at h
  split at h
  · next here => exact .inr ⟨here.1, h⟩
  · exact .inl h

theorem mem_entries_enrolled {machine : Machine ω} {loop other : LoopId} {descriptor : Descriptor}
    {interest : Interest} {callback : Callback} {registration : Registration}
    (h : registration ∈ (machine.enrolled loop descriptor interest callback).entries other) :
    registration ∈ machine.entries other ∨
      loop = other ∧ registration = machine.placeFor descriptor interest callback := by
  obtain old | ⟨here, mem⟩ := mem_entries_updateRegistry h
  · exact .inl old
  · cases Registry.mem_insert mem with
    | inl fresh => exact .inr ⟨here, fresh⟩
    | inr old => exact .inl old

theorem mem_entries_remove {machine : Machine ω} {loop other : LoopId} {event : LoopEvent}
    {descriptor : Descriptor} {registration : Registration}
    (h : registration ∈
      (machine.updateRegistry loop event (·.remove descriptor)).entries other) :
    registration ∈ machine.entries other :=
  (mem_entries_updateRegistry h).elim id fun mem => (Registry.mem_remove.mp mem.2).1

theorem mem_entries_retiring {machine : Machine ω} {loop other : LoopId}
    {retired registration : Registration}
    (h : registration ∈ (machine.retiring loop retired).entries other) :
    registration ∈ machine.entries other := by
  unfold retiring at h
  split at h
  · exact (mem_entries_updateRegistry h).elim id fun mem => Registry.mem_of_mem_retire mem.2
  · exact h

@[simp] theorem view?_announced (machine : Machine ω) (loop : LoopId) (registration : Registration)
    (ready : Interest) (id : CallbackId) :
    (machine.announced loop registration ready).view? id = machine.view? id :=
  view?_retiring machine loop registration id

theorem not_mem_entries_retiring (machine : Machine ω) (loop : LoopId)
    {registration : Registration} (once : registration.once = true) :
    registration ∉ (machine.retiring loop registration).entries loop := by
  intro h
  have known := lt_of_mem_entries (mem_entries_retiring h)
  rw [entries, retiring, if_pos once, registry_updateRegistry, if_pos ⟨rfl, known⟩] at h
  exact Registry.not_mem_retire _ registration h

def Gone (machine : Machine ω) (id : CallbackId) : Prop :=
  ∀ loop, ∀ registration ∈ machine.entries loop, registration.callback ≠ id

def pollCall (found : List Registration) (timeout : Option Duration) : Syscall :=
  .poll (found.map fun registration => (registration.descriptor, registration.interest.toEvents))
    (Duration.pollTimeout timeout)

def Fits (machine : Machine ω) (operation : Operation) (descriptor : Descriptor) : Prop :=
  ∀ socket, operation.socket? = some socket →
    (machine.socketAt socket).isOpen = true ∧ (machine.socketAt socket).descriptor = descriptor

/-- One change, with the events it leaves in the journal. A callback for a single dispatch does not accept,
and it is registered nowhere when it is run. -/
inductive Change : List Event → Machine ω → Machine ω → Prop
  | quiet {events before after} (h : Quiet events before after) : Change events before after
  | poll {machine : Machine ω} {loop found} (current : machine.entries loop = found)
    (nonempty : found ≠ []) (timeout reply outside) :
    Change [.syscall (pollCall found timeout) reply] machine
      ({ machine with outside }.note (.syscall (pollCall found timeout) reply))
  | addLoop (machine settings) :
    Change [.loop machine.loops.length .created] machine (machine.withLoop settings)
  | register {machine : Machine ω} (loop descriptor interest) {callback : Callback}
    (fresh : callback.spent = false) (fits : machine.Fits callback.operation descriptor)
    (apt : callback.once = true → callback.operation.accepts = false) :
    Change [.loop loop (.registered (machine.placeFor descriptor interest callback))] machine
      (machine.enrolled loop descriptor interest callback)
  | remove (machine loop descriptor) :
    Change [.loop loop (.removed descriptor)] machine
      (machine.updateRegistry loop (.removed descriptor) (·.remove descriptor))
  | withdraw (machine loop descriptor id) :
    Change [.loop loop (.withdrawn descriptor id)] machine
      (machine.updateRegistry loop (.withdrawn descriptor id) (·.remove descriptor))
  | retire (machine loop registration) :
    Change (retirement loop registration) machine (machine.retiring loop registration)
  | create {machine : Machine ω} {callback : Callback} (spent : callback.spent = true) :
    Change [] machine (machine.withCallback callback)
  | tell (machine id code notice) :
    Change [.callback id code notice machine.loops] machine (machine.told id code notice)
  | start {machine : Machine ω} {id callback} (known : machine.callback? id = some callback)
    (gone : callback.once = true → machine.Gone id) : Change [] machine (machine.started id)
  | finish (machine id) : Change [] machine (machine.ended id)
  | setRunning (machine loop running) : Change [] machine (machine.setRunning loop running)
  | setSnapshots (machine : Machine ω) (snapshots) : Change [] machine { machine with snapshots }
  | dispatched (machine loop depth id descriptor ready) :
    Change [.loop loop (.dispatched depth id descriptor ready)] machine
      (machine.note (.loop loop (.dispatched depth id descriptor ready)))
  | finished (machine loop depth id) :
    Change [.loop loop (.finished depth id)] machine (machine.note (.loop loop (.finished depth id)))
  | stopped (machine loop) :
    Change [.loop loop .stopped] machine (machine.note (.loop loop .stopped))

inductive Changes : List Event → Machine ω → Machine ω → Prop
  | refl (machine) : Changes [] machine machine
  | step {early late first middle last} (h : Changes early first middle)
    (change : Change late middle last) : Changes (late ++ early) first last

theorem Change.once {events : List Event} {before after : Machine ω} (h : Change events before after) :
    Changes events before after := by
  simpa using (Changes.refl before).step h

theorem Changes.trans {early late : List Event} {first middle last : Machine ω}
    (h : Changes early first middle) (h' : Changes late middle last) :
    Changes (late ++ early) first last := by
  induction h' with
  | refl => exact h
  | step _ change ih =>
    rw [List.append_assoc]
    exact (ih h).step change

theorem changes_atOnce (machine : Machine ω) {callback : Callback} (spent : callback.spent = true)
    (notice : Notice) :
    Changes [.callback machine.callbacks.length callback.code notice machine.loops] machine
      ((machine.withCallback callback).told machine.callbacks.length callback.code notice) :=
  (Change.create spent).once.step (.tell _ _ _ notice)

theorem changes_cycling (machine : Machine ω) (loop : LoopId) :
    Changes [] machine (machine.cycling loop) :=
  (Change.quiet (quiet_setBuffer machine loop [])).once.step (.setSnapshots _ _)

theorem changes_announced (machine : Machine ω) (loop : LoopId) (registration : Registration)
    (ready : Interest) :
    Changes (.loop loop (.dispatched machine.snapshots.length registration.callback
      registration.descriptor ready) :: retirement loop registration) machine
      (machine.announced loop registration ready) :=
  (Change.retire machine loop registration).once.step (.dispatched _ loop _ _ _ ready)

end Machine
end NetReactor
