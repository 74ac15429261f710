import NetReactor.Proofs.Loop.Turn
import NetReactor.Proofs.Machine.Replay
/-!
An operation that takes the place of one that its cycle found ready. The old operation is dispatched all the
same. Whether the new one stays registered depends on the old one alone: an accept that fails withdraws
whatever is registered for its descriptor.
-/
namespace NetReactor.Machine

variable {ω : Type} {host : Host ω} {machine first middle fired last after : Machine ω}
variable {loop : LoopId} {old new : Registration} {ready : Interest} {timeout : Option Duration}
variable {count : Nat} {events early body late released : List Event}

def Event.programmed? (loop : LoopId) : Event → Option Descriptor
  | .loop other (.registered registration) =>
    if other = loop then some registration.descriptor else none
  | .loop other (.removed descriptor) => if other = loop then some descriptor else none
  | _ => none

def socketFor? (machine : Machine ω) (id : CallbackId) : Option SocketId :=
  (machine.view? id).bind (·.operation.socket?)

structure Replaces (loop : LoopId) (machine after : Machine ω) (old new : Registration) : Prop where
  socket : ∃ socket, machine.socketFor? old.callback = some socket ∧
    after.socketFor? new.callback = some socket
  made : ∃ early late, after.since machine = late ++ .loop loop (.registered new) :: early ∧
    ¬ Dispatched early old.callback ∧
    ∀ event ∈ late, Event.programmed? loop event ≠ some new.descriptor

theorem Replaces.registered (h : Replaces loop machine after old new) :
    .loop loop (.registered new) ∈ after.since machine := by
  obtain ⟨early, late, split, -⟩ := h.made
  rw [split]
  simp

/-- Both stand for the same descriptor, since a socket keeps its own while it is open. -/
theorem Replaces.descriptor_eq (h : Replaces loop machine after old new) (coherent : machine.Coherent)
    (mem : old ∈ machine.entries loop) (changes : Changes (after.since machine) machine after) :
    new.descriptor = old.descriptor := by
  obtain ⟨socket, told, made⟩ := h.socket
  obtain ⟨seen, view, needs⟩ := Option.bind_eq_some_iff.mp told
  obtain ⟨fresh, view', needs'⟩ := Option.bind_eq_some_iff.mp made
  obtain ⟨known, seenAs, -, -, awaits⟩ := coherent.known loop old mem
  rw [view] at seenAs
  cases seenAs
  obtain ⟨there, state⟩ := awaits socket needs
  obtain ⟨made, madeAs, waits⟩ := changes.awaits h.registered
  rw [view'] at madeAs
  cases madeAs
  obtain ⟨isOpen, same⟩ := waits socket needs'
  have same := same there
  cases state with
  | inl shut =>
    rw [shut] at same
    exact absurd same.symm isOpen
  | inr known => exact same.symm.trans known

section

variable {registry : Registry}

/-- What is registered and spared by everything that follows is there in the end. -/
theorem mem_replayed_registered (h : ∀ event, .loop loop event ∈ late → event.spares new) :
    new ∈ (replayed loop (late ++ .loop loop (.registered new) :: early) registry).entries := by
  rw [replayed_append]
  refine mem_replayed ?_ h
  rw [replayed, if_pos rfl]
  exact Registry.mem_insert_self _ new

/-- What is taken away and not registered again is not there in the end. -/
theorem not_mem_replayed_withdrawn {id : CallbackId}
    (h : ∀ event ∈ late, Event.programmed? loop event ≠ some new.descriptor) :
    new ∉ (replayed loop (late ++ .loop loop (.withdrawn new.descriptor id) :: early)
      registry).entries := by
  rw [replayed_append, replayed, if_pos rfl]
  intro mem
  cases mem_of_mem_replayed mem with
  | inl kept => exact (Registry.mem_remove.mp kept).2 rfl
  | inr again => exact h _ again (if_pos rfl)

end

namespace CycleParts

variable {inside : Machine ω}
variable (parts : CycleParts host loop timeout machine count after events released inside)
variable (turn : Turn host loop old ready (machine.cycling loop) middle fired
  { after with snapshots := inside.snapshots } early body late (after.since machine))
variable (replaces : Replaces loop machine after old new)
include parts turn replaces

/-- What happens after the replacement leaves it alone, unless the replaced operation told a failure. -/
theorem stays (coherent : machine.Coherent) (mem : old ∈ machine.entries loop)
    (calm : Calm loop (machine.snapshots.length + 1) (after.since machine))
    (told : ¬ ToldFailure (after.since machine) old.callback) : new ∈ after.entries loop := by
  have found : (machine.cycling loop).Found loop old :=
    (coherent.found mem).changes (changes_cycling machine loop)
  obtain ⟨never, -⟩ := parts.later coherent calm replaces.registered
  have fresh := (parts.changes.registered replaces.registered).1
  obtain ⟨before, later, split, -, kept⟩ := replaces.made
  have inner : later ⊆ after.since machine := by
    rw [split]
    exact List.subset_append_left _ _
  rw [entries, parts.changes.registry_eq (lt_of_mem_entries mem), split]
  apply mem_replayed_registered
  intro event mem'
  cases event with
  | created =>
    exact absurd (parts.changes.created (inner mem')) (Nat.not_le_of_lt (lt_of_mem_entries mem))
  | registered other =>
    exact fun same => kept _ mem' ((if_pos rfl).trans (congrArg some same))
  | removed descriptor =>
    exact fun same => kept _ mem' ((if_pos rfl).trans (congrArg some same))
  | withdrawn descriptor id =>
    have other := (turn.withdrawn found calm (inner mem')).resolve_right told
    rwa [← replaces.descriptor_eq coherent mem parts.changes] at other
  | retired descriptor id =>
    rintro rfl
    obtain dispatched | executing | handles := parts.whole.retired (inner mem')
    · exact never dispatched
    · exact absurd (coherent.executing _ executing) (Nat.not_lt_of_le fresh)
    · exact Place.not_handles rfl handles
  | _ => trivial

/-- The withdrawal by the replaced operation comes after the replacement. -/
theorem goes (coherent : machine.Coherent) (mem : old ∈ machine.entries loop)
    (calm : Calm loop (machine.snapshots.length + 1) (after.since machine))
    (told : ToldFailure (after.since machine) old.callback) : new ∉ after.entries loop := by
  have found : (machine.cycling loop).Found loop old :=
    (coherent.found mem).changes (changes_cycling machine loop)
  have same := replaces.descriptor_eq coherent mem parts.changes
  obtain ⟨-, withdrawn⟩ := turn.withdraws found calm told
  obtain ⟨before, later, split, undone, kept⟩ := replaces.made
  have whole := turn.split
  rw [split] at whole
  -- The dispatch is not before the replacement, so the withdrawal in the dispatch comes after it.
  obtain ⟨between, rfl, -⟩ := split_after whole.symm
    (fun dispatched => undone ⟨_, _, _, _, dispatched⟩) (fun is => nomatch is)
  obtain ⟨past, earlier, rfl⟩ := List.append_of_mem withdrawn
  rw [entries, parts.changes.registry_eq (lt_of_mem_entries mem), turn.split, ← same]
  rw [List.append_assoc, List.cons_append, List.append_assoc, List.cons_append, ← List.cons_append,
    ← List.append_assoc]
  refine not_mem_replayed_withdrawn fun event mem' => kept event ?_
  simp only [List.mem_append, List.mem_cons] at mem' ⊢
  tauto

end CycleParts

/-- A replaced operation is dispatched once, and its replacement not at all in the same cycle. In the end the
replacement is registered unless the replaced operation was an accept that told its failure. -/
theorem replacement_survives_iff (host : Host ω) (budget : Nat) (loop : LoopId)
    (timeout : Option Duration) (machine after : Machine ω) (count : Nat) (old new : Registration)
    (ready : Interest) (coherent : machine.Coherent) (idle : old.callback ∉ machine.executing)
    (cycle : runOnce host (perform host budget) loop timeout machine = some (count, after))
    (calm : Calm loop (machine.snapshots.length + 1) (after.since machine))
    (listed : (old, ready) ∈ readyOf (machine.entries loop) (pollReply host machine loop timeout))
    (replaces : Replaces loop machine after old new) :
    new.descriptor = old.descriptor ∧
    (dispatches loop (machine.snapshots.length + 1) (after.since machine)).filter
        (fun run => run.1 == old.callback) = [(old.callback, old.descriptor, ready)] ∧
    ¬ Dispatched (after.since machine) new.callback ∧
    (∀ code notice loops, .callback new.callback code notice loops ∉ after.since machine) ∧
    (new ∈ after.entries loop ↔ ¬ ToldFailure (after.since machine) old.callback) ∧
    (∀ seen, machine.view? old.callback = some seen → seen.operation.accepts = false →
      new ∈ after.entries loop) := by
  have code : ∀ action, Runs host .code (perform host budget action) := runs_perform budget
  have mem : old ∈ machine.entries loop := by
    obtain ⟨position, lt, same⟩ := List.mem_mapIdx.mp (List.mem_of_mem_filter listed)
    cases same
    exact List.getElem_mem lt
  obtain ⟨events, inside, released, walk, release, last⟩ :=
    runOnce_inv code (List.ne_nil_of_mem mem) coherent cycle
  have parts : CycleParts host loop timeout machine count after events released inside :=
    ⟨List.ne_nil_of_mem mem, walk, release, last⟩
  obtain ⟨middle, fired, early, body, late, turn⟩ := parts.turn coherent listed idle
  have found : (machine.cycling loop).Found loop old :=
    (coherent.found mem).changes (changes_cycling machine loop)
  have same := replaces.descriptor_eq coherent mem parts.changes
  obtain ⟨never, silent⟩ := parts.later coherent calm replaces.registered
  refine ⟨same, turn.once found calm, never, silent, ?_, fun seen view tells => ?_⟩
  · constructor
    · exact fun present told => parts.goes turn replaces coherent mem calm told present
    · exact parts.stays turn replaces coherent mem calm
  -- Only an accept tells a failure, and up to its dispatch a callback keeps its operation.
  · apply parts.stays turn replaces coherent mem calm
    intro told
    obtain ⟨-, withdrawn⟩ := turn.withdraws found calm told
    obtain ⟨seen', view', accepts⟩ := reaction_accepts turn.reaction (turn.calm calm).2.1
      ⟨_, _, withdrawn⟩
    have grows := (turn.before.changes.trans (changes_announced middle loop old ready)).grows
    obtain same | run := grows.callback _ seen view
    · rw [same] at view'
      cases view'
      rw [tells] at accepts
      cases accepts
    · rw [run] at view'
      cases view'
      rw [Callback.run, tells] at accepts
      cases accepts

def isDispatch (id : CallbackId) : Event → Bool
  | .loop _ (.dispatched _ other ..) => other == id
  | _ => false

theorem dispatched_iff {id : CallbackId} :
    Dispatched events id ↔ ∃ event ∈ events, isDispatch id event = true := by
  constructor
  · rintro ⟨loop, depth, descriptor, ready, mem⟩
    exact ⟨_, mem, beq_self_eq_true id⟩
  · rintro ⟨event, mem, is⟩
    unfold isDispatch at is
    split at is
    · cases beq_iff_eq.mp is
      exact ⟨_, _, _, _, mem⟩
    · cases is

instance {id : CallbackId} : Decidable (Dispatched events id) := decidable_of_iff' _ dispatched_iff

def registered? : Event → Option (LoopId × Registration)
  | .loop loop (.registered registration) => some (loop, registration)
  | _ => none

/-- What came after a registration and what came before it, given its position. -/
theorem split_of_registered? {registration : Registration} {position : Nat}
    (here : events[position]?.bind registered? = some (loop, registration)) :
    events = events.take position ++ .loop loop (.registered registration) :: events.drop (position + 1) := by
  obtain ⟨event, at_, made⟩ := Option.bind_eq_some_iff.mp here
  obtain ⟨lt, rfl⟩ := List.getElem?_eq_some_iff.mp at_
  have same : events[position] = .loop loop (.registered registration) := by
    unfold registered? at made
    split at made
    · next is =>
      cases made
      exact is
    · cases made
  rw [← same, ← List.drop_eq_getElem_cons lt, List.take_append_drop]

/-- A replacement can be read off what happened, given the position of its registration. -/
theorem Replaces.of_events {socket position : Nat}
    (needs : machine.socketFor? old.callback = some socket)
    (needs' : after.socketFor? new.callback = some socket)
    (here : (after.since machine)[position]?.bind registered? = some (loop, new))
    (undone : ¬ Dispatched ((after.since machine).drop (position + 1)) old.callback)
    (kept : ∀ event ∈ (after.since machine).take position,
      Event.programmed? loop event ≠ some new.descriptor) : Replaces loop machine after old new :=
  ⟨⟨socket, needs, needs'⟩, _, _, split_of_registered? here, undone, kept⟩

def acceptingKernel (answer : Reply) : Kernel (Option Role)
  | .accept _ => pure answer
  | call => readableKernel call

def replacingHost (answer : Reply) : Host (Option Role) :=
  plainHost (acceptingKernel answer) fun code _ _ _ =>
    if code = 0 then
      .perform "accept" (.socket (.async "listener" 0 (.accept none 2))) fun _ => .done
    else .done

def listener (code : CodeId) : Callback := { operation := .accept 0 none, code, once := false }

def watcherAndListener : Machine (Option Role) :=
  let named : Machine (Option Role) :=
    { outside := none, loopHandles := [(0, 0)], socketHandles := [("listener", ⟨0, true⟩)] }
  let looped := (addLoop ({} : LoopSettings).build (addSocket ⟨6⟩ named).2).2
  (looped.enrolled 0 5 Interest.read (watcher 0)).enrolled 0 6 Interest.read (listener 1)

theorem coherent_watcherAndListener : watcherAndListener.Coherent := by
  have named : ({ outside := none, loopHandles := [(0, 0)], socketHandles := [("listener", ⟨0, true⟩)] } :
      Machine (Option Role)).Coherent :=
    (coherent_new none).change (.quiet (.of_same rfl rfl rfl rfl rfl rfl))
  have opened := named.change (.quiet (quiet_addSocket ⟨6⟩ _))
  have looped := opened.change (.addLoop _ {})
  refine (looped.enrolled 0 _ rfl (fits_watcher _ 0 5)).enrolled 0 _ rfl ?_
  intro socket needed
  cases needed
  exact ⟨rfl, rfl⟩

def accepting (id : CallbackId) : Registration := ⟨6, Interest.read, id, false⟩

def cycleAccepting (answer : Reply) : Option (Nat × Machine (Option Role)) :=
  runOnce (replacingHost answer) (perform (replacingHost answer) 2) 0 none watcherAndListener

def noConnection : Reply := { result := -1, number := 11 }

def abortedConnection : Reply := { result := -1, number := 103 }

theorem replaces_accepting (answer : Reply) (position : Nat) (survives : Bool)
    (checked : (cycleAccepting answer).map (fun run =>
      decide (Calm 0 1 (run.2.since watcherAndListener) ∧ run.2.socketFor? 2 = some 0 ∧
        (run.2.since watcherAndListener)[position]?.bind registered? = some (0, accepting 2) ∧
        ¬ Dispatched ((run.2.since watcherAndListener).drop (position + 1)) 1 ∧
        (∀ event ∈ (run.2.since watcherAndListener).take position,
          Event.programmed? 0 event ≠ some 6) ∧
        decide (accepting 2 ∈ run.2.entries 0) = survives)) = some true) :
    ∃ count after, cycleAccepting answer = some (count, after) ∧
      Calm 0 1 (after.since watcherAndListener) ∧
      Replaces 0 watcherAndListener after (accepting 1) (accepting 2) ∧
      decide (accepting 2 ∈ after.entries 0) = survives := by
  obtain ⟨⟨count, after⟩, ran, checks⟩ := Option.map_eq_some_iff.mp checked
  obtain ⟨calm, needs, here, undone, kept, present⟩ := of_decide_eq_true checks
  exact ⟨count, after, ran, calm, .of_events rfl needs here undone kept, present⟩

/-- While there is no connection to accept, the listener's replacement stays registered. -/
theorem replacement_survives_noConnection :
    watcherAndListener.Coherent ∧ accepting 1 ∈ watcherAndListener.entries 0 ∧
      (accepting 1).callback ∉ watcherAndListener.executing ∧
      (accepting 1, Interest.read) ∈ readyOf (watcherAndListener.entries 0)
        (pollReply (replacingHost noConnection) watcherAndListener 0 none) ∧
      ∃ count after, cycleAccepting noConnection = some (count, after) ∧
        Calm 0 1 (after.since watcherAndListener) ∧
        Replaces 0 watcherAndListener after (accepting 1) (accepting 2) ∧
        (dispatches 0 1 (after.since watcherAndListener)).filter (fun run => run.1 == 1) =
          [(1, 6, Interest.read)] ∧
        ¬ Dispatched (after.since watcherAndListener) 2 ∧ accepting 2 ∈ after.entries 0 ∧
        ¬ ToldFailure (after.since watcherAndListener) 1 := by
  have idle : (accepting 1).callback ∉ watcherAndListener.executing := List.not_mem_nil
  have listed : (accepting 1, Interest.read) ∈ readyOf (watcherAndListener.entries 0)
      (pollReply (replacingHost noConnection) watcherAndListener 0 none) := by decide +kernel
  obtain ⟨count, after, ran, calm, replaces, present⟩ :=
    replaces_accepting noConnection 5 true (by decide +kernel)
  have present := of_decide_eq_true present
  obtain ⟨-, once, never, -, survives, -⟩ := replacement_survives_iff (replacingHost noConnection) 2 0 none
    watcherAndListener after count (accepting 1) (accepting 2) Interest.read
    coherent_watcherAndListener idle ran calm listed replaces
  exact ⟨coherent_watcherAndListener, by decide, idle, listed, count, after, ran, calm, replaces, once,
    never, present, survives.mp present⟩

/-- After an aborted connection the listener withdraws its replacement. -/
theorem replacement_lost_abortedConnection :
    watcherAndListener.Coherent ∧ (accepting 1).callback ∉ watcherAndListener.executing ∧
      (accepting 1, Interest.read) ∈ readyOf (watcherAndListener.entries 0)
        (pollReply (replacingHost abortedConnection) watcherAndListener 0 none) ∧
      ∃ count after, cycleAccepting abortedConnection = some (count, after) ∧
        Calm 0 1 (after.since watcherAndListener) ∧
        Replaces 0 watcherAndListener after (accepting 1) (accepting 2) ∧
        accepting 2 ∉ after.entries 0 := by
  obtain ⟨count, after, ran, calm, replaces, absent⟩ :=
    replaces_accepting abortedConnection 7 false (by decide +kernel)
  exact ⟨coherent_watcherAndListener, List.not_mem_nil, by decide +kernel, count, after, ran, calm,
    replaces, of_decide_eq_false absent⟩

end NetReactor.Machine
