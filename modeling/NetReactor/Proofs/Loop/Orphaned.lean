import NetReactor.Proofs.Loop.Cancelling
/-!
Background operations that outlive the descriptor of their socket. Closing a socket takes no registration away, so
that a later cycle may report anything for the number, which may be that of another socket by then. What such an
operation does and tells is fixed all the same.
-/
namespace NetReactor

/-- What an operation tells whose socket has no descriptor any more. Only a connection attempt does not look: it
has succeeded unless an error was reported. -/
def Operation.orphanNotice (descriptor : Descriptor) (ready : Interest) : Operation → Notice
  | .watch => .ready descriptor ready
  | .connect _ =>
    .connected (if ready.contains Interest.error then .error .connectFailed else .ok ())
  | .accept .. =>
    .accepted (.error (if ready.contains Interest.error then .acceptFailed else .socketClosed))
  | .send .. => .sent (.error (if ready.contains Interest.error then .sendFailed else .socketClosed))
  | .recv _ buffer =>
    .received (.error (if ready.contains Interest.error then .receiveFailed else .socketClosed)) buffer

def Notice.isFailure : Notice → Bool
  | .ready .. => false
  | .connected result => !result.isOk
  | .accepted result => !result.isOk
  | .sent result | .received result _ => !result.isOk

def Operation.connects : Operation → Bool
  | .connect _ => true
  | _ => false

/-- It tells a failure, but for the connection attempt without a reported error. -/
theorem Operation.isFailure_orphanNotice {operation : Operation} {socket : SocketId} (descriptor : Descriptor)
    (ready : Interest) (works : operation.socket? = some socket) :
    (operation.orphanNotice descriptor ready).isFailure =
      (!operation.connects || ready.contains Interest.error) := by
  cases operation with
  | watch => cases works
  | connect =>
    rw [orphanNotice]
    cases ready.contains Interest.error <;> rfl
  | _ => rfl

namespace Machine

variable {ω : Type} {host : Host ω} {place : Place} {events : List Event}
variable {before after machine middle last : Machine ω} {loop other : LoopId}
variable {registration : Registration} {operation : Operation} {ready : Interest}

structure Issued (machine : Machine ω) (loop : LoopId) (registration : Registration)
    (operation : Operation) : Prop where
  history : machine.History
  made : .loop loop (.registered registration) ∈ machine.journal
  works : ∃ seen, machine.view? registration.callback = some seen ∧ seen.operation = operation

structure Orphaned (machine : Machine ω) (loop : LoopId) (registration : Registration)
    (operation : Operation) : Prop extends Issued machine loop registration operation where
  lost : ∃ socket, operation.socket? = some socket ∧ (machine.socketAt socket).isOpen = false

/-- What it does before its code starts. A listener withdraws, which may close a socket that nothing keeps then;
no other call is made. -/
def Harmless (loop : LoopId) (registration : Registration) (calls : List Event) : Prop :=
  ∀ event ∈ calls, event.isClosing = true ∨ event = withdrawal loop registration

theorem Listens.orphaned {calls : List Event} {answer : Option (Outcome (SocketId × Address))}
    (h : Listens machine loop registration ready false calls answer) :
    answer = some (.error (if ready.contains Interest.error then .acceptFailed else .socketClosed)) ∧
      Harmless loop registration calls := by
  have harmless {closed : List Event} (closing : Closing closed) :
      Harmless loop registration (closed ++ [withdrawal loop registration]) := fun event mem =>
    (List.mem_append.mp mem).imp (closing event) List.mem_singleton.mp
  cases h with
  | alarmed alarm closing =>
    rw [if_pos alarm]
    exact ⟨rfl, harmless closing⟩
  | shut calm _ closing =>
    rw [if_neg (by rw [calm]; nofun)]
    exact ⟨rfl, harmless closing⟩
  | waiting _ opened => cases opened
  | refused _ opened => cases opened
  | unreadable _ opened => cases opened
  | connected _ opened => cases opened

theorem Responds.orphaned {calls : List Event} {notice : Option Notice}
    (h : Responds machine loop registration ready false operation calls notice) :
    notice = some (operation.orphanNotice registration.descriptor ready) ∧
      Harmless loop registration calls := by
  have none : Harmless loop registration [] := List.forall_mem_nil _
  cases h with
  | watch => exact ⟨rfl, none⟩
  | connected calm => exact ⟨by simp [Operation.orphanNotice, calm], none⟩
  | refused _ opened => cases opened
  | refusedShut alarm => exact ⟨by simp [Operation.orphanNotice, alarm], none⟩
  | accept listens =>
    obtain ⟨rfl, harmless⟩ := listens.orphaned
    exact ⟨rfl, harmless⟩
  | unsent alarm => exact ⟨by simp [Operation.orphanNotice, alarm], none⟩
  | sent _ opened => cases opened
  | sentShut calm => exact ⟨by simp [Operation.orphanNotice, calm], none⟩
  | unreceived alarm => exact ⟨by simp [Operation.orphanNotice, alarm], none⟩
  | received _ opened => cases opened
  | receivedShut calm => exact ⟨by simp [Operation.orphanNotice, calm], none⟩

namespace Issued

theorem changes (h : before.Issued loop registration operation) (changes : Changes events before after) :
    after.Issued loop registration operation where
  history := h.history.changes changes
  made := changes.journal ▸ List.mem_append_right _ h.made
  works := by
    obtain ⟨seen, view, rfl⟩ := h.works
    exact changes.grows.operation view

theorem awaits (h : machine.Issued loop registration operation) :
    machine.Awaits operation registration.descriptor := by
  obtain ⟨seen, view, rfl⟩ := h.works
  exact h.history.awaits h.made view

end Issued

namespace Orphaned

/-- A socket that has lost its descriptor never has one again. -/
theorem changes (h : before.Orphaned loop registration operation) (changes : Changes events before after) :
    after.Orphaned loop registration operation where
  toIssued := h.toIssued.changes changes
  lost := by
    obtain ⟨socket, needs, shut⟩ := h.lost
    refine ⟨socket, needs, ?_⟩
    obtain same | gone := changes.grows.socket socket (h.awaits socket needs).1
    · rwa [same]
    · rw [gone]
      rfl

/-- Whenever its callback is dispatched the operation has something to tell. -/
theorem responds (h : machine.Orphaned loop registration operation) {callback : Callback}
    (known : machine.callback? registration.callback = some callback)
    (gone : callback.once = true → machine.Gone registration.callback) {answer : Option Notice}
    {calls : List Event}
    (response : respond host loop registration.callback callback.operation registration.descriptor ready
      (machine.started registration.callback) = (answer, middle))
    (trace : Trace host (.operation loop registration) calls (machine.started registration.callback) middle) :
    answer = some (operation.orphanNotice registration.descriptor ready) ∧ Harmless loop registration calls := by
  have begun := h.changes (Change.start known gone).once
  have same : callback.operation = operation := by
    obtain ⟨seen, view, same⟩ := h.works
    rw [view?_of_callback? known] at view
    cases view
    exact same
  have closed : (machine.started registration.callback).isOpenFor operation = false := by
    obtain ⟨socket, needs, shut⟩ := begun.lost
    rw [isOpenFor, needs]
    exact shut
  have responds := h.history.responds h.made known response trace.changes.journal
  rw [same, closed] at responds
  exact responds.orphaned

end Orphaned

/-- How a dispatch goes on that nothing else came of so far: the callback had its only dispatch before, or its
code starts, and nothing but the operation came before that. -/
def Answered (loop : LoopId) (registration : Registration) (operation : Operation) (depth : Nat) (ready : Interest)
    (late : List Event) : Prop :=
  (∃ rest, late = rest ++ [.loop loop (.finished depth registration.callback)]) ∨
    ∃ rest code found calls, late = rest ++ .callback registration.callback code
      (operation.orphanNotice registration.descriptor ready) found :: calls ∧ Harmless loop registration calls

theorem Answered.append {depth : Nat} {late : List Event}
    (h : Answered loop registration operation depth ready late) (more : List Event) :
    Answered loop registration operation depth ready (more ++ late) := by
  obtain ⟨rest, rfl⟩ | ⟨rest, code, found, calls, rfl, harmless⟩ := h
  · exact .inl ⟨more ++ rest, by simp⟩
  · exact .inr ⟨more ++ rest, code, found, calls, by simp, harmless⟩

theorem Orphaned.reaction (h : machine.Orphaned loop registration operation)
    (trace : Trace host (.reaction loop registration ready) events machine after) (depth : Nat) :
    Answered loop registration operation depth ready
      (.loop loop (.finished depth registration.callback) :: events) := by
  cases trace with
  | spent => exact .inl ⟨[], rfl⟩
  | overlooked known fresh gone response trace =>
    cases (h.responds known gone response trace).1
  | @told _ middle inside _ _ _ _ callback notice calls events released known fresh gone response trace code _ =>
    obtain ⟨told, harmless⟩ := h.responds known gone response trace
    cases told
    exact .inr ⟨.loop loop (.finished depth registration.callback) :: (released ++ events), callback.code,
      middle.loops, calls, by simp, harmless⟩

def AnswersAll (loop : LoopId) (registration : Registration) (operation : Operation) (events : List Event) :
    Prop :=
  ∀ late early other depth descriptor ready,
    events = late ++ .loop other (.dispatched depth registration.callback descriptor ready) :: early →
      other = loop ∧ descriptor = registration.descriptor ∧
        Answered loop registration operation depth ready late

namespace AnswersAll

variable {late early : List Event}

theorem of_none (none : ∀ other depth descriptor ready,
      .loop other (.dispatched depth registration.callback descriptor ready) ∉ events) :
    AnswersAll loop registration operation events := by
  rintro late early other depth descriptor ready rfl
  exact absurd (List.mem_append_right _ (List.mem_cons_self ..)) (none other depth descriptor ready)

theorem append (later : AnswersAll loop registration operation late)
    (earlier : AnswersAll loop registration operation early) :
    AnswersAll loop registration operation (late ++ early) := by
  intro after before other depth descriptor ready split
  obtain ⟨rest, inside, rfl⟩ | ⟨rest, inside, rfl⟩ := split_append split
  · exact later after rest other depth descriptor ready inside
  · obtain ⟨here, same, answered⟩ := earlier rest before other depth descriptor ready inside
    exact ⟨here, same, answered.append late⟩

/-- One more dispatch, with what follows it. -/
theorem dispatch {depth : Nat} {id : CallbackId} {descriptor : Descriptor}
    (later : AnswersAll loop registration operation late)
    (own : id = registration.callback → other = loop ∧ descriptor = registration.descriptor ∧
      Answered loop registration operation depth ready late) :
    AnswersAll loop registration operation (late ++ [.loop other (.dispatched depth id descriptor ready)]) := by
  intro after before other depth descriptor ready split
  obtain ⟨rest, inside, rfl⟩ | ⟨rest, inside, rfl⟩ := split_append split
  · exact later after rest other depth descriptor ready inside
  · obtain ⟨rfl, same⟩ | ⟨-, none⟩ := List.singleton_eq_append_iff.mp inside
    · cases same
      rw [List.append_nil]
      exact own rfl
    · cases none

end AnswersAll

/-- Whatever happens once the socket is lost: every dispatch of the operation is answered like that. -/
theorem Trace.answersAll (h : Trace host place events before after)
    (orphaned : before.Orphaned loop registration operation) (based : place.Based before) :
    AnswersAll loop registration operation events := by
  induction h with
  | quiet h => exact .of_none fun _ _ _ _ => h.no_loop _
  | seq h _ ih ih' =>
    exact (ih' (orphaned.changes h.changes) (based.changes h.changes h.executing)).append (ih orphaned based)
  | @atOnce machine _ callback notice _ spent _ ih =>
    exact (ih (orphaned.changes (changes_atOnce machine spent notice)) trivial).append (.of_none (by simp))
  | @run machine _ other _ _ ih => exact ih (orphaned.changes (Change.setRunning machine other true).once) trivial
  | @cycle machine _ other _ _ _ ih =>
    have changes := changes_cycling machine other
    exact ih (orphaned.changes changes)
      fun registration mem => (orphaned.history.listing mem).changes changes rfl
  | skip => exact .of_none (by simp)
  | @dispatch machine _ other _ found ready events member _ h ih =>
    have changes := changes_announced machine other found ready
    have begun := orphaned.changes changes
    have listing := (based found member).changes changes (executing_announced _ _ _ _)
    have inner := ih begun ⟨listing, machine.snapshots.length, machine.journal, changes.journal⟩
    let finished := Event.loop other (.finished machine.snapshots.length found.callback)
    have later : AnswersAll loop registration operation ([finished] ++ events) :=
      .append (.of_none (by simp [finished])) inner
    have taken : AnswersAll loop registration operation (retirement other found) := .of_none (by simp)
    have answered (own : found.callback = registration.callback) : other = loop ∧
        found.descriptor = registration.descriptor ∧ Answered loop registration operation
          machine.snapshots.length ready ([finished] ++ events) := by
      obtain ⟨rfl, rfl⟩ := orphaned.history.unique orphaned.made (based found member).made own
      exact ⟨rfl, rfl, begun.reaction h _⟩
    simpa [finished] using (later.dispatch answered).append taken
  | overlooked known _ gone _ _ release ih =>
    exact (AnswersAll.of_none fun _ _ _ _ => release.no_loop _).append
      (ih (orphaned.changes (Change.start known gone).once) trivial)
  | @told _ middle _ _ _ found _ callback notice _ _ _ known _ gone _ responds _ _ release ih ih' =>
    have begun := orphaned.changes (Change.start known gone).once
    have told := begun.changes
      (responds.changes.step (.tell middle found.callback callback.code notice))
    have start : AnswersAll loop registration operation
        [.callback found.callback callback.code notice middle.loops] := .of_none (by simp)
    exact (AnswersAll.of_none fun _ _ _ _ => release.no_loop _).append
      ((ih' told trivial).append (start.append (ih begun trivial)))
  | _ => exact .of_none (by simp)

/-- All that the code of the callback is told. -/
theorem Trace.orphanNotices (h : Trace host place events before after)
    (orphaned : before.Orphaned loop registration operation) (based : place.Based before) :
    ∀ code notice found, .callback registration.callback code notice found ∈ events →
      ∃ ready, notice = operation.orphanNotice registration.descriptor ready := by
  have all := h.preserves (fun machine => machine.Orphaned loop registration operation ∧
      ∃ since, machine.journal = since ++ before.journal ∧
        ∀ code notice found, .callback registration.callback code notice found ∈ since →
          ∃ ready, notice = operation.orphanNotice registration.descriptor ready)
    (fun machine holds => holds.1.history) ?_ ?_ ?_ ⟨orphaned, [], rfl, by simp⟩ based
  · obtain ⟨-, since, journal, told⟩ := all
    have same : events = since := List.append_cancel_right (h.changes.journal.symm.trans journal)
    exact same ▸ told
  · rintro late _ _ ⟨orphaned, since, journal, told⟩ changes silent
    refine ⟨orphaned.changes changes, late ++ since, by rw [changes.journal, journal, List.append_assoc], ?_⟩
    exact fun code notice found mem =>
      told code notice found ((List.mem_append.mp mem).resolve_left (silent _ _ _ _))
  · rintro machine callback notice ⟨orphaned, since, journal, told⟩ spent
    have changes := changes_atOnce machine spent notice
    refine ⟨orphaned.changes changes, _ :: since, by rw [changes.journal, journal]; rfl, ?_⟩
    intro code notice found mem
    obtain own | early := List.mem_cons.mp mem
    · have same : registration.callback = machine.callbacks.length := by injection own
      exact absurd (orphaned.history.lt_callbacks orphaned.made) (by rw [same]; exact Nat.lt_irrefl _)
    · exact told code notice found early
  · rintro first middle other found ready callback notice calls ⟨orphaned, -⟩ ⟨responded, since, journal, told⟩
      telling
    have changes := (Change.tell middle found.callback callback.code notice).once
    refine ⟨responded.changes changes, _ :: since, by rw [changes.journal, journal]; rfl, ?_⟩
    intro code notice' loops mem
    obtain own | early := List.mem_cons.mp mem
    · obtain ⟨same, -, rfl, -⟩ := Event.callback.inj own
      obtain ⟨rfl, rfl⟩ := orphaned.history.unique orphaned.made telling.based.1.made same.symm
      exact ⟨ready, Option.some.inj (orphaned.responds telling.known telling.gone telling.response
        telling.operation).1⟩
    · exact told code notice' loops early

structure OrphanRun (loop : LoopId) (registration : Registration) (operation : Operation)
    (events : List Event) : Prop where
  -- A dispatch makes no call that the operation is for, and not even one to ask what failed.
  answers : AnswersAll loop registration operation events
  told : ∀ code notice found, .callback registration.callback code notice found ∈ events →
    ∃ ready, notice = operation.orphanNotice registration.descriptor ready

theorem Trace.orphanRun (h : Trace host place events before after)
    (orphaned : before.Orphaned loop registration operation) (based : place.Based before) :
    OrphanRun loop registration operation (after.since before) := by
  rw [since_eq h.changes.journal]
  exact ⟨h.answersAll orphaned based, h.orphanNotices orphaned based⟩

/-- A pending operation loses its socket when the program closes it. -/
theorem close_orphans {name : String} {asynchronous : Bool} {socket : SocketId} (host : Host ω) (budget : Nat)
    (issued : machine.Issued loop registration operation) (needs : operation.socket? = some socket)
    (named : machine.socketHandles.get? name = some ⟨socket, asynchronous⟩) :
    ∃ after, perform host (budget + 1) (.socket (.request name .close)) machine = some (.nothing, after) ∧
      after.Orphaned loop registration operation := by
  refine ⟨(closeSocket host socket true machine).2, ?_, ?_⟩
  · rw [perform, act, socketAction, run_get, named]
    rfl
  obtain ⟨events, quiet⟩ := quietly_closeSocket host socket true machine
  constructor
  case toIssued => exact issued.changes (Change.quiet quiet).once
  case lost =>
    refine ⟨socket, needs, ?_⟩
    cases isOpen : (machine.socketAt socket).isOpen with
    | false => rwa [closeSocket_shut host true isOpen]
    | true =>
      obtain ⟨outside, reply, last⟩ := closeSocket_open host true isOpen
      have shut := socketAt_setSocket machine socket socket Socket.shut
      rw [if_pos ⟨rfl, lt_of_isOpen isOpen⟩] at shut
      rw [last]
      exact congrArg Socket.isOpen shut

structure Outlives (host : Host ω) (machine : Machine ω) (loop : LoopId) (registration : Registration)
    (operation : Operation) : Prop where
  -- Whatever the program does next, between cycles or in the code of a callback.
  onward : ∀ last, Onward host machine last → last.Orphaned loop registration operation ∧
    OrphanRun loop registration operation (last.since machine)
  -- Whatever a running cycle has still to dispatch.
  cycle : ∀ budget other (rest : List (PollEntry × Registration)) count last,
    (∀ pair ∈ rest, pair.1.descriptor = pair.2.descriptor ∧ Listing machine other pair.2) →
      dispatchAll host (perform host budget) other rest machine = some (count, last) →
        last.Orphaned loop registration operation ∧
          OrphanRun loop registration operation (last.since machine)
  -- A failure is told, but by a connection attempt when no error was reported.
  fails : ∀ ready, (operation.orphanNotice registration.descriptor ready).isFailure =
    (!operation.connects || ready.contains Interest.error)

theorem orphaned_outlives (host : Host ω) (h : machine.Orphaned loop registration operation) :
    Outlives host machine loop registration operation := by
  constructor
  case onward =>
    intro last onward
    obtain ⟨events, trace⟩ := onward.trace h.history.coherent
    exact ⟨h.changes trace.changes, trace.orphanRun h trivial⟩
  case cycle =>
    intro budget other rest count last listed ran
    obtain ⟨events, walk⟩ := dispatchAll_inv (runs_perform budget) (fun pair mem => (listed pair mem).1)
      h.history.coherent (fun pair mem => h.history.found (listed pair mem).2.made) ran
    have trace := walk.trace fun pair mem => List.mem_map_of_mem (f := Prod.snd) mem
    refine ⟨h.changes trace.changes, trace.orphanRun h fun found mem => ?_⟩
    obtain ⟨pair, there, rfl⟩ := List.mem_map.mp mem
    exact (listed pair there).2
  case fails =>
    obtain ⟨socket, needs, -⟩ := h.lost
    exact fun ready => operation.isFailure_orphanNotice registration.descriptor ready needs

def closeStream : Action (Option Role) := .socket (.request "stream" .close)

/-- A receive that the next cycle finds ready is told that its socket was closed. -/
theorem orphaned_outlives_receive :
    ∃ machine after last, Reachable openingHost machine ∧ pendingReceive ∈ machine.entries 0 ∧
      perform openingHost 2 closeStream machine = some (.nothing, after) ∧
      after.Orphaned 0 pendingReceive (.recv 0 [0]) ∧
      Outlives openingHost after 0 pendingReceive (.recv 0 [0]) ∧
      performAll openingHost 2 cycleOnce after = some last ∧ startCount 0 (last.since after) = 1 := by
  have ran : ((performAll openingHost 2 waitForData { outside := none }).bind fun machine =>
      (performAll openingHost 2 [closeStream] machine).bind fun after =>
        (performAll openingHost 2 cycleOnce after).map fun last =>
          decide (pendingReceive ∈ machine.entries 0 ∧
            (machine.view? 0).map (·.operation) = some (.recv 0 [0]) ∧
            machine.socketHandles.get? "stream" = some ⟨0, true⟩ ∧
            startCount 0 (last.since after) = 1)) = some true := by decide +kernel
  obtain ⟨machine, began, ran⟩ := Option.bind_eq_some_iff.mp ran
  obtain ⟨after, closed, ran⟩ := Option.bind_eq_some_iff.mp ran
  obtain ⟨last, cycled, checked⟩ := Option.map_eq_some_iff.mp ran
  obtain ⟨pending, works, named, started⟩ := of_decide_eq_true checked
  have reachable := (Reachable.new none).performAll began
  have issued : machine.Issued 0 pendingReceive (.recv 0 [0]) :=
    { history := reachable.history
      made := reachable.history.registered pending
      works := Option.map_eq_some_iff.mp works }
  obtain ⟨left, performed, orphaned⟩ := close_orphans openingHost 1 issued rfl named
  have same : performAll openingHost 2 [closeStream] machine = some left := by
    rw [performAll, closeStream, performed]
    rfl
  cases Option.some.inj (same.symm.trans closed)
  exact ⟨machine, after, last, reachable, pending, performed, orphaned,
    orphaned_outlives openingHost orphaned, cycled, started⟩

def connectingKernel : Kernel (Option Role)
  | .socket .. => pure { result := 6 }
  | .connect .. => pure { result := -1, number := 115 }
  | .poll watches _ => pure { result := watches.length, events := watches.map fun _ => 4 }
  | _ => pure {}

def connectingHost : Host (Option Role) := plainHost connectingKernel fun _ _ _ _ => .done

def connectStream : List (Action (Option Role)) :=
  [.loop (.create 0 {}), .socket (.create "stream" .v4 true),
    .socket (.async "stream" 0 (.connect (.v4 0 80) 0))]

def pendingConnect : Registration := ⟨6, Interest.write, 0, true⟩

def connections (id : CallbackId) (events : List Event) : Nat :=
  events.countP fun
    | .callback other _ (.connected (.ok ())) _ => other == id
    | _ => false

/-- A connection is reported on a socket that was closed before. -/
theorem closed_connect_succeeds : ∃ machine after last,
    Reachable connectingHost machine ∧ machine.snapshots = [] ∧ pendingConnect ∈ machine.entries 0 ∧
      (machine.view? pendingConnect.callback).map (·.operation) = some (.connect 0) ∧
    performAll connectingHost 2 [closeStream] machine = some after ∧ (after.socketAt 0).isOpen = false ∧
    performAll connectingHost 2 cycleOnce after = some last ∧
      connections pendingConnect.callback (last.since after) = 1 := by
  have ran : ((performAll connectingHost 2 connectStream { outside := none }).bind fun machine =>
      (performAll connectingHost 2 [closeStream] machine).bind fun after =>
        (performAll connectingHost 2 cycleOnce after).map fun last =>
          decide (machine.snapshots = [] ∧ pendingConnect ∈ machine.entries 0 ∧
            (machine.view? pendingConnect.callback).map (·.operation) = some (.connect 0) ∧
            (after.socketAt 0).isOpen = false ∧
            connections pendingConnect.callback (last.since after) = 1)) = some true := by decide +kernel
  obtain ⟨machine, began, ran⟩ := Option.bind_eq_some_iff.mp ran
  obtain ⟨after, closed, ran⟩ := Option.bind_eq_some_iff.mp ran
  obtain ⟨last, cycled, checked⟩ := Option.map_eq_some_iff.mp ran
  obtain ⟨idle, pending, works, shut, told⟩ := of_decide_eq_true checked
  exact ⟨machine, after, last, (Reachable.new none).performAll began, idle, pending, works, closed, shut,
    cycled, told⟩

end Machine
end NetReactor
