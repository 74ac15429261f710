import NetReactor.Proofs.Loop.Snapshot
import NetReactor.Proofs.Ownership.Failures
/-!
Sockets own their descriptors: what a socket obtained is closed or given back once, by itself only when nothing
holds the socket any more, and is not used afterwards. The program holds event loops by their handles alone, so
what is registered with a loop goes when its last handle does.
-/
namespace NetReactor

variable {descriptor : Descriptor} {events early late middle : List Event} {event later : Event}

/-- What is obtained is owned by nothing yet: the kernel hands out no descriptor that is still open, and the
program only what is its own. -/
def Fresh (early : List Event) (event : Event) : Prop :=
  ∀ descriptor ∈ event.obtains?, descriptor ≠ Descriptor.closed →
    obtained descriptor early = disposed descriptor early

instance (early : List Event) (event : Event) : Decidable (Fresh early event) :=
  inferInstanceAs (Decidable (∀ descriptor ∈ event.obtains?, _))

theorem Event.obtains?_of_disposes? (h : event.disposes? = some descriptor) : event.obtains? = none := by
  cases event with
  | syscall call reply =>
    cases call with
    | close => rfl
    | _ => cases h
  | socket id change =>
    cases change with
    | givenUp => rfl
    | _ => cases h
  | _ => cases h

namespace Machine

/-- A descriptor is owned once at most. -/
theorem obtained_le (fresh : Along Fresh events) (apart : descriptor ≠ Descriptor.closed) :
    obtained descriptor events ≤ disposed descriptor events + 1 := by
  induction events with
  | nil => exact Nat.zero_le _
  | cons event events ih =>
    have early := ih fresh.2
    rw [obtained_cons, disposed_cons]
    by_cases obtains : event.obtains? = some descriptor
    · have none := fresh.1 descriptor obtains apart
      rw [if_pos obtains]
      omega
    · rw [if_neg obtains]
      omega

/-- Before a descriptor that was closed or given back is used again, it is obtained again. -/
theorem exists_obtains_between (fresh : Along Fresh (late ++ later :: (middle ++ event :: early)))
    (lawful : Along Lawful (late ++ later :: (middle ++ event :: early)))
    (gone : event.disposes? = some descriptor) (uses : later.uses? = some descriptor) :
    ∃ between ∈ middle, between.obtains? = some descriptor := by
  by_contra none
  obtain ⟨apart, owned⟩ := lawful.at_split.owned descriptor uses
  have before := obtained_le (along_append.mp (along_append.mp fresh).2.2).2.2 apart
  have idle : obtained descriptor middle = 0 := List.countP_eq_zero.mpr fun between mem => by
    simpa using fun obtains => none ⟨between, mem, obtains⟩
  rw [obtained_append, disposed_append, obtained_cons, disposed_cons, idle, Event.obtains?_of_disposes? gone,
    if_pos gone] at owned
  simp only [reduceCtorEq, if_false] at owned
  omega

variable {ω : Type} {host : Host ω} {machine : Machine ω}

inductive Held (machine : Machine ω) (id : SocketId) : Prop
  | handle {name : String} {asynchronous : Bool}
    (there : machine.socketHandles.get? name = some ⟨id, asynchronous⟩)
  | session {name : String} {opened : OpenSession}
    (there : machine.sessionHandles.get? name = some opened) (link : opened.link = .socket id)
  | pending {loop : LoopId} {registration : Registration} {callback : Callback} {name : Nat}
    (registered : registration ∈ machine.entries loop)
    (known : machine.callback? registration.callback = some callback)
    (works : callback.operation.socket? = some id) (fresh : callback.spent = false)
    (kept : machine.loopHandles.get? name = some loop)

/-- A socket without a descriptor makes no system call, whatever it is asked for. -/
theorem askSocket_shut {id : SocketId} (shut : machine.socketAt id = Socket.shut) (asynchronous : Bool)
    (request : SocketRequest) : (askSocket host ⟨id, asynchronous⟩ request machine).2 = machine := by
  have silent {α : Type} {call : Socket → Step ω α} {answer : α}
      (none : ∀ now, call Socket.shut now = (answer, now)) :
      Passes (fun now => now = machine) (onSocket id call)
        fun result now => result = answer ∧ now = machine := by
    rintro now rfl
    have done : onSocket id call now = (answer, now) := by
      rw [← none now, ← shut]
      rfl
    rw [done]
    exact ⟨rfl, rfl⟩
  have asked : Passes (fun now => now = machine) (askSocket host ⟨id, asynchronous⟩ request)
      fun _ now => now = machine := by
    cases request with
    | accept keep =>
      refine .bind (silent fun _ => rfl) fun result => ?_
      rintro now ⟨rfl, rfl⟩
      rfl
    | close =>
      refine .bind (fun now same => ?_) fun _ => .pure fun _ h => h
      have none : (now.socketAt id).isOpen = false := by
        rw [same, shut]
        rfl
      exact (closeSocket_shut host true none).trans same
    | view => exact .bind .get fun _ => .pure fun _ h => h.1
    | _ => exact .bind (silent fun _ => rfl) fun _ => .pure fun _ h => h.2
  exact asked machine rfl

theorem Custody.held (h : Custody {} {} machine) {id : SocketId}
    (isOpen : (machine.socketAt id).isOpen = true) : machine.Held id := by
  obtain ⟨holder, holds, active⟩ := (h.kept id isOpen).resolve_right (by simp)
  cases holder with
  | plain name => exact .handle holds
  | shared name => exact .handle holds
  | session name =>
    obtain ⟨opened, there, link⟩ := holds
    refine .session there ?_
    cases under : opened.link <;> rw [under] at link <;> cases link
    rfl
  | hand => cases holds
  | busy =>
    have none : machine.busySockets = [] := congrArg Scene.busySockets h.scene
    rw [Holds, none] at holds
    cases holds
  | callback number =>
    have idle : machine.executing = [] := congrArg Scene.executing h.scene
    have finished : machine.snapshots = [] := congrArg Scene.snapshots h.scene
    obtain ⟨seen, view, works⟩ := holds
    obtain ⟨callback, known, rfl⟩ := callback?_of_view? view
    simp only [Active, Reached, idle, finished, List.not_mem_nil, false_and, exists_false, or_false, false_or]
      at active
    obtain ⟨⟨seen, again, fresh⟩, loop, registration, registered, rfl⟩ := active
    cases view.symm.trans again
    obtain busy | ⟨name, there⟩ := (keepsLoop_iff h.loopNames).mp
      ((h.live loop (List.ne_nil_of_mem registered)).resolve_right (by simp))
    · have none : machine.busyLoops = [] := congrArg Scene.busyLoops h.scene
      rw [none] at busy
      cases busy
    · exact .pending registered known works fresh there

structure Owns (host : Host ω) (machine : Machine ω) : Prop where
  -- What was obtained and is not in a socket any more was closed or given back, once each time.
  ledger : ∀ descriptor, descriptor ≠ Descriptor.closed →
    obtained descriptor machine.journal =
      disposed descriptor machine.journal + machine.sockets.count ⟨descriptor⟩
  -- Only what is owned is used. A socket parts with its descriptor once, and without being asked only when nothing
  -- keeps it.
  lawful : Along Lawful machine.journal
  once : Along Fresh machine.journal → ∀ late later middle event early,
    machine.journal = late ++ later :: (middle ++ event :: early) → ∀ descriptor,
      event.disposes? = some descriptor → later.uses? = some descriptor →
        ∃ between ∈ middle, between.obtains? = some descriptor
  silent : ∀ id, Parted id machine.journal → machine.socketAt id = Socket.shut ∧
    ∀ asynchronous request, (askSocket host ⟨id, asynchronous⟩ request machine).2 = machine
  held : ∀ id, (machine.socketAt id).isOpen = true → machine.Held id
  -- In the code of callbacks, too, what is open is kept, by a holder, and what fails leaves nothing open.
  inside : ∀ scene (now : Machine ω), Custody scene {} now →
    (∀ id, (now.socketAt id).isOpen = true → now.keeps id = true) ∧
      (∀ id, now.keeps id = true ↔ ∃ holder, now.Holds none holder id ∧ now.Active holder) ∧
      ∀ budget action answer after, perform host budget action now = some (answer, after) →
        Custody scene {} after ∧ (action.Failed answer → Settled (now.given action) none now after)
  -- A connection that is accepted in vain is closed, wherever that happens.
  accepting : ∀ (socket : Socket) (now : Machine ω) (failure : Error) (after : Machine ω),
    socket.accept (kernel host) now = (.error failure, after) → Settled none none now after

theorem reachable_owns (h : Reachable host machine) : Owns host machine := by
  have custody := h.custody
  constructor
  case ledger => exact fun descriptor apart => by simpa using custody.books.balanced descriptor apart
  case lawful => exact custody.books.lawful
  case once =>
    intro fresh late later middle event early split descriptor gone uses
    have lawful := custody.books.lawful
    rw [split] at fresh lawful
    exact exists_obtains_between fresh lawful gone uses
  case silent =>
    intro id parted
    have shut := (custody.books.parted id parted).2
    exact ⟨shut, askSocket_shut shut⟩
  case held => exact fun id isOpen => custody.held isOpen
  case inside =>
    intro scene now h
    refine ⟨fun id isOpen => ?_, fun id => keeps_iff h.socketNames h.sessionNames,
      fun budget action answer after ran => ?_⟩
    · exact (keeps_iff h.socketNames h.sessionNames).mpr ((h.kept id isOpen).resolve_right (by simp))
    exact ⟨leads_perform budget scene action now answer after h ran, settled_of_failed h ran⟩
  case accepting =>
    intro socket now failure after accepted
    have settled := Settled.accepted host socket now
    rw [accepted] at settled
    exact settled

def droppingHost : Host (Option Role) :=
  plainHost readableKernel fun _ _ _ _ => .perform "drop" (.socket (.drop "stream")) fun _ => .done

def dropInside : List (Action (Option Role)) :=
  [.loop (.create 0 {}), .socket (.create "stream" .v4 true), .socket (.async "stream" 0 (.recv [0] 0)),
    .loop (.request 0 (.runOnce none)), .socket (.create "other" .v4 false), .socket (.giveUp "other")]

/-- The callback is the last to hold the socket, which is closed once it has returned. The kernel may hand out
the same descriptor again then. -/
theorem reachable_owns_dropping :
    ∃ machine, Reachable droppingHost machine ∧ Along Fresh machine.journal ∧
      obtained 0 machine.journal = 2 ∧ closeCalls 0 machine.journal = 1 ∧ Owns droppingHost machine := by
  have ran : (performAll droppingHost 3 dropInside { outside := none }).map
      (fun machine => decide (Along Fresh machine.journal ∧ obtained 0 machine.journal = 2 ∧
        closeCalls 0 machine.journal = 1)) = some true := by decide +kernel
  obtain ⟨machine, ran, counts⟩ := Option.map_eq_some_iff.mp ran
  have reachable := (Reachable.new none).performAll ran
  obtain ⟨fresh, got, closed⟩ := of_decide_eq_true counts
  exact ⟨machine, reachable, fresh, got, closed, reachable_owns reachable⟩

end Machine
end NetReactor
