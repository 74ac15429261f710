import NetReactor.Proofs.Ownership.Actions
/-!
What fails to make a socket, or to make something of one, closes the descriptor that it obtained or was given.
A computation is followed by what it has, and so has to close if it fails.
-/
namespace NetReactor

def Event.closes? : Event → Option Descriptor
  | .syscall (.close descriptor) _ => some descriptor
  | _ => none

def closeCalls (descriptor : Descriptor) (events : List Event) : Nat :=
  events.countP (·.closes? == some descriptor)

def Settles (had left : Option Descriptor) (events : List Event) : Prop :=
  ∀ descriptor, descriptor ≠ Descriptor.closed →
    closeCalls descriptor events + (if left = some descriptor then 1 else 0) =
      obtained descriptor events + if had = some descriptor then 1 else 0

theorem closeCalls_append (descriptor : Descriptor) (late early : List Event) :
    closeCalls descriptor (late ++ early) = closeCalls descriptor late + closeCalls descriptor early :=
  List.countP_append

variable {had between left : Option Descriptor} {events : List Event}

theorem Settles.trans {late early : List Event} (h : Settles had between early) (h' : Settles between left late) :
    Settles had left (late ++ early) := by
  intro descriptor apart
  have first := h descriptor apart
  have second := h' descriptor apart
  rw [closeCalls_append, obtained_append]
  omega

/-- Nothing is obtained and nothing is closed. -/
theorem settles_of_none (had : Option Descriptor)
    (none : ∀ event ∈ events, event.obtains? = none ∧ event.closes? = none) : Settles had had events := by
  intro descriptor _
  have closed : closeCalls descriptor events = 0 := List.countP_eq_zero.mpr fun event mem => by
    simp [(none event mem).2]
  have got : obtained descriptor events = 0 := List.countP_eq_zero.mpr fun event mem => by
    simp [(none event mem).1]
  rw [closed, got]

theorem settles_obtain {event : Event} {descriptor : Descriptor} (obtains : event.obtains? = some descriptor)
    (closes : event.closes? = none) : Settles none (some descriptor) [event] := by
  intro other _
  simp [closeCalls, obtained, List.countP_cons, obtains, closes]

theorem settles_close {event : Event} {descriptor : Descriptor} (closes : event.closes? = some descriptor)
    (obtains : event.obtains? = none) : Settles (some descriptor) none [event] := by
  intro other _
  simp [closeCalls, obtained, List.countP_cons, obtains, closes]

/-- The descriptor that no open socket has need not be closed. -/
theorem settles_shut : Settles (some Descriptor.closed) none [] := by
  intro descriptor apart
  have none : ¬ some Descriptor.closed = some descriptor := fun same => apart (Option.some.inj same).symm
  rw [if_neg none]
  rfl

namespace Machine

variable {ω : Type} {host : Host ω} {scene : Scene} {first before after machine : Machine ω} {id : SocketId}

def Settled (had left : Option Descriptor) (before after : Machine ω) : Prop :=
  ∃ events, after.journal = events ++ before.journal ∧ Settles had left events

namespace Settled

theorem of_same (had : Option Descriptor) (journal : after.journal = before.journal) :
    Settled had had before after := ⟨[], journal, settles_of_none had (by simp)⟩

theorem trans (h : Settled had between first before) (h' : Settled between left before after) :
    Settled had left first after := by
  obtain ⟨early, journal, settles⟩ := h
  obtain ⟨late, journal', settles'⟩ := h'
  exact ⟨late ++ early, by rw [journal', journal, List.append_assoc], settles.trans settles'⟩

theorem of_calls (had : Option Descriptor) (h : Calls before after) : Settled had had before after := by
  obtain ⟨_, events, made, rfl⟩ := h
  refine ⟨events, rfl, settles_of_none had fun event mem => ?_⟩
  have may := made event mem
  cases event with
  | syscall call reply =>
    obtain ⟨plain, -⟩ := may
    cases call with
    | socket => cases plain
    | accept => cases plain
    | close => cases plain
    | _ => exact ⟨rfl, rfl⟩
  | provider => exact ⟨rfl, rfl⟩
  | wire => exact ⟨rfl, rfl⟩
  | _ => exact may.elim

/-- Whatever descriptor a socket has is closed with it. -/
theorem closing (host : Host ω) (id : SocketId) (asked : Bool) (machine : Machine ω) :
    Settled (some (machine.socketAt id).descriptor) none machine (closeSocket host id asked machine).2 := by
  cases isOpen : (machine.socketAt id).isOpen with
  | false =>
    rw [closeSocket_shut host asked isOpen, Socket.eq_shut isOpen]
    exact ⟨[], rfl, settles_shut⟩
  | true =>
    obtain ⟨outside, reply, last⟩ := closeSocket_open host asked isOpen
    have told : Settles (some (machine.socketAt id).descriptor) (some (machine.socketAt id).descriptor)
        [.socket id (.closing (machine.socketAt id).descriptor asked (machine.keeps id))] :=
      settles_of_none _ (by simp [Event.obtains?, Event.closes?])
    have closed : Settles (some (machine.socketAt id).descriptor) none
        [.syscall (.close (machine.socketAt id).descriptor) reply] := settles_close rfl rfl
    exact ⟨_, by rw [last]; rfl, told.trans closed⟩

theorem created (host : Host ω) (family : Family) (machine : Machine ω) :
    Settled none ((Socket.create (kernel host) family machine).1.toOption.map (·.descriptor)) machine
      (Socket.create (kernel host) family machine).2 := by
  rw [create_eq]
  have journal := journal_called host machine (.socket family.domain Socket.streamKind Socket.streamProtocol)
  cases failed : (machine.reply host (.socket family.domain Socket.streamKind Socket.streamProtocol)).failed with
  | true => exact ⟨[_], journal, settles_of_none none (by simp [Event.obtains?, Event.closes?, failed])⟩
  | false => exact ⟨[_], journal, settles_obtain (by simp [Event.obtains?, failed]) rfl⟩

/-- A connection that was accepted is there, or its descriptor is closed. -/
theorem accepted (host : Host ω) (socket : Socket) (machine : Machine ω) :
    Settled none ((socket.accept (kernel host) machine).1.toOption.map (·.1.descriptor)) machine
      (socket.accept (kernel host) machine).2 := by
  cases isOpen : socket.isOpen with
  | false =>
    rw [accept_shut host machine isOpen]
    exact of_same none rfl
  | true =>
    have journal := journal_called host machine (.accept socket.descriptor)
    rw [accept_eq host machine isOpen]
    cases failed : (machine.reply host (.accept socket.descriptor)).failed with
    | true =>
      rw [if_pos rfl]
      exact ⟨[_], journal, settles_of_none none (by simp [Event.obtains?, Event.closes?, failed])⟩
    | false =>
      have got : Settled none (some (machine.reply host (.accept socket.descriptor)).result) machine
          (machine.called host (.accept socket.descriptor)) :=
        ⟨[_], journal, settles_obtain (by simp [Event.obtains?, failed]) rfl⟩
      rw [if_neg Bool.false_ne_true]
      cases Address.ofReply (machine.reply host (.accept socket.descriptor)) with
      | ok peer => exact got
      | error failure =>
        rw [close_eq_called host (apart_of_not_failed failed)]
        exact got.trans ⟨[_], journal_called .., settles_close rfl rfl⟩

end Settled

structure Burdened (scene : Scene) (had : Option Descriptor) (first : Machine ω) (id : SocketId)
    (machine : Machine ω) : Prop where
  custody : Custody scene { hand := some id } machine
  settled : Settled had (some (machine.socketAt id).descriptor) first machine

theorem Burdened.calls (h : Burdened scene had first id before) (calls : Calls before after) :
    Burdened scene had first id after where
  custody := h.custody.calls calls
  settled := by
    rw [calls.socketAt]
    exact h.settled.trans (.of_calls _ calls)

theorem Burdened.closed (h : Burdened scene had first id machine) (host : Host ω) :
    Settled had none first (closeSocket host id false machine).2 :=
  h.settled.trans (.closing host id false machine)

theorem Burdened.opened (h : Burdened scene had first id machine) (host : Host ω) (link : Link)
    (context : Context) (prepare : SessionId → ω → ω) :
    Burdened scene had first id (openSession host link context prepare machine).2 := by
  let counted : Machine ω :=
    { machine with
      sessionCount := machine.sessionCount + 1
      outside := prepare machine.sessionCount machine.outside }
  have counts : Burdened scene had first id counted := {
    custody := h.custody.same (h.custody.books.same rfl rfl) rfl rfl rfl rfl rfl (fun _ => rfl) fun _ => rfl
    settled := h.settled.trans (.of_same _ rfl) }
  exact counts.calls (within_create (calls_channel host machine.sessionCount) context counted)

/-- A new socket is in hand. -/
theorem burdened_added {socket : Socket} (h : Custody scene { loose := some socket.descriptor } machine)
    (settled : Settled had (some socket.descriptor) first machine) :
    Burdened scene had first machine.sockets.length (addSocket socket machine).2 where
  custody := h.added
  settled := by
    have new : (addSocket socket machine).2.socketAt machine.sockets.length = socket := by
      simp [addSocket, socketAt, List.getD_eq_getElem?_getD]
    rw [new]
    exact settled.trans (.of_same _ rfl)

/-- A socket that refuses to become asynchronous is closed. -/
theorem passes_becomeAsync_failed (name : String) (id : SocketId) :
    Passes (Burdened scene had first id) (becomeAsync host name id) fun answer machine =>
      ∀ failure, answer = .done (.error failure) → Settled had none first machine := by
  have called : Passes (Burdened scene had first id) (onSocket id (·.setNonblocking (kernel host) true))
      fun _ => Burdened scene had first id :=
    fun machine h => h.calls (within_onSocket id (fun _ => callsOn_setNonblocking host true) machine)
  refine .bind called fun result => ?_
  cases result with
  | error failure =>
    refine .bind (fun machine h => ?_) fun _ => .pure fun _ h _ _ => h
    rw [releaseSocket_eq, h.custody.keeps_hand rfl, if_neg Bool.false_ne_true]
    exact h.closed host
  | ok done => exact .bind (.anything _) fun _ => .pure fun _ _ => nofun

theorem passes_created_settled (first : Machine ω) (family : Family) :
    Passes (fun machine => Custody scene {} machine ∧ machine = first) (Socket.create (kernel host) family)
      fun result machine => Custody scene { loose := result.toOption.map (·.descriptor) } machine ∧
        Settled none (result.toOption.map (·.descriptor)) first machine := by
  rintro machine ⟨h, rfl⟩
  exact ⟨h.created host family, .created host family machine⟩

theorem passes_addSocket_burdened (socket : Socket) :
    Passes (fun machine => Custody scene { loose := some socket.descriptor } machine ∧
        Settled had (some socket.descriptor) first machine) (addSocket socket : Step ω SocketId)
      fun id => Burdened scene had first id :=
  fun _ ⟨h, settled⟩ => burdened_added h settled

theorem leads_create_failed (perform : Action ω → Run ω Answer) (first : Machine ω) (name : String)
    (family : Family) (asynchronous : Bool) :
    Leads (fun machine => Custody scene {} machine ∧ machine = first)
      (socketAction host perform (.create name family asynchronous)) fun answer machine =>
        ∀ failure, answer = .done (.error failure) → Settled none none first machine := by
  refine .bind (.lift (passes_created_settled first family)) fun result => ?_
  cases result with
  | error failure => exact .pure fun _ h _ _ => h.2
  | ok socket =>
    refine .bind (.lift (passes_addSocket_burdened socket)) fun id => ?_
    cases asynchronous with
    | true => exact .lift (passes_becomeAsync_failed name id)
    | false => exact .bind (.lift (.anything _)) fun _ => .pure fun _ _ => nofun

theorem leads_accept_failed (first : Machine ω) (handle : SocketHandle) (keep : String) :
    Passes (fun machine => machine = first) (askSocket host handle (.accept keep)) fun answer machine =>
      ∀ failure, answer = .address (.error failure) → Settled none none first machine := by
  have accepted : Passes (fun machine => machine = first) (onSocket handle.id (·.accept (kernel host)))
      fun result machine => Settled none (result.toOption.map (·.1.descriptor)) first machine := by
    rintro machine rfl
    exact .accepted host _ machine
  refine .bind accepted fun result => ?_
  cases result with
  | error failure => exact .pure fun _ h _ _ => h
  | ok pair => exact .bind (.anything _) fun _ => .bind (.anything _) fun _ => .pure fun _ _ => nofun

theorem leads_makeAsync_failed (perform : Action ω → Run ω Answer) (first : Machine ω)
    (name source : String) : Leads (fun machine => Custody scene {} machine ∧ machine = first)
      (socketAction host perform (.makeAsync name source)) fun answer machine =>
        ∀ failure, answer = .done (.error failure) →
          Settled (((first.socketHandles.get? source).filter SocketHandle.isPlain).map
            fun handle => (first.socketAt handle.id).descriptor) none first machine := by
  have taking : Passes (fun machine => Custody scene {} machine ∧ machine = first)
      (takeSocket source SocketHandle.isPlain : Step ω (Option SocketHandle)) fun taken machine =>
        taken = (first.socketHandles.get? source).filter SocketHandle.isPlain ∧
          ∀ handle ∈ taken,
            Burdened scene (some (first.socketAt handle.id).descriptor) first handle.id machine := by
    rintro machine ⟨h, rfl⟩
    have taken := passes_takeSocket source machine h
    rw [takeSocket_eq] at taken ⊢
    cases found : (machine.socketHandles.get? source).filter SocketHandle.isPlain with
    | none => exact ⟨rfl, nofun⟩
    | some handle =>
      rw [found] at taken
      refine ⟨rfl, ?_⟩
      rintro _ ⟨⟩
      exact ⟨taken, .of_same _ rfl⟩
  refine .bind (.lift taking) fun taken => ?_
  cases taken with
  | none => exact .pure fun _ _ _ => nofun
  | some handle =>
    rintro machine answer after ⟨found, burdened⟩ ran failure failed
    rw [← found]
    exact Leads.lift (passes_becomeAsync_failed name handle.id) machine answer after (burdened handle rfl) ran
      failure failed

theorem passes_dropSession_settled (opened : OpenSession) :
    Passes (fun machine => Burdened scene had first id machine ∧ opened.link = .socket id)
      (dropSession host opened) fun _ machine => Settled had none first machine := by
  rintro machine ⟨h, link⟩
  obtain ⟨before, calls, last⟩ := close_within (calls_transport host opened.id false opened.link)
    (calls_channel host opened.id) opened.session machine
  have closes : (transport host opened.id false opened.link).close = closeSocket host id false := by
    rw [link]
    rfl
  rw [closes] at last
  rw [show (dropSession host opened machine).2 = (closeSocket host id false before).2 from last]
  exact (h.calls calls).closed host

theorem leads_connectTo_failed (budget : Nat) (first : Machine ω) (name : String) (address : Address)
    (context : Context) (prepare : SessionId → ω → ω) :
    Leads (fun machine => Custody scene {} machine ∧ machine = first)
      (sessionAction host budget (.connectTo name address context prepare)) fun answer machine =>
        ∀ failure, answer = .done (.error failure) → Settled none none first machine := by
  refine .bind (.lift (passes_created_settled first _)) fun result => ?_
  cases result with
  | error failure => exact .pure fun _ h _ _ => h.2
  | ok socket =>
    refine .bind (.lift (passes_addSocket_burdened socket)) fun id => ?_
    have opening : Passes (Burdened scene none first id) (openSession host (.socket id) context prepare)
        fun opened machine => Burdened scene none first id machine ∧ opened.link = .socket id :=
      fun _ h => ⟨h.opened host _ context prepare, rfl⟩
    refine .bind (.lift opening) fun opened => ?_
    have connecting : Leads (fun machine => Burdened scene none first id machine ∧ opened.link = .socket id)
        (connectSession host budget address opened) fun result machine =>
          Burdened scene none first id machine ∧ result.2.link = .socket id := by
      rintro machine result after ⟨h, link⟩ ran
      exact ⟨h.calls (runsWithin_connectSession host _ _ _ _ _ _ ran), (link_connectSession ran).trans link⟩
    refine .bind connecting fun connected => ?_
    obtain ⟨result, opened⟩ := connected
    cases result with
    | error failure =>
      exact .bind (.lift (passes_dropSession_settled opened)) fun _ => .pure fun _ h _ _ => h
    | ok done => exact .bind (.lift (.anything _)) fun _ => .pure fun _ _ _ => nofun

def given (machine : Machine ω) : Action ω → Option Descriptor
  | .socket (.makeAsync _ source) =>
    ((machine.socketHandles.get? source).filter SocketHandle.isPlain).map
      fun handle => (machine.socketAt handle.id).descriptor
  | _ => none

end Machine

def Action.Failed {ω : Type} (action : Action ω) (answer : Answer) : Prop :=
  match action with
  | .socket (.create ..) | .socket (.makeAsync ..) | .session (.create ..) | .session (.connectTo ..) =>
    ∃ failure, answer = .done (.error failure)
  | .socket (.request _ (.accept _)) => ∃ failure, answer = .address (.error failure)
  | _ => False

namespace Machine

variable {ω : Type} {host : Host ω} {scene : Scene} {machine after : Machine ω} {action : Action ω}

theorem leads_createSession_failed (budget : Nat) (first : Machine ω) (name : String) (family : Family)
    (context : Context) (prepare : SessionId → ω → ω) :
    Leads (fun machine => Custody scene {} machine ∧ machine = first)
      (sessionAction host budget (.create name family context prepare)) fun answer machine =>
        ∀ failure, answer = .done (.error failure) → Settled none none first machine := by
  refine .bind (.lift (passes_created_settled first family)) fun result => ?_
  cases result with
  | error failure => exact .pure fun _ h _ _ => h.2
  | ok socket =>
    exact .bind (.lift (.anything _)) fun _ => .bind (.lift (.anything _)) fun _ =>
      .bind (.lift (.anything _)) fun _ => .pure fun _ _ _ => nofun

/-- What fails closes what it obtained, and what it was given, once each. -/
theorem settled_of_failed {budget : Nat} {answer : Answer} (h : Custody scene {} machine)
    (ran : perform host budget action machine = some (answer, after)) (failed : action.Failed answer) :
    Settled (machine.given action) none machine after := by
  cases budget with
  | zero => cases ran
  | succ budget =>
    cases action with
    | loop action => exact failed.elim
    | outside change => exact failed.elim
    | socket action =>
      cases action with
      | create name family asynchronous =>
        obtain ⟨failure, failed⟩ := failed
        exact leads_create_failed (perform host budget) machine name family asynchronous machine answer after
          ⟨h, rfl⟩ ran failure failed
      | makeAsync name source =>
        obtain ⟨failure, failed⟩ := failed
        exact leads_makeAsync_failed (perform host budget) machine name source machine answer after
          ⟨h, rfl⟩ ran failure failed
      | request name request =>
        cases request with
        | accept keep =>
          obtain ⟨failure, failed⟩ := failed
          have ran : socketAction host (perform host budget) (.request name (.accept keep)) machine =
            some (answer, after) := ran
          rw [socketAction, run_get] at ran
          cases there : machine.socketHandles.get? name with
          | none =>
            rw [there] at ran
            cases ran
            cases failed
          | some handle =>
            rw [there] at ran
            exact Leads.lift (leads_accept_failed machine handle keep) machine answer after rfl ran failure
              failed
        | _ => exact failed.elim
      | _ => exact failed.elim
    | session action =>
      cases action with
      | create name family context prepare =>
        obtain ⟨failure, failed⟩ := failed
        exact leads_createSession_failed budget machine name family context prepare machine answer after
          ⟨h, rfl⟩ ran failure failed
      | connectTo name address context prepare =>
        obtain ⟨failure, failed⟩ := failed
        exact leads_connectTo_failed budget machine name address context prepare machine answer after
          ⟨h, rfl⟩ ran failure failed
      | _ => exact failed.elim

end Machine
end NetReactor
