import NetReactor.Proofs.Ownership.Obtaining
/-!
Secure sessions keep custody. A session has its socket for itself, so when it is dropped, or fails to connect
before it has a name, nothing else keeps the socket, and it is closed.
-/
namespace NetReactor.Machine

variable {ω α : Type} {host : Host ω} {scene : Scene} {transit : Transit} {machine after : Machine ω}
variable {opened : OpenSession}

namespace Custody

theorem droppedSession (h : Custody scene { hand := opened.link.socket? } machine) (host : Host ω) :
    Custody scene {} (dropSession host opened machine).2 := by
  obtain ⟨before, calls, last⟩ := close_within (calls_transport host opened.id false opened.link)
    (calls_channel host opened.id) opened.session machine
  have last : (dropSession host opened machine).2 =
    ((transport host opened.id false opened.link).close before).2 := last
  have h := h.calls calls
  rw [last]
  cases link : opened.link with
  | socket id =>
    rw [link] at h
    obtain ⟨closed, shut⟩ := h.closed host false (.inr (h.keeps_hand rfl))
    exact closed.putAway rfl (by rw [shut]; rfl)
  | wire =>
    rw [link] at h
    exact h.calls (calls_recorded _ fun _ => trivial)

theorem storedSession (h : Custody scene { hand := opened.link.socket? } machine) (host : Host ω)
    (name : String) : Custody scene {} (storeSession host name opened machine).2 := by
  have now : (machine.sessionHandles.put name opened).get? name = some opened := by
    rw [Table.get?_put, if_pos rfl]
  have stored := h.exchanged rfl (h.sessionNames.put name opened)
    (machine.sessionHandles.get?_put_of_ne name opened) (by rw [now]; rfl)
  have store : Passes (fun now => now = machine) (storeSession host name opened)
      fun _ => Custody scene {} := by
    refine .bind .get fun seen => .bind .changed fun _ => ?_
    split
    · next old there =>
      rintro _ ⟨_, ⟨rfl, rfl⟩, rfl⟩
      rw [there] at stored
      exact stored.droppedSession host
    · next there =>
      rintro _ ⟨_, ⟨rfl, rfl⟩, rfl⟩
      rw [there] at stored
      exact stored
  exact store machine rfl

theorem openedSession (h : Custody scene transit machine) (host : Host ω) (link : Link) (context : Context)
    (prepare : SessionId → ω → ω) :
    Custody scene transit (openSession host link context prepare machine).2 := by
  have counted : Custody scene transit { machine with sessionCount := machine.sessionCount + 1 } :=
    h.same (h.books.same rfl rfl) rfl rfl rfl rfl rfl (fun _ => rfl) fun _ => rfl
  have prepared := counted.calls (calls_outer (modify (prepare machine.sessionCount)) _)
  exact prepared.calls (within_create (calls_channel host machine.sessionCount) context _)

end Custody

theorem link_shakeHands {budget : Nat} {result : Outcome Unit × OpenSession}
    (h : shakeHands host budget opened machine = some (result, after)) : result.2.link = opened.link := by
  obtain ⟨answer, middle, -, last⟩ := run_bind h
  cases last
  rfl

theorem link_connectSession {budget : Nat} {address : Address} {result : Outcome Unit × OpenSession}
    (h : connectSession host budget address opened machine = some (result, after)) :
    result.2.link = opened.link := by
  obtain ⟨answer, middle, -, h⟩ := run_bind h
  cases answer with
  | error failure =>
    cases h
    rfl
  | ok done => exact link_shakeHands h

/-- Whatever a session is asked for it keeps its socket, which is closed only if that was asked for. -/
theorem leads_askSession (handles : Table String OpenSession) (budget : Nat) (opened : OpenSession)
    (request : SessionRequest) :
    Leads (fun machine => Custody scene {} machine ∧ machine.sessionHandles = handles)
      (askSession host budget opened request)
      fun result machine => Custody scene {} machine ∧ machine.sessionHandles = handles ∧
        result.2.link = opened.link := by
  rintro machine result after ⟨h, rfl⟩ ran
  have stays asked := calls_transport host opened.id asked opened.link
  have channel := calls_channel host opened.id
  have called {last : Machine ω} (calls : Calls machine last) :
      Custody scene {} last ∧ last.sessionHandles = machine.sessionHandles :=
    ⟨h.calls calls, calls.sessionHandles⟩
  cases request with
  | connect address =>
    obtain ⟨answer, middle, first, last⟩ := run_bind ran
    cases last
    obtain ⟨done, same⟩ := called (runsWithin_connectSession host _ _ _ _ _ _ first)
    exact ⟨done, same, link_connectSession first⟩
  | handshake =>
    obtain ⟨answer, middle, first, last⟩ := run_bind ran
    cases last
    obtain ⟨done, same⟩ := called (runsWithin_shakeHands host _ _ _ _ _ first)
    exact ⟨done, same, link_shakeHands first⟩
  | send data =>
    obtain ⟨done, same⟩ := called (within_send (stays false) channel opened.session data machine)
    cases ran
    exact ⟨done, same, rfl⟩
  | recv buffer =>
    obtain ⟨done, same⟩ := called (within_recv (stays false) channel opened.session buffer machine)
    cases ran
    exact ⟨done, same, rfl⟩
  | close =>
    obtain ⟨before, calls, last⟩ := close_within (stays true) channel opened.session machine
    have ended : after = ((transport host opened.id true opened.link).close before).2 ∧
        result.2.link = opened.link := by
      rw [← last]
      cases ran
      exact ⟨rfl, rfl⟩
    obtain ⟨rfl, same⟩ := ended
    obtain ⟨called, kept⟩ := called calls
    cases link : opened.link with
    | socket id =>
      exact ⟨(called.closed host true (.inl rfl)).1, (sessionHandles_closeSocket host id true before).trans kept,
        link ▸ same⟩
    | wire =>
      have shut : Calls before (recorded (host.wire opened.id).close (fun _ => .wire opened.id .close) before).2 :=
        calls_recorded _ fun _ => trivial
      exact ⟨called.calls shut, shut.sessionHandles.trans kept, link ▸ same⟩
  | view =>
    cases ran
    exact ⟨h, rfl, rfl⟩

theorem passes_create (family : Family) : Passes (Custody scene {}) (Socket.create (kernel host) family)
    fun result => Custody scene { loose := result.toOption.map (·.descriptor) } :=
  fun _ h => h.created host family

theorem passes_addSocket (socket : Socket) : Passes (Custody scene { loose := some socket.descriptor })
    (addSocket socket : Step ω SocketId) fun id => Custody scene { hand := some id } :=
  fun _ h => h.added

theorem passes_storeSocket (name : String) (id : SocketId) (asynchronous : Bool) :
    Passes (Custody scene { hand := some id }) (storeSocket host name ⟨id, asynchronous⟩)
      fun _ => Custody scene {} :=
  fun _ h => h.storedSocket host rfl rfl name asynchronous

theorem takeSocket_eq (name : String) (suits : SocketHandle → Bool) (machine : Machine ω) :
    takeSocket name suits machine =
      match (machine.socketHandles.get? name).filter suits with
      | none => (none, machine)
      | some handle => (some handle, { machine with socketHandles := machine.socketHandles.without name }) := by
  have taking : Passes (fun now => now = machine) (takeSocket name suits : Step ω (Option SocketHandle))
      fun taken now => (taken, now) = match (machine.socketHandles.get? name).filter suits with
        | none => (none, machine)
        | some handle => (some handle, { machine with socketHandles := machine.socketHandles.without name }) := by
    refine .bind .get fun seen => ?_
    cases found : (seen.socketHandles.get? name).filter suits <;>
    · rintro _ ⟨rfl, rfl⟩
      rw [found]
      rfl
  exact taking machine rfl

theorem passes_takeSocket (name : String) :
    Passes (Custody scene {}) (takeSocket name SocketHandle.isPlain : Step ω (Option SocketHandle))
      fun taken => Custody scene { hand := taken.map (·.id) } := by
  intro machine h
  rw [takeSocket_eq]
  cases found : (machine.socketHandles.get? name).filter SocketHandle.isPlain with
  | none => exact h
  | some handle =>
    obtain ⟨there, plain⟩ := Option.filter_eq_some_iff.mp found
    obtain ⟨id, asynchronous⟩ := handle
    cases asynchronous with
    | true => cases plain
    | false => exact h.taken rfl rfl there

theorem passes_openSession (link : Link) (context : Context) (prepare : SessionId → ω → ω) :
    Passes (Custody scene { hand := link.socket? }) (openSession host link context prepare)
      fun opened => Custody scene { hand := opened.link.socket? } :=
  fun _ h => h.openedSession host link context prepare

theorem passes_storeSession (name : String) (opened : OpenSession) :
    Passes (Custody scene { hand := opened.link.socket? }) (storeSession host name opened)
      fun _ => Custody scene {} :=
  fun _ h => h.storedSession host name

theorem passes_dropSession (opened : OpenSession) :
    Passes (Custody scene { hand := opened.link.socket? }) (dropSession host opened)
      fun _ => Custody scene {} :=
  fun _ h => h.droppedSession host

theorem leads_connectSession (budget : Nat) (address : Address) (opened : OpenSession) :
    Leads (Custody scene { hand := opened.link.socket? }) (connectSession host budget address opened)
      fun result => Custody scene { hand := result.2.link.socket? } := by
  intro machine result after h ran
  rw [link_connectSession ran]
  exact h.calls (runsWithin_connectSession host _ _ _ _ _ _ ran)

theorem leads_sessionAction (budget : Nat) (action : SessionAction ω) :
    Leads (Custody scene {}) (sessionAction host budget action) fun _ => Custody scene {} := by
  have finished {a : Answer} : Leads (Custody scene {}) (pure a : Run ω Answer) fun _ => Custody scene {} :=
    .pure fun _ h => h
  cases action with
  | «open» name source context prepare =>
    cases source with
    | none =>
      exact .bind (.lift (passes_openSession .wire context prepare)) fun opened =>
        .bind (.lift (passes_storeSession name opened)) fun _ => finished
    | some source =>
      refine .bind (.lift (passes_takeSocket source)) fun taken => ?_
      cases taken with
      | none => exact finished
      | some handle =>
        exact .bind (.lift (passes_openSession (.socket handle.id) context prepare)) fun opened =>
          .bind (.lift (passes_storeSession name opened)) fun _ => finished
  | create name family context prepare =>
    refine .bind (.lift (passes_create family)) fun result => ?_
    cases result with
    | error failure => exact finished
    | ok socket =>
      exact .bind (.lift (passes_addSocket socket)) fun id =>
        .bind (.lift (passes_openSession (.socket id) context prepare)) fun opened =>
          .bind (.lift (passes_storeSession name opened)) fun _ => finished
  | connectTo name address context prepare =>
    refine .bind (.lift (passes_create address.family)) fun result => ?_
    cases result with
    | error failure => exact finished
    | ok socket =>
      refine .bind (.lift (passes_addSocket socket)) fun id =>
        .bind (.lift (passes_openSession (.socket id) context prepare)) fun opened =>
          .bind (leads_connectSession budget address opened) fun connected => ?_
      obtain ⟨result, opened⟩ := connected
      cases result with
      | error failure => exact .bind (.lift (passes_dropSession opened)) fun _ => finished
      | ok done => exact .bind (.lift (passes_storeSession name opened)) fun _ => finished
  | drop name =>
    refine .bind .get fun machine => ?_
    cases there : machine.sessionHandles.get? name with
    | none => exact .pure fun _ h => h.1
    | some opened =>
      refine .bind (.modify ?_) fun _ => .bind (.lift (passes_dropSession opened)) fun _ => finished
      rintro machine ⟨h, rfl⟩
      have gone : (machine.sessionHandles.without name).get? name = none := by
        rw [Table.get?_without, if_pos rfl]
      have dropped := h.exchanged rfl (h.sessionNames.without name)
        (machine.sessionHandles.get?_without_of_ne name) (by rw [gone]; rfl)
      rw [there] at dropped
      exact dropped
  | request name request =>
    refine .bind .get fun machine => ?_
    cases there : machine.sessionHandles.get? name with
    | none => exact .pure fun _ h => h.1
    | some opened =>
      have asked : Leads (fun now => Custody scene {} now ∧ now = machine)
          (askSession host budget opened request) _ :=
        (leads_askSession machine.sessionHandles budget opened request).weaken fun _ ⟨h, same⟩ =>
          ⟨h, congrArg Machine.sessionHandles same⟩
      refine .bind asked fun result => .bind (.modify ?_) fun _ => finished
      rintro middle ⟨h, same, link⟩
      exact h.putBack rfl (by rw [same, there]) link
  | outside name change =>
    refine .bind .get fun machine => ?_
    cases there : machine.sessionHandles.get? name with
    | none => exact .pure fun _ h => h.1
    | some opened =>
      refine .bind (.modify ?_) fun _ => finished
      rintro machine ⟨h, -⟩
      exact h.calls (calls_outer (modify (change opened.id)) _)

end NetReactor.Machine
