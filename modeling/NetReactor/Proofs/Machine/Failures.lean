import NetReactor.Proofs.Loop.Cancelling
import NetReactor.Proofs.Machine.Laws
/-!
Failures of input and output as a program sees them: in the answers to what it asks for, and in what the code of its
callbacks is told. None of them is unknown, whatever the kernel, the providers and the program do.
-/
namespace NetReactor

def Answer.IsExplained : Answer → Prop
  | .done result => Explained result
  | .sent result => Explained result
  | .received result _ => Explained result
  | .address result => Explained result
  | .failure result => Explained result
  | _ => True

def Event.IsExplained : Event → Prop
  | .callback _ _ notice _ => notice.IsExplained
  | _ => True

theorem allows_isExplained : Allows Event.IsExplained where
  outward event outward _ := by
    cases event with
    | callback => cases outward
    | _ => trivial
  looped _ _ := trivial
  polled _ _ _ := trivial
  told _ _ _ _ explained := explained

def SocketRequest.transfers : SocketRequest → Bool
  | .bind _ | .listen _ | .accept _ | .connect _ | .send _ | .recv _ => true
  | _ => false

namespace Machine

variable {ω : Type} {host : Host ω} {machine after : Machine ω} {answer : Answer}

def transfers (machine : Machine ω) : Action ω → Bool
  | .socket (.create _ _ asynchronous) => !asynchronous
  | .socket (.request _ request) => request.transfers
  | .socket (.async ..) => true
  | .session (.create ..) | .session (.connectTo ..) => true
  | .session (.request name _) => (machine.sessionHandles.get? name).any (·.link != .wire)
  | _ => false

theorem explained_create (host : Host ω) (family : Family) :
    Session.Yields (Socket.create (kernel host) family) Explained := by
  intro machine unknown
  cases (Socket.reports (kernel host) Socket.shut machine).create family _ unknown

theorem explained_askSocket (host : Host ω) (handle : SocketHandle) {request : SocketRequest}
    (transfers : request.transfers = true) : Session.Yields (askSocket host handle request) Answer.IsExplained := by
  have reports (machine : Machine ω) := Socket.reports (kernel host) (machine.socketAt handle.id) machine
  cases request with
  | bind address =>
    intro machine unknown
    exact absurd (((reports machine).bind address).only _ unknown) (by decide)
  | listen backlog =>
    intro machine unknown
    exact absurd ((reports machine).listen backlog _ unknown) (by decide)
  | accept keep =>
    refine .bind (fun machine => explained_accept host (machine.socketAt handle.id) machine) fun result explained => ?_
    cases result with
    | error failure => exact .pure (.error (explained.failure rfl))
    | ok accepted => exact .bind (.any _) fun _ _ => .bind (.any _) fun _ _ => .pure (.ok _)
  | connect address => exact fun machine => ((reports machine).connect address).explained
  | send data => exact fun machine => ((reports machine).send data).explained
  | recv buffer => exact fun machine => ((reports machine).recv buffer).explained
  | _ => cases transfers

theorem explained_shakeHands (host : Host ω) (budget : Nat) (opened : OpenSession) :
    RunYields (shakeHands host budget opened) fun done => Explained done.1 :=
  .bind (Session.explained_handshake budget opened.session) fun _ explained => .pure explained

theorem explained_connectSession (host : Host ω) (budget : Nat) (address : Address) (opened : OpenSession) :
    RunYields (connectSession host budget address opened) fun done => Explained done.1 := by
  have connecting : Session.Yields (connectLink host opened.link address) Explained := by
    cases opened.link with
    | socket id => exact explained_connect host id address
    | wire => exact .pure (.error (by decide))
  refine .bind (.lift connecting) fun result explained => ?_
  cases result with
  | error failure => exact .pure (.error (explained.failure rfl))
  | ok done => exact explained_shakeHands host budget opened

theorem explained_askSession (host : Host ω) (budget : Nat) {opened : OpenSession} {socket : SocketId}
    (linked : opened.link = .socket socket) (request : SessionRequest) :
    RunYields (askSession host budget opened request) fun done => done.1.IsExplained := by
  have explains (asked : Bool) : (transport host opened.id asked opened.link).Explains := by
    rw [linked]
    exact explains_socketTransport host socket asked
  cases request with
  | connect address =>
    exact .bind (explained_connectSession host budget address opened) fun _ explained => .pure explained
  | handshake => exact .bind (explained_shakeHands host budget opened) fun _ explained => .pure explained
  | send data =>
    exact .bind (.lift (Session.explained_send (explains _) _ data)) fun _ explained => .pure explained
  | recv buffer =>
    exact .bind (.lift (Session.explained_recv (explains _) _ buffer)) fun _ explained => .pure explained
  | close => exact .bind (.any _) fun _ _ => .pure trivial
  | view => exact .bind (.any _) fun _ _ => .pure trivial

theorem explained_usingLoop {loop : LoopId} {action : Run ω Answer} (yields : RunYields action Answer.IsExplained) :
    RunYields (usingLoop host loop action) Answer.IsExplained :=
  .bind (.any _) fun _ _ => .bind yields fun _ explained => .bind (.any _) fun _ _ => .bind (.any _) fun _ _ =>
    .pure explained

theorem explained_usingSocket {socket : SocketId} {action : Run ω Answer}
    (yields : RunYields action Answer.IsExplained) :
    RunYields (usingSocket host socket action) Answer.IsExplained :=
  .bind (.any _) fun _ _ => .bind yields fun _ explained => .bind (.any _) fun _ _ => .bind (.any _) fun _ _ =>
    .pure explained

theorem explained_socketAction {perform : Action ω → Run ω Answer} {action : SocketAction}
    (transfers : machine.transfers (.socket action : Action ω) = true) :
    RunYields (socketAction host perform action) Answer.IsExplained := by
  cases action with
  | create name family asynchronous =>
    cases asynchronous with
    | true => cases transfers
    | false =>
      refine .bind (.lift (explained_create host family)) fun result explained => ?_
      cases result with
      | error failure => exact .pure (.error (explained.failure rfl))
      | ok socket => exact .bind (.any _) fun _ _ => .bind (.any _) fun _ _ => .pure (.ok ())
  | request name request =>
    refine .bind (.any _) fun machine _ => ?_
    split
    · exact .pure trivial
    · exact .lift (explained_askSocket host _ transfers)
  | async name loop request =>
    refine .bind (.any _) fun first _ => .bind (.any _) fun second _ => ?_
    split
    · exact explained_usingSocket (explained_usingLoop (.bind (.any _) fun _ _ => .pure trivial))
    · exact .pure trivial
  | _ => cases transfers

theorem explained_openNew (host : Host ω) (budget : Nat) (name : String) (family : Family) (context : Context)
    (prepare : SessionId → ω → ω) :
    RunYields (sessionAction host budget (.create name family context prepare)) Answer.IsExplained := by
  refine .bind (.lift (explained_create host family)) fun result explained => ?_
  cases result with
  | error failure => exact .pure (.error (explained.failure rfl))
  | ok socket =>
    exact .bind (.any _) fun _ _ => .bind (.any _) fun _ _ => .bind (.any _) fun _ _ => .pure (.ok ())

theorem explained_connectTo (host : Host ω) (budget : Nat) (name : String) (address : Address) (context : Context)
    (prepare : SessionId → ω → ω) :
    RunYields (sessionAction host budget (.connectTo name address context prepare)) Answer.IsExplained := by
  refine .bind (.lift (explained_create host address.family)) fun result explained => ?_
  cases result with
  | error failure => exact .pure (.error (explained.failure rfl))
  | ok socket =>
    refine .bind (.any _) fun id _ => .bind (.any _) fun opened _ =>
      .bind (explained_connectSession host budget address opened) fun done explained => ?_
    obtain ⟨result, opened⟩ := done
    cases result with
    | error failure => exact .bind (.any _) fun _ _ => .pure (.error (explained.failure rfl))
    | ok done => exact .bind (.any _) fun _ _ => .pure (.ok ())

theorem explained_sessionAction (budget : Nat) {action : SessionAction ω}
    (transfers : machine.transfers (.session action) = true)
    (ran : sessionAction host budget action machine = some (answer, after)) : answer.IsExplained := by
  cases action with
  | create name family context prepare =>
    exact explained_openNew host budget name family context prepare machine answer after ran
  | connectTo name address context prepare =>
    exact explained_connectTo host budget name address context prepare machine answer after ran
  | request name request =>
    rw [sessionAction, run_get] at ran
    rw [Machine.transfers] at transfers
    cases named : machine.sessionHandles.get? name with
    | none =>
      rw [named] at transfers
      cases transfers
    | some opened =>
      rw [named] at ran transfers
      cases linked : opened.link with
      | wire =>
        rw [Option.any_some, linked] at transfers
        cases transfers
      | socket socket =>
        have asked := explained_askSession host budget linked request
        exact RunYields.bind asked (fun _ explained => .bind (.any _) fun _ _ => .pure explained) machine answer after
          ran
  | _ => cases transfers

/-- Every answer and everything that code is told, with the failures that single calls report. No failure of input and
output is unknown, at any depth and on any machine. -/
theorem failures_explained {budget : Nat} {action : Action ω}
    (ran : perform host budget action machine = some (answer, after)) :
    (machine.transfers action = true → answer.IsExplained) ∧ Obeys Event.IsExplained machine after ∧
      ∀ {σ : Type} (kernel : Kernel σ) (socket : Socket) (state : σ), Socket.Reports kernel socket state := by
  refine ⟨fun transfers => ?_, obeys_perform allows_isExplained budget action machine answer after ran, Socket.reports⟩
  cases budget with
  | zero => cases ran
  | succ budget =>
    cases action with
    | socket action => exact explained_socketAction transfers machine answer after ran
    | session action => exact explained_sessionAction budget transfers ran
    | _ => cases transfers

def brokenKernel : Kernel (Option Role)
  | .recv .. => pure { result := -1, number := 9999 }
  | call => openingKernel call

def brokenHost : Host (Option Role) := plainHost brokenKernel fun _ _ _ _ => .done

def tellsFailedReceive : Event → Bool
  | .callback _ _ (.received (.error .receiveFailed) _) _ => true
  | _ => false

def answersFailedReceive : Answer → Bool
  | .received (.error .receiveFailed) _ => true
  | _ => false

/-- A socket that waits for data, and is then asked for it, fails to receive both times. -/
theorem failures_explained_unnumbered : ∃ machine counted after answer last,
    Error.ofNumber 9999 = .unknown ∧
    perform brokenHost 2 (.loop (.request 0 (.runOnce none))) machine = some (counted, after) ∧
    after.journal.any tellsFailedReceive = true ∧ Obeys Event.IsExplained machine after ∧
    perform brokenHost 1 (.socket (.request "stream" (.recv [0]))) after = some (answer, last) ∧
    after.transfers (.socket (.request "stream" (.recv [0])) : Action (Option Role)) = true ∧
    answersFailedReceive answer = true ∧ answer.IsExplained := by
  have ran : ((performAll brokenHost 2 waitForData { outside := none }).bind fun machine =>
      (perform brokenHost 2 (.loop (.request 0 (.runOnce none))) machine).bind fun cycled =>
        (perform brokenHost 1 (.socket (.request "stream" (.recv [0]))) cycled.2).map fun asked =>
          cycled.2.journal.any tellsFailedReceive && answersFailedReceive asked.1) = some true := by decide +kernel
  obtain ⟨machine, -, ran⟩ := Option.bind_eq_some_iff.mp ran
  obtain ⟨⟨counted, after⟩, cycled, ran⟩ := Option.bind_eq_some_iff.mp ran
  obtain ⟨⟨answer, last⟩, asked, checked⟩ := Option.map_eq_some_iff.mp ran
  obtain ⟨delivered, returned⟩ := Bool.and_eq_true_iff.mp checked
  exact ⟨machine, counted, after, answer, last, by decide, cycled, delivered, (failures_explained cycled).2.1, asked,
    rfl, returned, (failures_explained asked).1 rfl⟩

end Machine
end NetReactor
