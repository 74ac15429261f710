import NetReactor.Proofs.Loop.Snapshot
import NetReactor.Proofs.Machine.Response
import NetReactor.Proofs.Session.Stages
/-!
Sessions over a socket whose provider refused the credentials. Nothing that is asked of such a session reaches
the provider or sends anything. Connecting is the exception: the socket is connected all the same, and only then
is the handshake refused.
-/
namespace NetReactor

def SessionRequest.mayDo (descriptor : Descriptor) : SessionRequest → Event → Prop
  | .connect address, event => ∃ reply, event = .syscall (.connect descriptor address.encode) reply
  | .close, event => event.isClosing = true
  | _, _ => False

def Reply.connectDenied (reply : Reply) : Error :=
  if reply.failed then reply.error.orElse .connectFailed else .handshakeFailed

theorem Error.ofNumber_eq (number : Int) :
    ofNumber number = .unknown ∨ ofNumber number ∈ numbers.map Prod.snd := by
  unfold ofNumber
  cases found : numbers.lookup number with
  | none => exact .inl rfl
  | some failure =>
    obtain ⟨early, late, split, -⟩ := List.lookup_eq_some_iff.mp found
    exact .inr (List.mem_map.mpr ⟨(number, failure), by simp [split], rfl⟩)

/-- No error number stands for a failed handshake. -/
theorem Error.ofNumber_ne_handshakeFailed (number : Int) : ofNumber number ≠ .handshakeFailed := by
  intro same
  obtain unknown | listed := ofNumber_eq number
  · rw [same] at unknown
    cases unknown
  · rw [same] at listed
    exact absurd listed (by decide)

theorem Reply.connectDenied_eq_iff (reply : Reply) :
    reply.connectDenied = .handshakeFailed ↔ reply.failed = false := by
  unfold connectDenied
  cases reply.failed with
  | false => exact iff_of_true rfl rfl
  | true =>
    refine iff_of_false ?_ (by simp)
    rw [if_pos rfl, Error.orElse]
    split
    · simp
    · exact Error.ofNumber_ne_handshakeFailed reply.number

theorem Session.create_eq_denied {σ : Type} {channel : SecureChannel σ} {context : Context} {state : σ}
    {reason : ChannelError} (h : (channel.acquireCredentials context state).1 = .error reason) :
    (create channel context state).1 = { context, credentials := false } := by
  rcases called : channel.acquireCredentials context state with ⟨answer, after⟩
  rw [called] at h
  subst h
  simp only [create, bind, StateT.bind, called]
  rfl

namespace Machine

variable {ω : Type} {host : Host ω} {socket : SocketId} {opened next : OpenSession} {machine after : Machine ω}

inductive Denied (host : Host ω) (socket : SocketId) : OpenSession → Prop
  | opened {context : Context} {prepare : SessionId → ω → ω} {machine after : Machine ω} {opened : OpenSession}
    {reason : ChannelError}
    (refused : ((host.channel machine.sessionCount).acquireCredentials context
      (prepare machine.sessionCount machine.outside)).1 = .error reason)
    (called : openSession host (.socket socket) context prepare machine = (opened, after)) :
    Denied host socket opened
  | asked {opened next : OpenSession} {budget : Nat} {request : SessionRequest} {machine after : Machine ω}
    {answer : Answer} (h : Denied host socket opened)
    (called : askSession host budget opened request machine = some ((answer, next), after)) :
    Denied host socket next

structure Untouched (socket : SocketId) (opened : OpenSession) : Prop where
  link : opened.link = .socket socket
  session : ∃ context, opened.session = { context, credentials := false }

theorem untouched_openSession {context : Context} {prepare : SessionId → ω → ω} {reason : ChannelError}
    (refused : ((host.channel machine.sessionCount).acquireCredentials context
      (prepare machine.sessionCount machine.outside)).1 = .error reason) :
    Untouched socket (openSession host (.socket socket) context prepare machine).1 where
  link := rfl
  session := by
    let prepared : Machine ω := { machine with
      sessionCount := machine.sessionCount + 1, outside := prepare machine.sessionCount machine.outside }
    have asked : ((channel host machine.sessionCount).acquireCredentials context prepared).1 = .error reason :=
      refused
    exact ⟨context, Session.create_eq_denied asked⟩

namespace Untouched

variable (h : Untouched socket opened)
include h

theorem idle : opened.session.stage = .notStarted ∧ opened.session.credentials = false := by
  obtain ⟨context, session⟩ := h.session
  rw [session]
  exact ⟨rfl, rfl⟩

theorem handshake (budget : Nat) (asked : Bool) :
    opened.session.handshake (transport host opened.id asked opened.link) (channel host opened.id) budget =
      pure (.error .handshakeFailed, opened.session) := by
  rw [Session.handshake_idle (.inr h.idle.2), h.idle.1, if_neg (by simp)]

theorem unsized : opened.session.establishedSizing = .error .handshakeFailed := by
  obtain ⟨context, session⟩ := h.session
  rw [session]
  rfl

theorem shakeHands (host : Host ω) (budget : Nat) (machine : Machine ω) :
    shakeHands host budget opened machine = some ((.error .handshakeFailed, opened), machine) := by
  rw [Machine.shakeHands, h.handshake]
  rfl

theorem ask_handshake (host : Host ω) (budget : Nat) (machine : Machine ω) :
    askSession host budget opened .handshake machine =
      some ((.done (.error .handshakeFailed), opened), machine) :=
  budgeted_bind_of_eq (h.shakeHands host budget machine)

theorem ask_send (host : Host ω) (budget : Nat) (data : Bytes) (machine : Machine ω) :
    askSession host budget opened (.send data) machine =
      some ((.sent (.error .handshakeFailed), opened), machine) := by
  have refused : opened.session.send (transport host opened.id false opened.link) (channel host opened.id) data
      machine = (.error .handshakeFailed, machine) := by
    rw [Session.send, h.unsized]
    rfl
  exact lift_bind_of_eq refused

theorem ask_recv (host : Host ω) (budget : Nat) (buffer : Bytes) (machine : Machine ω) :
    askSession host budget opened (.recv buffer) machine =
      some ((.received (.error .handshakeFailed) buffer, opened), machine) := by
  have refused : opened.session.recv (transport host opened.id false opened.link) (channel host opened.id) buffer
      machine = ({ result := .error .handshakeFailed, buffer, session := opened.session }, machine) := by
    rw [Session.recv, h.unsized]
    rfl
  exact lift_bind_of_eq refused

theorem ask_close (host : Host ω) (budget : Nat) (machine : Machine ω) :
    askSession host budget opened .close machine =
      some ((.nothing, opened), (closeSocket host socket true machine).2) := by
  have closed : opened.session.close (transport host opened.id true opened.link) (channel host opened.id)
      machine = (opened.session, (closeSocket host socket true machine).2) := by
    rw [Session.close, Session.isEstablished, h.idle.1, h.link]
    rfl
  exact lift_bind_of_eq closed

theorem connect (host : Host ω) (budget : Nat) (address : Address) (machine : Machine ω)
    (isOpen : (machine.socketAt socket).isOpen = true) :
    connectSession host budget address opened machine =
      some ((.error (machine.reply host
          (.connect (machine.socketAt socket).descriptor address.encode)).connectDenied, opened),
        machine.called host (.connect (machine.socketAt socket).descriptor address.encode)) := by
  have linked : connectLink host opened.link address machine =
      ((machine.reply host (.connect (machine.socketAt socket).descriptor address.encode)).outcome
          (·.orElse .connectFailed),
        machine.called host (.connect (machine.socketAt socket).descriptor address.encode)) := by
    rw [h.link]
    exact call_open host machine isOpen (.connect · address.encode) (·.outcome (·.orElse .connectFailed))
  rw [connectSession, lift_bind_of_eq linked]
  unfold Reply.outcome Reply.connectDenied
  split
  · rfl
  · exact h.shakeHands host budget _

theorem connect_shut (host : Host ω) (budget : Nat) (address : Address) (machine : Machine ω)
    (shut : (machine.socketAt socket).isOpen = false) :
    connectSession host budget address opened machine = some ((.error .socketClosed, opened), machine) := by
  have linked : connectLink host opened.link address machine = (.error .socketClosed, machine) := by
    rw [h.link]
    exact call_shut host machine shut (.connect · address.encode) (·.outcome (·.orElse .connectFailed))
  rw [connectSession, lift_bind_of_eq linked]
  rfl

theorem ask_connect (host : Host ω) (budget : Nat) (address : Address) (machine : Machine ω)
    (isOpen : (machine.socketAt socket).isOpen = true) :
    askSession host budget opened (.connect address) machine =
      some ((.done (.error (machine.reply host
          (.connect (machine.socketAt socket).descriptor address.encode)).connectDenied), opened),
        machine.called host (.connect (machine.socketAt socket).descriptor address.encode)) :=
  budgeted_bind_of_eq (h.connect host budget address machine isOpen)

theorem ask_connect_shut (host : Host ω) (budget : Nat) (address : Address) (machine : Machine ω)
    (shut : (machine.socketAt socket).isOpen = false) :
    askSession host budget opened (.connect address) machine =
      some ((.done (.error .socketClosed), opened), machine) :=
  budgeted_bind_of_eq (h.connect_shut host budget address machine shut)

/-- A call leaves such a session alone, and does next to nothing. -/
theorem ask {budget : Nat} {request : SessionRequest} {answer : Answer}
    (called : askSession host budget opened request machine = some ((answer, next), after)) :
    next = opened ∧ ∃ events, after.journal = events ++ machine.journal ∧
      ∀ event ∈ events, request.mayDo (machine.socketAt socket).descriptor event := by
  cases request with
  | connect address =>
    cases isOpen : (machine.socketAt socket).isOpen with
    | true =>
      rw [h.ask_connect host budget address machine isOpen] at called
      cases called
      refine ⟨rfl, [_], journal_called host machine _, fun event mem => ?_⟩
      exact ⟨_, List.mem_singleton.mp mem⟩
    | false =>
      rw [h.ask_connect_shut host budget address machine isOpen] at called
      cases called
      exact ⟨rfl, [], rfl, by simp⟩
  | handshake =>
    rw [h.ask_handshake] at called
    cases called
    exact ⟨rfl, [], rfl, by simp⟩
  | send data =>
    rw [h.ask_send] at called
    cases called
    exact ⟨rfl, [], rfl, by simp⟩
  | recv buffer =>
    rw [h.ask_recv] at called
    cases called
    exact ⟨rfl, [], rfl, by simp⟩
  | close =>
    rw [h.ask_close] at called
    cases called
    obtain ⟨events, closing, journal⟩ := closes_closeSocket host socket true machine
    exact ⟨rfl, events, journal, closing⟩
  | view =>
    cases called
    exact ⟨rfl, [], rfl, by simp⟩

end Untouched

theorem Denied.untouched (h : Denied host socket opened) : Untouched socket opened := by
  induction h with
  | @opened context prepare machine after opened reason refused called =>
    have untouched : Untouched socket (openSession host (.socket socket) context prepare machine).1 :=
      untouched_openSession refused
    rwa [called] at untouched
  | asked _ called ih =>
    rw [(ih.ask called).1]
    exact ih

structure Poisoned (host : Host ω) (socket : SocketId) (opened : OpenSession) : Prop where
  stage : opened.session.stage = .notStarted
  handshake : ∀ budget machine, askSession host budget opened .handshake machine =
    some ((.done (.error .handshakeFailed), opened), machine)
  send : ∀ budget data machine, askSession host budget opened (.send data) machine =
    some ((.sent (.error .handshakeFailed), opened), machine)
  recv : ∀ budget buffer machine, askSession host budget opened (.recv buffer) machine =
    some ((.received (.error .handshakeFailed) buffer, opened), machine)
  -- Closing the socket is all that closing the session does.
  close : ∀ budget machine, askSession host budget opened .close machine =
    some ((.nothing, opened), (closeSocket host socket true machine).2)
  -- An open socket is connected first, and what fails then is told instead.
  connect : ∀ budget address machine, (machine.socketAt socket).isOpen = true →
    let call := Syscall.connect (machine.socketAt socket).descriptor address.encode
    askSession host budget opened (.connect address) machine =
      some ((.done (.error (machine.reply host call).connectDenied), opened), machine.called host call)
  connect_shut : ∀ budget address machine, (machine.socketAt socket).isOpen = false →
    askSession host budget opened (.connect address) machine =
      some ((.done (.error .socketClosed), opened), machine)
  connect_iff : ∀ budget address machine,
    (∃ after, askSession host budget opened (.connect address) machine =
        some ((.done (.error .handshakeFailed), opened), after)) ↔
      (machine.socketAt socket).isOpen = true ∧
        (machine.reply host
          (.connect (machine.socketAt socket).descriptor address.encode)).failed = false
  -- No call touches the session, and none reaches the provider or sends or receives anything.
  calls : ∀ budget request machine answer next after,
    askSession host budget opened request machine = some ((answer, next), after) →
      next = opened ∧ ∃ events, after.journal = events ++ machine.journal ∧
        ∀ event ∈ events, request.mayDo (machine.socketAt socket).descriptor event

theorem Untouched.connect_iff (h : Untouched socket opened) (host : Host ω) (budget : Nat) (address : Address)
    (machine : Machine ω) :
    (∃ after, askSession host budget opened (.connect address) machine =
        some ((.done (.error .handshakeFailed), opened), after)) ↔
      (machine.socketAt socket).isOpen = true ∧
        (machine.reply host
          (.connect (machine.socketAt socket).descriptor address.encode)).failed = false := by
  cases isOpen : (machine.socketAt socket).isOpen with
  | true =>
    rw [h.ask_connect host budget address machine isOpen, ← Reply.connectDenied_eq_iff]
    simp
  | false =>
    rw [h.ask_connect_shut host budget address machine isOpen]
    simp

/-- Without credentials a session never gets anywhere: handshakes, sending and receiving are refused, and nobody
is asked for anything. Connecting is refused for the same reason just when the kernel has made the connection. -/
theorem denied_poisoned (h : Denied host socket opened) : Poisoned host socket opened where
  stage := h.untouched.idle.1
  handshake := h.untouched.ask_handshake host
  send := h.untouched.ask_send host
  recv := h.untouched.ask_recv host
  close := h.untouched.ask_close host
  connect := h.untouched.ask_connect host
  connect_shut := h.untouched.ask_connect_shut host
  connect_iff := h.untouched.connect_iff host
  calls _ _ _ _ _ _ called := h.untouched.ask called

def desertedKernel : Kernel (Option Role)
  | .connect .. => pure { result := -1, number := 111 }
  | _ => pure {}

def denyingHost : Host (Option Role) :=
  { plainHost desertedKernel fun _ _ _ _ => .done with
    channel := fun _ => { Plaintext.channel with
      acquireCredentials := fun _ => pure (.error (.credentials "no store")) } }

def openDenied : OpenSession × Machine (Option Role) :=
  openSession denyingHost (.socket 0) (Context.client "host") (fun _ role => role)
    { outside := none, sockets := [⟨5⟩] }

theorem denied_openDenied : Denied denyingHost 0 openDenied.1 := by
  have called : openSession denyingHost (.socket 0) (Context.client "host") (fun _ role => role)
      { outside := none, sockets := [⟨5⟩] } = (openDenied.1, openDenied.2) := rfl
  exact .opened rfl called

theorem denied_poisoned_deserted : Denied denyingHost 0 openDenied.1 ∧ Poisoned denyingHost 0 openDenied.1 :=
  ⟨denied_openDenied, denied_poisoned denied_openDenied⟩

/-- Connecting a session without credentials makes a system call, and tells its failure. -/
theorem denied_connects : ∃ opened machine after reply,
    Denied denyingHost 0 opened ∧
      askSession denyingHost 0 opened (.connect (.v4 0 443)) machine =
        some ((.done (.error .connectionRefused), opened), after) ∧
      after.journal = .syscall (.connect 5 (Address.encode (.v4 0 443))) reply :: machine.journal := by
  have untouched := denied_openDenied.untouched
  exact ⟨openDenied.1, openDenied.2, _, _, denied_openDenied,
    untouched.ask_connect denyingHost 0 (.v4 0 443) openDenied.2 rfl, rfl⟩

end Machine
end NetReactor
