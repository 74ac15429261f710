import NetReactor.Proofs.Machine.History
import NetReactor.Proofs.Machine.Reaction
import NetReactor.Proofs.Ownership.Obtaining
import NetReactor.Proofs.Ownership.Release
/-!
What the operation of a callback does before its code starts: which system calls it makes, whether it withdraws
its registration, and what it tells. All of this follows from the mask that was reported, the answers of the
kernel, and whether the socket of the operation is open.
-/
namespace NetReactor

def Event.isClosing : Event → Bool
  | .syscall (.close _) _ | .socket _ (.closing ..) => true
  | _ => false

def Reply.connectFailure (reply : Reply) : Error :=
  if reply.failed ∨ reply.value = 0 then .connectFailed
  else (Error.ofNumber reply.value).orElse .connectFailed

/-- Reading an address can fail in one way only. -/
theorem Address.ofReply_eq_error {reply : Reply} {failure : Error}
    (h : Address.ofReply reply = .error failure) : failure = .invalidAddress := by
  unfold Address.ofReply Address.decode at h
  dsimp only at h
  split at h
  · cases h
  · split at h
    · cases h
    · cases h
      rfl

theorem Socket.acceptFailure_eq (reply : Reply) :
    Socket.acceptFailure reply = .wouldBlock ∨ Socket.acceptFailure reply = .acceptFailed := by
  unfold Socket.acceptFailure
  split
  · exact .inl rfl
  · exact .inr rfl

namespace Machine

variable {ω α β : Type} {host : Host ω} {machine middle last : Machine ω} {loop : LoopId}
variable {registration : Registration} {ready : Interest} {operation : Operation}

def Closing (events : List Event) : Prop := ∀ event ∈ events, event.isClosing = true

theorem Closing.outward {events : List Event} (h : Closing events) :
    ∀ event ∈ events, event.isOutward = true := by
  intro event mem
  have closing := h event mem
  cases event with
  | callback => cases closing
  | loop => cases closing
  | _ => rfl

def Closes (action : Step ω α) : Prop :=
  ∀ machine, ∃ events, Closing events ∧ (action machine).2.journal = events ++ machine.journal

namespace Closes

theorem of_same {action : Step ω α} (h : ∀ machine, (action machine).2.journal = machine.journal) :
    Closes action := fun machine => ⟨[], by simp [Closing], h machine⟩

theorem pure (a : α) : Closes (pure a : Step ω α) := .of_same fun _ => rfl

theorem bind {action : Step ω α} {next : α → Step ω β} (h : Closes action)
    (hn : ∀ a, Closes (next a)) : Closes (action >>= next) := by
  intro machine
  obtain ⟨early, closed, first⟩ := h machine
  obtain ⟨late, closed', second⟩ := hn (action machine).1 (action machine).2
  refine ⟨late ++ early, ?_, ?_⟩
  · exact fun event mem => (List.mem_append.mp mem).elim (closed' event) (closed event)
  · rw [List.append_assoc, ← first]
    exact second

end Closes

theorem closes_closeSocket (host : Host ω) (id : SocketId) (asked : Bool) :
    Closes (closeSocket host id asked) := by
  intro machine
  cases isOpen : (machine.socketAt id).isOpen with
  | false => exact ⟨[], by simp [Closing], by rw [closeSocket_shut host asked isOpen]; rfl⟩
  | true =>
    obtain ⟨outside, reply, closed⟩ := closeSocket_open host asked isOpen
    refine ⟨[.syscall (.close (machine.socketAt id).descriptor) reply,
      .socket id (.closing (machine.socketAt id).descriptor asked (machine.keeps id))], ?_, by
      rw [closed]; rfl⟩
    intro event mem
    simp only [List.mem_cons, List.not_mem_nil, or_false] at mem
    rcases mem with rfl | rfl <;> rfl

theorem closes_releaseSocket (host : Host ω) (id : SocketId) : Closes (releaseSocket host id) := by
  refine .bind (.of_same fun _ => rfl) fun machine => ?_
  split
  · exact closes_closeSocket host id false
  · exact .pure _

theorem closes_releaseCallback (host : Host ω) (id : CallbackId) :
    Closes (releaseCallback host id) := by
  refine .bind (.of_same fun _ => rfl) fun machine => ?_
  split
  · exact closes_releaseSocket host _
  · exact .pure _

theorem closes_releaseOld (host : Host ω) (old : Option Registration) : Closes (releaseOld host old) := by
  cases old with
  | none => exact .pure _
  | some old => exact closes_releaseCallback host old.callback

theorem closes_storeSocket (host : Host ω) (name : String) (handle : SocketHandle) :
    Closes (storeSocket host name handle) := by
  refine .bind (.of_same fun _ => rfl) fun machine => .bind (.of_same fun _ => rfl) fun _ => ?_
  split
  · exact closes_releaseSocket host _
  · exact .pure _

/-- A call that does not wait. -/
theorem quiet_called (host : Host ω) (machine : Machine ω) {call : Syscall}
    (unpolled : ∀ reply, (Event.syscall call reply).isPoll = false) :
    Quiet [.syscall call (machine.reply host call)] machine (machine.called host call) := by
  obtain ⟨events, quiet⟩ := quietly_kernel host unpolled machine
  have same : events = [.syscall call (machine.reply host call)] :=
    List.append_cancel_right (quiet.journal.symm.trans (journal_called host machine call))
  exact same ▸ quiet

def HasHeld (machine : Machine ω) (socket : SocketId) (descriptor : Descriptor) : Prop :=
  socket < machine.sockets.length ∧
    (machine.socketAt socket = ⟨descriptor⟩ ∨ machine.socketAt socket = Socket.shut)

theorem HasHeld.grows {socket : SocketId} {descriptor : Descriptor} (h : middle.HasHeld socket descriptor)
    (grows : Grows middle last) : last.HasHeld socket descriptor := by
  obtain ⟨known, holds⟩ := h
  refine ⟨Nat.lt_of_lt_of_le known grows.sockets, ?_⟩
  obtain same | shut := grows.socket socket known
  · rwa [same]
  · exact .inr shut

def keepAccepted (host : Host ω) (id : CallbackId) (socket : SocketId) :
    Option String → Option Callback → Step ω Unit
  | some keep, some callback => do
    modify (·.updateCallback id fun callback => { callback with accepted := callback.accepted + 1 })
    storeSocket host (acceptedName keep callback.accepted) ⟨socket, false⟩
  | _, _ => closeSocket host socket false

theorem placeAccepted_eq (host : Host ω) (id : CallbackId) (keep : Option String) (client : Socket)
    (machine : Machine ω) : placeAccepted host id keep client machine =
      (machine.sockets.length, (keepAccepted host id machine.sockets.length keep (machine.callback? id)
        (addSocket client machine).2).2) := by
  cases keep with
  | none => rfl
  | some keep =>
    cases known : machine.callback? id with
    | none =>
      have known : (addSocket client machine).2.callback? id = none := known
      dsimp only [placeAccepted, bind, StateT.bind, get, getThe, MonadStateOf.get, StateT.get, pure,
        addSocket] at known ⊢
      rw [known]
      rfl
    | some callback =>
      have known : (addSocket client machine).2.callback? id = some callback := known
      dsimp only [placeAccepted, bind, StateT.bind, get, getThe, MonadStateOf.get, StateT.get, pure,
        addSocket] at known ⊢
      rw [known]
      rfl

theorem quietly_keepAccepted (host : Host ω) (id : CallbackId) (socket : SocketId)
    (keep : Option String) (known : Option Callback) :
    Quietly (keepAccepted host id socket keep known) := by
  unfold keepAccepted
  split
  · refine .bind (.modify_same fun machine => ?_) fun _ => quietly_storeSocket host _ _
    exact quiet_updateCallback machine id fun _ => rfl
  · exact quietly_closeSocket host _ _

theorem closes_keepAccepted (host : Host ω) (id : CallbackId) (socket : SocketId)
    (keep : Option String) (known : Option Callback) :
    Closes (keepAccepted host id socket keep known) := by
  unfold keepAccepted
  split
  · exact .bind (.of_same fun _ => rfl) fun _ => closes_storeSocket host _ _
  · exact closes_closeSocket host _ _

/-- Finding a place for an accepted connection closes at most what stood in that place, or the connection. -/
theorem placeAccepted_hasHeld (host : Host ω) (id : CallbackId) (keep : Option String) (client : Socket)
    (machine : Machine ω) :
    (∃ closed, Closing closed ∧
      (placeAccepted host id keep client machine).2.journal = closed ++ machine.journal) ∧
    (placeAccepted host id keep client machine).2.HasHeld (placeAccepted host id keep client machine).1
      client.descriptor := by
  have added : (addSocket client machine).2.HasHeld machine.sockets.length client.descriptor := by
    refine ⟨by simp [addSocket], .inl ?_⟩
    simp [addSocket, socketAt, List.getD_eq_getElem?_getD]
  obtain ⟨events, kept⟩ := quietly_keepAccepted host id machine.sockets.length keep
    (machine.callback? id) (addSocket client machine).2
  rw [placeAccepted_eq]
  exact ⟨closes_keepAccepted host id _ keep _ (addSocket client machine).2, added.grows kept.grows⟩

def withdrawal (loop : LoopId) (registration : Registration) : Event :=
  .loop loop (.withdrawn registration.descriptor registration.callback)

theorem withdraw_journal (host : Host ω) (loop : LoopId) (registration : Registration)
    (machine : Machine ω) : ∃ closed, Closing closed ∧
      (withdraw host loop registration.descriptor registration.callback machine).2.journal =
        closed ++ withdrawal loop registration :: machine.journal :=
  closes_releaseOld host _ (machine.updateRegistry loop
    (.withdrawn registration.descriptor registration.callback) (·.remove registration.descriptor))

/-- What a listener does when its descriptor is ready, the latest event first, and what it has to tell. Whether
its socket `isOpen` is an argument; a connection is told as the socket that has `held` its descriptor. -/
inductive Listens (machine : Machine ω) (loop : LoopId) (registration : Registration) (ready : Interest)
    (isOpen : Bool) : List Event → Option (Outcome (SocketId × Address)) → Prop
  -- After a reported error it makes no call.
  | alarmed {closed} (alarm : ready.contains Interest.error = true) (closing : Closing closed) :
    Listens machine loop registration ready isOpen (closed ++ [withdrawal loop registration])
      (some (.error .acceptFailed))
  | shut {closed} (calm : ready.contains Interest.error = false) (shut : isOpen = false)
    (closing : Closing closed) :
    Listens machine loop registration ready isOpen (closed ++ [withdrawal loop registration])
      (some (.error .socketClosed))
  -- There is no connection yet, or the call was interrupted.
  | waiting {reply : Reply} (calm : ready.contains Interest.error = false) (opened : isOpen = true)
    (failed : reply.failed = true) (waits : Socket.acceptFailure reply = .wouldBlock) :
    Listens machine loop registration ready isOpen
      [.syscall (.accept registration.descriptor) reply] none
  | refused {reply : Reply} {closed} (calm : ready.contains Interest.error = false) (opened : isOpen = true)
    (failed : reply.failed = true) (refuses : Socket.acceptFailure reply ≠ .wouldBlock)
    (closing : Closing closed) :
    Listens machine loop registration ready isOpen
      (closed ++ [withdrawal loop registration, .syscall (.accept registration.descriptor) reply])
      (some (.error .acceptFailed))
  -- The connection is closed again: its peer has no address that can be read.
  | unreadable {reply shut : Reply} {closed} {failure : Error}
    (calm : ready.contains Interest.error = false) (opened : isOpen = true)
    (done : reply.failed = false) (unread : Address.ofReply reply = .error failure)
    (closing : Closing closed) :
    Listens machine loop registration ready isOpen
      (closed ++ [withdrawal loop registration, .syscall (.close reply.result) shut,
        .syscall (.accept registration.descriptor) reply]) (some (.error failure))
  | connected {reply : Reply} {closed} {socket : SocketId} {peer : Address}
    (calm : ready.contains Interest.error = false) (opened : isOpen = true)
    (done : reply.failed = false) (read : Address.ofReply reply = .ok peer)
    (held : machine.HasHeld socket reply.result) (closing : Closing closed) :
    Listens machine loop registration ready isOpen
      (closed ++ [.syscall (.accept registration.descriptor) reply]) (some (.ok (socket, peer)))

theorem Listens.grows {isOpen : Bool} {calls : List Event}
    {answer : Option (Outcome (SocketId × Address))}
    (h : Listens middle loop registration ready isOpen calls answer) (grows : Grows middle last) :
    Listens last loop registration ready isOpen calls answer := by
  cases h with
  | alarmed alarm closing => exact .alarmed alarm closing
  | shut calm shut closing => exact .shut calm shut closing
  | waiting calm isOpen failed waits => exact .waiting calm isOpen failed waits
  | refused calm isOpen failed refuses closing => exact .refused calm isOpen failed refuses closing
  | unreadable calm isOpen done unread closing => exact .unreadable calm isOpen done unread closing
  | connected calm isOpen done read held closing =>
    exact .connected calm isOpen done read (held.grows grows) closing

def answerAccept (host : Host ω) (loop : LoopId) (registration : Registration) (keep : Option String) :
    Outcome (Socket × Address) → Step ω (Option (Outcome (SocketId × Address)))
  | .ok (client, peer) => do
    return some (.ok (← placeAccepted host registration.callback keep client, peer))
  | .error failure => do
    if failure = .wouldBlock then return none
    else
      withdraw host loop registration.descriptor registration.callback
      return some (.error failure)

theorem acceptResult_eq (host : Host ω) (loop : LoopId) (registration : Registration) (socket : SocketId)
    (keep : Option String) (machine : Machine ω) (calm : ready.contains Interest.error = false) :
    acceptResult host loop registration.callback socket keep registration.descriptor ready machine =
      answerAccept host loop registration keep ((machine.socketAt socket).accept (kernel host) machine).1
        ((machine.socketAt socket).accept (kernel host) machine).2 := by
  unfold acceptResult
  rw [calm, if_neg Bool.false_ne_true]
  generalize answered : (machine.socketAt socket).accept (kernel host) machine = answer
  obtain ⟨result, middle⟩ := answer
  dsimp only [bind, StateT.bind, get, getThe, MonadStateOf.get, StateT.get, pure]
  rw [answered]
  cases result with
  | ok pair => rfl
  | error failure => cases failure <;> rfl

/-- The call failed: there is no connection yet, or the listener withdraws. -/
theorem answerAccept_refused (host : Host ω) (loop : LoopId) (registration : Registration)
    (keep : Option String) (machine : Machine ω) (calm : ready.contains Interest.error = false)
    (failed : (machine.reply host (.accept registration.descriptor)).failed = true) :
    ∃ calls answer last, answerAccept host loop registration keep
        (.error (Socket.acceptFailure (machine.reply host (.accept registration.descriptor))))
        (machine.called host (.accept registration.descriptor)) = (answer, last) ∧
      last.journal = calls ++ machine.journal ∧ Listens last loop registration ready true calls answer := by
  obtain waits | refuses := Socket.acceptFailure_eq (machine.reply host (.accept registration.descriptor))
  · rw [waits]
    exact ⟨[_], _, _, rfl, journal_called host machine _, .waiting calm rfl failed waits⟩
  · rw [refuses]
    obtain ⟨closed, closing, journal⟩ := withdraw_journal host loop registration
      (machine.called host (.accept registration.descriptor))
    refine ⟨_, _, _, rfl, ?_, .refused calm rfl failed (by rw [refuses]; nofun) closing⟩
    rw [List.append_assoc]
    exact journal

/-- The peer of a connection has no address that can be read: the connection is closed, and the listener
withdraws. -/
theorem answerAccept_unreadable (host : Host ω) (loop : LoopId) (registration : Registration)
    (keep : Option String) (machine : Machine ω) {failure : Error} (calm : ready.contains Interest.error = false)
    (done : (machine.reply host (.accept registration.descriptor)).failed = false)
    (unread : Address.ofReply (machine.reply host (.accept registration.descriptor)) = .error failure) :
    ∃ calls answer last, answerAccept host loop registration keep (.error failure)
        ((machine.called host (.accept registration.descriptor)).called host
          (.close (machine.reply host (.accept registration.descriptor)).result)) = (answer, last) ∧
      last.journal = calls ++ machine.journal ∧ Listens last loop registration ready true calls answer := by
  have other : failure ≠ .wouldBlock := by
    rw [Address.ofReply_eq_error unread]
    nofun
  unfold answerAccept
  dsimp only
  rw [if_neg other]
  obtain ⟨closed, closing, journal⟩ := withdraw_journal host loop registration
    ((machine.called host (.accept registration.descriptor)).called host
      (.close (machine.reply host (.accept registration.descriptor)).result))
  generalize closes : (machine.called host (.accept registration.descriptor)).reply host
    (.close (machine.reply host (.accept registration.descriptor)).result) = shut at journal
  rw [journal_called, journal_called, closes] at journal
  refine ⟨closed ++ [_, .syscall _ shut, _], _, _, rfl, ?_, .unreadable calm rfl done unread closing⟩
  rw [List.append_assoc]
  exact journal

theorem answerAccept_connected (host : Host ω) (loop : LoopId) (registration : Registration)
    (keep : Option String) (machine : Machine ω) {peer : Address} (calm : ready.contains Interest.error = false)
    (done : (machine.reply host (.accept registration.descriptor)).failed = false)
    (read : Address.ofReply (machine.reply host (.accept registration.descriptor)) = .ok peer) :
    ∃ calls answer last, answerAccept host loop registration keep
        (.ok (⟨(machine.reply host (.accept registration.descriptor)).result⟩, peer))
        (machine.called host (.accept registration.descriptor)) = (answer, last) ∧
      last.journal = calls ++ machine.journal ∧ Listens last loop registration ready true calls answer := by
  obtain ⟨⟨closed, closing, journal⟩, held⟩ := placeAccepted_hasHeld host registration.callback keep
    ⟨(machine.reply host (.accept registration.descriptor)).result⟩
    (machine.called host (.accept registration.descriptor))
  refine ⟨_, _, _, rfl, ?_, .connected calm rfl done read held closing⟩
  rw [List.append_assoc]
  exact journal

theorem acceptResult_listens (host : Host ω) (loop : LoopId) (registration : Registration)
    (socket : SocketId) (keep : Option String) (ready : Interest) (machine : Machine ω)
    (awaits : (machine.socketAt socket).isOpen = true →
      (machine.socketAt socket).descriptor = registration.descriptor) :
    ∃ calls answer last, acceptResult host loop registration.callback socket keep registration.descriptor ready
        machine = (answer, last) ∧ last.journal = calls ++ machine.journal ∧
      Listens last loop registration ready (machine.socketAt socket).isOpen calls answer := by
  obtain ⟨closed, closing, journal⟩ := withdraw_journal host loop registration machine
  cases alarm : ready.contains Interest.error with
  | true =>
    unfold acceptResult
    rw [alarm, if_pos rfl]
    exact ⟨_, _, _, rfl, by rw [List.append_assoc]; exact journal, .alarmed alarm closing⟩
  | false =>
    rw [acceptResult_eq host loop registration socket keep machine alarm]
    cases isOpen : (machine.socketAt socket).isOpen with
    | false =>
      rw [accept_shut host machine isOpen]
      exact ⟨_, _, _, rfl, by rw [List.append_assoc]; exact journal, .shut alarm rfl closing⟩
    | true =>
      rw [accept_eq host machine isOpen, awaits isOpen]
      cases failed : (machine.reply host (.accept registration.descriptor)).failed with
      | true =>
        rw [if_pos rfl]
        exact answerAccept_refused host loop registration keep machine alarm failed
      | false =>
        rw [if_neg Bool.false_ne_true]
        cases read : Address.ofReply (machine.reply host (.accept registration.descriptor)) with
        | ok peer => exact answerAccept_connected host loop registration keep machine alarm failed read
        | error failure =>
          dsimp only
          rw [close_eq_called host (apart_of_not_failed failed)]
          exact answerAccept_unreadable host loop registration keep machine alarm failed read

def isOpenFor (machine : Machine ω) (operation : Operation) : Bool :=
  operation.socket?.all fun socket => (machine.socketAt socket).isOpen

theorem isOpenFor_eq_false {operation : Operation} (shut : machine.isOpenFor operation = false) :
    ∃ socket, operation.socket? = some socket ∧ (machine.socketAt socket).isOpen = false := by
  unfold isOpenFor at shut
  cases needs : operation.socket? with
  | none =>
    rw [needs] at shut
    cases shut
  | some socket =>
    rw [needs, Option.all_some] at shut
    exact ⟨socket, rfl, shut⟩

inductive Responds (machine : Machine ω) (loop : LoopId) (registration : Registration) (ready : Interest)
    (isOpen : Bool) : Operation → List Event → Option Notice → Prop
  | watch : Responds machine loop registration ready isOpen .watch []
      (some (.ready registration.descriptor ready))
  | connected {socket} (calm : ready.contains Interest.error = false) :
    Responds machine loop registration ready isOpen (.connect socket) [] (some (.connected (.ok ())))
  -- After a reported error the socket is asked why it failed.
  | refused {socket} {reply : Reply} (alarm : ready.contains Interest.error = true) (opened : isOpen = true) :
    Responds machine loop registration ready isOpen (.connect socket)
      [.syscall (.getOption registration.descriptor Socket.socketLevel Socket.pendingFailure) reply]
      (some (.connected (.error reply.connectFailure)))
  | refusedShut {socket} (alarm : ready.contains Interest.error = true) (shut : isOpen = false) :
    Responds machine loop registration ready isOpen (.connect socket) []
      (some (.connected (.error .connectFailed)))
  | accept {socket keep calls answer}
    (listens : Listens machine loop registration ready isOpen calls answer) :
    Responds machine loop registration ready isOpen (.accept socket keep) calls (answer.map .accepted)
  | unsent {socket data} (alarm : ready.contains Interest.error = true) :
    Responds machine loop registration ready isOpen (.send socket data) []
      (some (.sent (.error .sendFailed)))
  | sent {socket data} {reply : Reply} (calm : ready.contains Interest.error = false)
    (opened : isOpen = true) :
    Responds machine loop registration ready isOpen (.send socket data)
      [.syscall (.send registration.descriptor data Socket.sendFlags) reply]
      (some (.sent (reply.count (·.orElse .sendFailed))))
  | sentShut {socket data} (calm : ready.contains Interest.error = false) (shut : isOpen = false) :
    Responds machine loop registration ready isOpen (.send socket data) []
      (some (.sent (.error .socketClosed)))
  | unreceived {socket buffer} (alarm : ready.contains Interest.error = true) :
    Responds machine loop registration ready isOpen (.recv socket buffer) []
      (some (.received (.error .receiveFailed) buffer))
  | received {socket} {buffer : Bytes} {reply : Reply} (calm : ready.contains Interest.error = false)
    (opened : isOpen = true) :
    Responds machine loop registration ready isOpen (.recv socket buffer)
      [.syscall (.recv registration.descriptor buffer.length 0) reply]
      (some (.received (reply.count (·.orElse .receiveFailed)) (buffer.overlay reply.data)))
  | receivedShut {socket buffer} (calm : ready.contains Interest.error = false) (shut : isOpen = false) :
    Responds machine loop registration ready isOpen (.recv socket buffer) []
      (some (.received (.error .socketClosed) buffer))

theorem Responds.grows {isOpen : Bool} {calls : List Event} {notice : Option Notice}
    (h : Responds middle loop registration ready isOpen operation calls notice)
    (grows : Grows middle last) :
    Responds last loop registration ready isOpen operation calls notice := by
  cases h with
  | accept listens => exact .accept (listens.grows grows)
  | watch => exact .watch
  | connected calm => exact .connected calm
  | refused alarm opened => exact .refused alarm opened
  | refusedShut alarm shut => exact .refusedShut alarm shut
  | unsent alarm => exact .unsent alarm
  | sent calm opened => exact .sent calm opened
  | sentShut calm shut => exact .sentShut calm shut
  | unreceived alarm => exact .unreceived alarm
  | received calm opened => exact .received calm opened
  | receivedShut calm shut => exact .receivedShut calm shut

section
variable {socket : SocketId}

theorem call_open (host : Host ω) (machine : Machine ω) {socket : Socket} (isOpen : socket.isOpen = true)
    (call : Descriptor → Syscall) (result : Reply → Outcome α) :
    socket.call (kernel host) call result machine =
      (result (machine.reply host (call socket.descriptor)), machine.called host (call socket.descriptor)) := by
  unfold Socket.call
  rw [if_pos isOpen]
  rfl

theorem call_shut (host : Host ω) (machine : Machine ω) {socket : Socket} (shut : socket.isOpen = false)
    (call : Descriptor → Syscall) (result : Reply → Outcome α) :
    socket.call (kernel host) call result machine = (.error .socketClosed, machine) := by
  unfold Socket.call
  rw [if_neg (by rw [shut]; nofun)]
  rfl

def connectAnswer : Outcome (Option Error) → Outcome Unit
  | .ok (some failure) => .error (failure.orElse .connectFailed)
  | .ok none | .error _ => .error .connectFailed

theorem connectResult_eq (host : Host ω) (socket : SocketId) (machine : Machine ω)
    (alarm : ready.contains Interest.error = true) :
    connectResult host socket ready machine =
      (connectAnswer ((machine.socketAt socket).takeError (kernel host) machine).1,
        ((machine.socketAt socket).takeError (kernel host) machine).2) := by
  unfold connectResult
  rw [if_pos alarm]
  generalize taken : (machine.socketAt socket).takeError (kernel host) machine = answer
  obtain ⟨result, middle⟩ := answer
  dsimp only [bind, StateT.bind, get, getThe, MonadStateOf.get, StateT.get, pure]
  rw [taken]
  cases result with
  | error failure => rfl
  | ok pending => cases pending <;> rfl

theorem connectAnswer_eq (reply : Reply) :
    connectAnswer (if reply.failed then .error reply.error
      else .ok (if reply.value = 0 then none else some (Error.ofNumber reply.value))) =
        .error reply.connectFailure := by
  unfold Reply.connectFailure
  cases failed : reply.failed with
  | true => rfl
  | false =>
    by_cases zero : reply.value = 0
    · simp [zero, connectAnswer]
    · simp [zero, connectAnswer]

theorem connectResult_responds (host : Host ω) (loop : LoopId) (registration : Registration)
    (socket : SocketId) (ready : Interest) (machine : Machine ω)
    (named : (machine.socketAt socket).isOpen = true →
      (machine.socketAt socket).descriptor = registration.descriptor) :
    ∃ calls, (connectResult host socket ready machine).2.journal = calls ++ machine.journal ∧
      Responds (connectResult host socket ready machine).2 loop registration ready
        (machine.socketAt socket).isOpen (.connect socket) calls
        (some (.connected (connectResult host socket ready machine).1)) := by
  cases alarm : ready.contains Interest.error with
  | false =>
    unfold connectResult
    rw [if_neg (by rw [alarm]; nofun)]
    exact ⟨[], rfl, .connected alarm⟩
  | true =>
    rw [connectResult_eq host socket machine alarm, Socket.takeError]
    cases isOpen : (machine.socketAt socket).isOpen with
    | false =>
      rw [call_shut host machine isOpen]
      exact ⟨[], rfl, .refusedShut alarm rfl⟩
    | true =>
      rw [call_open host machine isOpen, named isOpen]
      dsimp only
      rw [connectAnswer_eq]
      exact ⟨[_], journal_called .., .refused alarm rfl⟩

theorem sendResult_responds (host : Host ω) (loop : LoopId) (registration : Registration)
    (socket : SocketId) (data : Bytes) (ready : Interest) (machine : Machine ω)
    (named : (machine.socketAt socket).isOpen = true →
      (machine.socketAt socket).descriptor = registration.descriptor) :
    ∃ calls, (sendResult host socket data ready machine).2.journal = calls ++ machine.journal ∧
      Responds (sendResult host socket data ready machine).2 loop registration ready
        (machine.socketAt socket).isOpen (.send socket data) calls
        (some (.sent (sendResult host socket data ready machine).1)) := by
  unfold sendResult
  cases alarm : ready.contains Interest.error with
  | true =>
    rw [if_pos rfl]
    exact ⟨[], rfl, .unsent alarm⟩
  | false =>
    rw [if_neg Bool.false_ne_true]
    dsimp only [bind, StateT.bind, get, getThe, MonadStateOf.get, StateT.get, pure]
    rw [Socket.send]
    cases isOpen : (machine.socketAt socket).isOpen with
    | false =>
      rw [call_shut host machine isOpen]
      exact ⟨[], rfl, .sentShut alarm rfl⟩
    | true =>
      rw [call_open host machine isOpen, named isOpen]
      exact ⟨[_], journal_called .., .sent alarm rfl⟩

theorem recvResult_responds (host : Host ω) (loop : LoopId) (registration : Registration)
    (socket : SocketId) (buffer : Bytes) (ready : Interest) (machine : Machine ω)
    (named : (machine.socketAt socket).isOpen = true →
      (machine.socketAt socket).descriptor = registration.descriptor) :
    ∃ calls, (recvResult host socket buffer ready machine).2.journal = calls ++ machine.journal ∧
      Responds (recvResult host socket buffer ready machine).2 loop registration ready
        (machine.socketAt socket).isOpen (.recv socket buffer) calls
        (some (.received (recvResult host socket buffer ready machine).1.1
          (recvResult host socket buffer ready machine).1.2)) := by
  unfold recvResult
  cases alarm : ready.contains Interest.error with
  | true =>
    rw [if_pos rfl]
    exact ⟨[], rfl, .unreceived alarm⟩
  | false =>
    rw [if_neg Bool.false_ne_true]
    dsimp only [bind, StateT.bind, get, getThe, MonadStateOf.get, StateT.get, pure]
    unfold Socket.recv
    cases isOpen : (machine.socketAt socket).isOpen with
    | false =>
      rw [if_neg Bool.false_ne_true]
      exact ⟨[], rfl, .receivedShut alarm rfl⟩
    | true =>
      rw [if_pos rfl, named isOpen]
      exact ⟨[_], journal_called .., .received alarm rfl⟩

end

/-- An operation whose socket has the descriptor of its registration does what it should, and no more. -/
theorem respond_responds (host : Host ω) (loop : LoopId) (registration : Registration)
    (operation : Operation) (ready : Interest) (machine : Machine ω)
    (awaits : machine.Awaits operation registration.descriptor) :
    ∃ calls, (respond host loop registration.callback operation registration.descriptor ready
        machine).2.journal = calls ++ machine.journal ∧
      Responds (respond host loop registration.callback operation registration.descriptor ready machine).2
        loop registration ready (machine.isOpenFor operation) operation calls
        (respond host loop registration.callback operation registration.descriptor ready machine).1 := by
  have named (socket : SocketId) (needs : operation.socket? = some socket)
      (isOpen : (machine.socketAt socket).isOpen = true) :
      (machine.socketAt socket).descriptor = registration.descriptor := awaits.descriptor_eq needs isOpen
  cases operation with
  | watch => exact ⟨[], rfl, .watch⟩
  | accept socket keep =>
    obtain ⟨calls, answer, last, response, journal, listens⟩ :=
      acceptResult_listens host loop registration socket keep ready machine (named socket rfl)
    have responded : respond host loop registration.callback (.accept socket keep) registration.descriptor ready
        machine = (answer.map .accepted, last) := by
      unfold respond
      change Prod.map (Option.map Notice.accepted) id (acceptResult ..) = _
      rw [response]
      rfl
    rw [responded]
    exact ⟨calls, journal, .accept listens⟩
  | connect socket =>
    exact connectResult_responds host loop registration socket ready machine (named socket rfl)
  | send socket data =>
    exact sendResult_responds host loop registration socket data ready machine (named socket rfl)
  | recv socket buffer =>
    exact recvResult_responds host loop registration socket buffer ready machine (named socket rfl)

/-- So does the operation of a registration, whatever happened since that was made. -/
theorem History.responds {before middle : Machine ω} {loop : LoopId} {registration : Registration}
    {ready : Interest} {callback : Callback} {answer : Option Notice} {calls : List Event}
    (history : before.History) (made : .loop loop (.registered registration) ∈ before.journal)
    (known : before.callback? registration.callback = some callback)
    (response : respond host loop registration.callback callback.operation registration.descriptor ready
      (before.started registration.callback) = (answer, middle))
    (journal : middle.journal = calls ++ (before.started registration.callback).journal) :
    Responds middle loop registration ready
      ((before.started registration.callback).isOpenFor callback.operation) callback.operation calls answer := by
  have waits := history.awaits made (view?_of_callback? known)
  obtain ⟨called, journal', responds⟩ := respond_responds host loop registration callback.operation ready
    (before.started registration.callback) (waits.grows (grows_started before registration.callback))
  rw [response] at journal' responds
  have same : calls = called := List.append_cancel_right (journal.symm.trans journal')
  exact same ▸ responds

end Machine
end NetReactor
