import NetReactor.Proofs.Machine.QuietSession
import NetReactor.Proofs.Ownership.Holders
/-!
What only calls out of the library: everything that is done with a socket short of accepting and closing, and
everything that secure sessions do. Such a computation changes nothing but the outside and the journal, and it
works on the descriptors of open sockets only.
-/
namespace NetReactor.Machine

variable {ω α β : Type} {before after machine : Machine ω}

/-- What may be put down when something is called: calls on the descriptor of an open socket that neither open
nor close anything, and calls of providers and wires. -/
def MayCall (machine : Machine ω) : Event → Prop
  | .syscall call _ => call.isPlain = true ∧ ∃ id, (machine.socketAt id).isOpen = true ∧
    call.descriptor? = some (machine.socketAt id).descriptor
  | .provider .. | .wire .. => True
  | _ => False

def Calls (before after : Machine ω) : Prop :=
  ∃ outside events, (∀ event ∈ events, before.MayCall event) ∧
    after = { before with outside, journal := events ++ before.journal }

theorem Calls.refl (machine : Machine ω) : Calls machine machine :=
  ⟨machine.outside, [], by simp, rfl⟩

theorem Calls.trans {first middle last : Machine ω} (h : Calls first middle) (h' : Calls middle last) :
    Calls first last := by
  obtain ⟨_, early, made, rfl⟩ := h
  obtain ⟨outside, late, made', rfl⟩ := h'
  refine ⟨outside, late ++ early, fun event mem => ?_, by simp⟩
  exact (List.mem_append.mp mem).elim (made' event) (made event)

instance : IsPreorder (Machine ω) Calls where
  refl := .refl
  trans _ _ _ := .trans

theorem Calls.sockets (h : Calls before after) : after.sockets = before.sockets := by
  obtain ⟨_, _, _, rfl⟩ := h
  rfl

theorem Calls.sessionHandles (h : Calls before after) : after.sessionHandles = before.sessionHandles := by
  obtain ⟨_, _, _, rfl⟩ := h
  rfl

theorem Calls.socketAt (h : Calls before after) (id : SocketId) : after.socketAt id = before.socketAt id := by
  rw [Machine.socketAt, Machine.socketAt, h.sockets]

/-- Calls take nothing from anybody. -/
theorem Custody.calls {scene : Scene} {transit : Transit} (h : Custody scene transit before)
    (calls : Calls before after) : Custody scene transit after := by
  obtain ⟨outside, events, made, rfl⟩ := calls
  refine h.same ?_ rfl rfl rfl rfl rfl (fun _ => rfl) fun _ => rfl
  induction events with
  | nil => exact h.books.idle (by simp) rfl rfl
  | cons event events ih =>
    have early := ih fun other mem => made other (List.mem_cons_of_mem _ mem)
    have may := made event (List.mem_cons_self ..)
    cases event with
    | syscall call reply =>
      obtain ⟨plain, id, isOpen, acts⟩ := may
      obtain ⟨obtains, disposes⟩ := Event.plain plain reply
      refine early.call obtains disposes (fun on acts' => ?_) rfl rfl
      cases acts.symm.trans acts'
      exact ⟨(h.books.owned_of_isOpen isOpen).1, mem_sockets_of_isOpen isOpen⟩
    | provider => exact early.one rfl rfl rfl
    | wire => exact early.one rfl rfl rfl
    | _ => exact may.elim

theorem calls_outer (action : StateM ω α) : Within Calls (outer action) :=
  fun _ => ⟨_, [], by simp, rfl⟩

theorem calls_recorded (action : StateM ω α) {event : α → Event}
    (may : ∀ a, machine.MayCall (event a)) : Calls machine (recorded action event machine).2 :=
  ⟨_, [event _], by simpa using may _, rfl⟩

def CallsOn (socket : Socket) (action : Step ω α) : Prop :=
  ∀ machine : Machine ω, (∃ id, machine.socketAt id = socket) → Calls machine (action machine).2

namespace CallsOn

variable {socket : Socket}

theorem pure (a : α) : CallsOn socket (pure a : Step ω α) := fun machine _ => .refl machine

theorem bind {action : Step ω α} {next : α → Step ω β} (h : CallsOn socket action)
    (hn : ∀ a, CallsOn socket (next a)) : CallsOn socket (action >>= next) := by
  rintro machine ⟨id, at_⟩
  have first := h machine ⟨id, at_⟩
  exact first.trans (hn _ _ ⟨id, (first.socketAt id).trans at_⟩)

theorem kernel (host : Host ω) {call : Syscall} (isOpen : socket.isOpen = true) (plain : call.isPlain = true)
    (acts : call.descriptor? = some socket.descriptor) : CallsOn socket (kernel host call) := by
  rintro machine ⟨id, rfl⟩
  exact calls_recorded _ fun _ => ⟨plain, id, isOpen, acts⟩

end CallsOn

variable (host : Host ω) {socket : Socket}

theorem callsOn_call {call : Descriptor → Syscall} (result : Reply → Outcome α)
    (plain : ∀ descriptor, (call descriptor).isPlain = true)
    (acts : ∀ descriptor, (call descriptor).descriptor? = some descriptor) :
    CallsOn socket (socket.call (kernel host) call result) := by
  unfold Socket.call
  split
  · next isOpen => exact .bind (.kernel host isOpen (plain _) (acts _)) fun _ => .pure _
  · exact .pure _

theorem callsOn_recv (buffer : Bytes) : CallsOn socket (socket.recv (kernel host) buffer) := by
  unfold Socket.recv
  split
  · next isOpen => exact .bind (.kernel host isOpen rfl rfl) fun _ => .pure _
  · exact .pure _

theorem callsOn_setNonblocking (on : Bool) : CallsOn socket (socket.setNonblocking (kernel host) on) := by
  refine .bind (callsOn_call host _ (fun _ => rfl) fun _ => rfl) fun result => ?_
  cases result with
  | error failure => exact .pure _
  | ok flags => exact callsOn_call host _ (fun _ => rfl) fun _ => rfl

theorem callsOn_setTimeout (timeout : Duration) :
    CallsOn socket (socket.setTimeout (kernel host) timeout) := by
  refine .bind (callsOn_call host _ (fun _ => rfl) fun _ => rfl) fun result => ?_
  cases result with
  | error failure => exact .pure _
  | ok done => exact callsOn_call host _ (fun _ => rfl) fun _ => rfl

theorem within_onSocket (id : SocketId) {call : Socket → Step ω α}
    (h : ∀ socket, CallsOn socket (call socket)) : Within Calls (onSocket id call) :=
  fun machine => h _ machine ⟨id, rfl⟩

/-- A call on the socket that a number stands for, and what is done with the answer. -/
theorem within_socket (id : SocketId) {call : Socket → Step ω α} {next : α → Step ω β}
    (h : ∀ socket, CallsOn socket (call socket)) (hn : ∀ a, Within Calls (next a)) :
    Within Calls (get >>= fun machine => call (machine.socketAt id) >>= next) := by
  have whole : Within Calls (onSocket id call >>= next) := .bind (within_onSocket id h) hn
  exact whole

theorem within_connectResult (id : SocketId) (ready : Interest) :
    Within Calls (connectResult host id ready) := by
  unfold connectResult
  split
  · refine within_socket id (fun _ => callsOn_call host _ (fun _ => rfl) fun _ => rfl) fun result => ?_
    split <;> exact .pure _
  · exact .pure _

theorem within_sendResult (id : SocketId) (data : Bytes) (ready : Interest) :
    Within Calls (sendResult host id data ready) := by
  unfold sendResult
  split
  · exact .pure _
  · exact within_onSocket id fun _ => callsOn_call host _ (fun _ => rfl) fun _ => rfl

theorem within_recvResult (id : SocketId) (buffer : Bytes) (ready : Interest) :
    Within Calls (recvResult host id buffer ready) := by
  unfold recvResult
  split
  · exact .pure _
  · exact within_onSocket id fun _ => callsOn_recv host buffer

theorem calls_transport (id : SessionId) (asked : Bool) (link : Link) :
    (transport host id asked link).StaysWithin Calls := by
  cases link with
  | socket socket =>
    exact {
      send := fun _ => within_onSocket socket fun _ => callsOn_call host _ (fun _ => rfl) fun _ => rfl
      recv := fun buffer => within_onSocket socket fun _ => callsOn_recv host buffer }
  | wire =>
    exact {
      send := fun _ _ => calls_recorded _ fun _ => trivial
      recv := fun _ _ => calls_recorded _ fun _ => trivial }

theorem calls_channel (id : SessionId) : (channel host id).StaysWithin Calls where
  acquireCredentials _ _ := calls_recorded _ fun _ => trivial
  handshakeStep _ _ _ := calls_recorded _ fun _ => trivial
  streamSizes _ := calls_recorded _ fun _ => trivial
  encrypt _ := .bind (fun machine => ⟨machine.outside, [_], by simp [MayCall], rfl⟩) fun _ => calls_outer _
  decrypt _ _ := calls_recorded _ fun _ => trivial
  shutdownToken _ := calls_recorded _ fun _ => trivial

theorem within_connectLink (link : Link) (address : Address) :
    Within Calls (connectLink host link address) := by
  cases link with
  | socket id => exact within_onSocket id fun _ => callsOn_call host _ (fun _ => rfl) fun _ => rfl
  | wire => exact .pure _

theorem runsWithin_shakeHands (budget : Nat) (opened : OpenSession) :
    RunsWithin Calls (shakeHands host budget opened) :=
  .bind (runsWithin_handshake (calls_transport host _ _ _) (calls_channel host _) _ _) fun _ => .pure _

theorem runsWithin_connectSession (budget : Nat) (address : Address) (opened : OpenSession) :
    RunsWithin Calls (connectSession host budget address opened) := by
  refine .bind (.lift (within_connectLink host opened.link address)) fun result => ?_
  cases result with
  | error failure => exact .pure _
  | ok done => exact runsWithin_shakeHands host budget opened

end NetReactor.Machine
