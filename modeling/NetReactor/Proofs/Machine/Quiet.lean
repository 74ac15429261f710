import NetReactor.Proofs.Machine.Frame
/-!
Which computations are quiet: every system call of a socket, everything that a secure session does, and the
release of sockets. A computation with a budget is quiet if it is so whenever it comes to an end.
-/
namespace NetReactor.Machine

variable {ω α β : Type}

def Quietly (action : Step ω α) : Prop :=
  ∀ machine, ∃ events, Quiet events machine (action machine).2

def QuietRun (action : Run ω α) : Prop :=
  ∀ machine result after, action machine = some (result, after) →
    ∃ events, Quiet events machine after

namespace Quietly

theorem pure (a : α) : Quietly (pure a : Step ω α) := fun machine => ⟨[], Quiet.refl machine⟩

theorem bind {action : Step ω α} {next : α → Step ω β} (h : Quietly action)
    (hn : ∀ a, Quietly (next a)) : Quietly (action >>= next) := by
  intro machine
  obtain ⟨early, he⟩ := h machine
  obtain ⟨late, hl⟩ := hn (action machine).1 (action machine).2
  exact ⟨late ++ early, he.trans hl⟩

theorem get : Quietly (get : Step ω (Machine ω)) := fun machine => ⟨[], Quiet.refl machine⟩

theorem modify {change : Machine ω → Machine ω} {events : Machine ω → List Event}
    (h : ∀ machine, Quiet (events machine) machine (change machine)) :
    Quietly (modify change : Step ω PUnit) :=
  fun machine => ⟨events machine, h machine⟩

theorem modify_same {change : Machine ω → Machine ω}
    (h : ∀ machine, Quiet [] machine (change machine)) :
    Quietly (MonadStateOf.modifyGet fun s => (PUnit.unit, change s) : Step ω PUnit) :=
  fun machine => ⟨[], h machine⟩

theorem outer (action : StateM ω α) : Quietly (outer action) :=
  fun _ => ⟨[], Quiet.of_same rfl rfl rfl rfl rfl rfl⟩

theorem recorded (action : StateM ω α) {event : α → Event} (h : ∀ a, (event a).isOutward = true)
    (hp : ∀ a, (event a).isPoll = false) : Quietly (recorded action event) :=
  .bind (.outer action) fun a => .bind (.modify fun machine => Quiet.note machine (h a) (hp a)) fun _ => .pure a

end Quietly

namespace QuietRun

theorem pure (a : α) : QuietRun (pure a : Run ω α) := by
  intro machine result after h
  cases h
  exact ⟨[], Quiet.refl machine⟩

theorem bind {action : Run ω α} {next : α → Run ω β} (h : QuietRun action)
    (hn : ∀ a, QuietRun (next a)) : QuietRun (action >>= next) := by
  intro machine result after hr
  obtain ⟨⟨a, middle⟩, ha, hb⟩ := Option.bind_eq_some_iff.mp hr
  obtain ⟨early, he⟩ := h machine a middle ha
  obtain ⟨late, hl⟩ := hn a middle result after hb
  exact ⟨late ++ early, he.trans hl⟩

theorem lift {action : Step ω α} (h : Quietly action) : QuietRun (liftM action : Run ω α) := by
  intro machine result after hr
  have last : (action machine).2 = after := congrArg Prod.snd (Option.some.inj hr)
  exact last ▸ h machine

theorem get : QuietRun (get : Run ω (Machine ω)) := by
  intro machine result after h
  cases h
  exact ⟨[], Quiet.refl machine⟩

theorem modify {change : Machine ω → Machine ω} (h : ∀ machine, Quiet [] machine (change machine)) :
    QuietRun (modify change : Run ω PUnit) := by
  intro machine result after hr
  cases hr
  exact ⟨[], h machine⟩

theorem exhausted : QuietRun (Budgeted.exhausted : Run ω α) := by
  intro machine result after h
  cases h

end QuietRun

variable (host : Host ω)

theorem quietly_kernel {call : Syscall} (h : ∀ reply, (Event.syscall call reply).isPoll = false) :
    Quietly (kernel host call) :=
  .recorded _ (fun _ => rfl) h

theorem quietly_call (socket : Socket) {call : Descriptor → Syscall} (result : Reply → Outcome α)
    (h : ∀ descriptor reply, (Event.syscall (call descriptor) reply).isPoll = false) :
    Quietly (socket.call (kernel host) call result) := by
  unfold Socket.call
  split
  · exact .bind (quietly_kernel host (h _)) fun _ => .pure _
  · exact .pure _

theorem quietly_create (family : Family) : Quietly (Socket.create (kernel host) family) :=
  .bind (quietly_kernel host fun _ => rfl) fun _ => .pure _

theorem quietly_recv (socket : Socket) (buffer : Bytes) :
    Quietly (socket.recv (kernel host) buffer) := by
  unfold Socket.recv
  split
  · exact .bind (quietly_kernel host fun _ => rfl) fun _ => .pure _
  · exact .pure _

theorem quietly_close (socket : Socket) : Quietly (socket.close (kernel host)) := by
  unfold Socket.close
  dsimp only
  split
  · exact .bind (quietly_kernel host fun _ => rfl) fun _ => .pure _
  · exact .pure _

theorem quietly_accept (socket : Socket) : Quietly (socket.accept (kernel host)) := by
  unfold Socket.accept
  split
  · refine .bind (quietly_kernel host fun _ => rfl) fun reply => ?_
    split
    · exact .pure _
    · dsimp only
      split
      · exact .pure _
      · exact .bind (quietly_close host _) fun _ => .pure _
  · exact .pure _

theorem quietly_setNonblocking (socket : Socket) (on : Bool) :
    Quietly (socket.setNonblocking (kernel host) on) := by
  refine .bind (quietly_call host _ _ fun _ _ => rfl) fun result => ?_
  cases result with
  | error failure => exact .pure _
  | ok flags => exact quietly_call host _ _ fun _ _ => rfl

theorem quietly_setTimeout (socket : Socket) (timeout : Duration) :
    Quietly (socket.setTimeout (kernel host) timeout) := by
  refine .bind (quietly_call host _ _ fun _ _ => rfl) fun result => ?_
  cases result with
  | error failure => exact .pure _
  | ok done => exact quietly_call host _ _ fun _ _ => rfl

theorem quietly_onSocket (id : SocketId) {call : Socket → Step ω α} (h : ∀ socket, Quietly (call socket)) :
    Quietly (onSocket id call) :=
  .bind .get fun _ => h _

theorem close_eq_shut (socket : Socket) (machine : Machine ω) :
    (socket.close (kernel host) machine).1 = Socket.shut := by
  unfold Socket.close
  dsimp only
  split <;> rfl

theorem quietly_closeSocket (id : SocketId) (asked : Bool) : Quietly (closeSocket host id asked) := by
  intro machine
  obtain ⟨late, called⟩ :=
    quietly_close host ((machine.closing id asked).socketAt id) (machine.closing id asked)
  have last : (closeSocket host id asked machine).2 =
      (((machine.closing id asked).socketAt id).close (kernel host)
        (machine.closing id asked)).2.setSocket id Socket.shut :=
    congrArg (Machine.setSocket _ id) (close_eq_shut host _ _)
  rw [last]
  cases isOpen : (machine.socketAt id).isOpen with
  | false =>
    have noted : machine.closing id asked = machine := by simp [closing, isOpen]
    rw [noted] at called ⊢
    exact ⟨_, called.shutting (.inr (Socket.eq_shut isOpen))⟩
  | true =>
    have noted : machine.closing id asked = machine.note (.socket id
        (.closing (machine.socketAt id).descriptor asked (machine.keeps id))) := by
      simp [closing, isOpen]
    rw [noted] at called ⊢
    have both := (Quiet.note machine rfl rfl).trans called
    exact ⟨_, both.shutting (.inl ⟨_, rfl, List.mem_append_right _ (List.mem_cons_self ..)⟩)⟩

theorem quietly_releaseSocket (id : SocketId) : Quietly (releaseSocket host id) := by
  refine .bind .get fun machine => ?_
  split
  · exact quietly_closeSocket host id false
  · exact .pure _

theorem quietly_releaseCallback (id : CallbackId) : Quietly (releaseCallback host id) := by
  refine .bind .get fun machine => ?_
  split
  · exact quietly_releaseSocket host _
  · exact .pure _

theorem quietly_releaseOld (old : Option Registration) : Quietly (releaseOld host old) := by
  cases old with
  | none => exact .pure _
  | some old => exact quietly_releaseCallback host old.callback

theorem quietly_storeSocket (name : String) (handle : SocketHandle) :
    Quietly (storeSocket host name handle) := by
  refine .bind .get fun machine => .bind (.modify_same fun _ => ?_) fun _ => ?_
  · exact Quiet.of_same rfl rfl rfl rfl rfl rfl
  · split
    · exact quietly_releaseSocket host _
    · exact .pure _

theorem quietly_takeSocket (name : String) (suits : SocketHandle → Bool) :
    Quietly (takeSocket name suits : Step ω (Option SocketHandle)) := by
  refine .bind .get fun machine => ?_
  split
  · exact .pure _
  · refine .bind (.modify_same fun _ => ?_) fun _ => .pure _
    exact Quiet.of_same rfl rfl rfl rfl rfl rfl

theorem quietly_addSocket (socket : Socket) : Quietly (addSocket socket : Step ω SocketId) :=
  fun machine => ⟨[], quiet_addSocket socket machine⟩

theorem quietly_connectResult (socket : SocketId) (ready : Interest) :
    Quietly (connectResult host socket ready) := by
  unfold connectResult
  split
  · refine .bind .get fun machine => .bind (quietly_call host _ _ fun _ _ => rfl) fun result => ?_
    split
    · exact .pure _
    · exact .pure _
    · exact .pure _
  · exact .pure _

theorem quietly_sendResult (socket : SocketId) (data : Bytes) (ready : Interest) :
    Quietly (sendResult host socket data ready) := by
  unfold sendResult
  split
  · exact .pure _
  · exact .bind .get fun machine => quietly_call host _ _ fun _ _ => rfl

theorem quietly_recvResult (socket : SocketId) (buffer : Bytes) (ready : Interest) :
    Quietly (recvResult host socket buffer ready) := by
  unfold recvResult
  split
  · exact .pure _
  · exact .bind .get fun machine => quietly_recv host _ _

theorem quietly_placeAccepted (id : CallbackId) (keep : Option String) (client : Socket) :
    Quietly (placeAccepted host id keep client) := by
  refine .bind (quietly_addSocket client) fun socket => .bind .get fun machine => ?_
  dsimp only
  split
  · refine .bind (.modify_same fun machine => ?_) fun _ =>
      .bind (quietly_storeSocket host _ _) fun _ => .pure _
    exact quiet_updateCallback machine id fun _ => rfl
  · exact .bind (quietly_closeSocket host _ _) fun _ => .pure _

theorem quietly_askSocket (handle : SocketHandle) (request : SocketRequest) :
    Quietly (askSocket host handle request) := by
  cases request with
  | bind address => exact .bind (quietly_onSocket _ fun _ => quietly_call host _ _ fun _ _ => rfl) fun _ => .pure _
  | listen backlog => exact .bind (quietly_onSocket _ fun _ => quietly_call host _ _ fun _ _ => rfl) fun _ => .pure _
  | accept keep =>
    refine .bind (quietly_onSocket _ fun _ => quietly_accept host _) fun result => ?_
    cases result with
    | error failure => exact .pure _
    | ok pair =>
      exact .bind (quietly_addSocket _) fun _ => .bind (quietly_storeSocket host _ _) fun _ => .pure _
  | connect address => exact .bind (quietly_onSocket _ fun _ => quietly_call host _ _ fun _ _ => rfl) fun _ => .pure _
  | send data => exact .bind (quietly_onSocket _ fun _ => quietly_call host _ _ fun _ _ => rfl) fun _ => .pure _
  | recv buffer => exact .bind (quietly_onSocket _ fun _ => quietly_recv host _ _) fun _ => .pure _
  | close => exact .bind (quietly_closeSocket host _ _) fun _ => .pure _
  | setNonblocking on =>
    exact .bind (quietly_onSocket _ fun _ => quietly_setNonblocking host _ _) fun _ => .pure _
  | setReuseAddress on =>
    exact .bind (quietly_onSocket _ fun _ => quietly_call host _ _ fun _ _ => rfl) fun _ => .pure _
  | setTimeout timeout =>
    exact .bind (quietly_onSocket _ fun _ => quietly_setTimeout host _ _) fun _ => .pure _
  | shutdown direction =>
    exact .bind (quietly_onSocket _ fun _ => quietly_call host _ _ fun _ _ => rfl) fun _ => .pure _
  | takeError => exact .bind (quietly_onSocket _ fun _ => quietly_call host _ _ fun _ _ => rfl) fun _ => .pure _
  | localAddress => exact .bind (quietly_onSocket _ fun _ => quietly_call host _ _ fun _ _ => rfl) fun _ => .pure _
  | peerAddress => exact .bind (quietly_onSocket _ fun _ => quietly_call host _ _ fun _ _ => rfl) fun _ => .pure _
  | view => exact .bind .get fun _ => .pure _

theorem quietly_becomeAsync (name : String) (id : SocketId) : Quietly (becomeAsync host name id) := by
  refine .bind (quietly_onSocket _ fun _ => quietly_setNonblocking host _ _) fun result => ?_
  cases result with
  | error failure => exact .bind (quietly_releaseSocket host _) fun _ => .pure _
  | ok done => exact .bind (quietly_storeSocket host _ _) fun _ => .pure _

end NetReactor.Machine
