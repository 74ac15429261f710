import NetReactor.Proofs.Ownership.Passing
/-!
Where descriptors come from: the kernel opens one, a listener accepts one, or the program hands one over. Each
gets a socket at once, except for that of a connection without a readable address, which is closed again.
-/
namespace NetReactor.Machine

variable {ω α : Type} {scene : Scene} {transit : Transit} {machine : Machine ω}
variable {id : SocketId} {descriptor : Descriptor}

def withSocket (machine : Machine ω) (socket : Socket) : Machine ω :=
  { machine with sockets := machine.sockets ++ [socket] }

theorem socketAt_withSocket (socket : Socket) (old : id < machine.sockets.length) :
    (machine.withSocket socket).socketAt id = machine.socketAt id := by
  simp [withSocket, socketAt, List.getD_eq_getElem?_getD, List.getElem?_append_left old]

def reply (host : Host ω) (machine : Machine ω) (call : Syscall) : Reply := (host.kernel call machine.outside).1

def called (host : Host ω) (machine : Machine ω) (call : Syscall) : Machine ω := (kernel host call machine).2

theorem journal_called (host : Host ω) (machine : Machine ω) (call : Syscall) :
    (machine.called host call).journal = .syscall call (machine.reply host call) :: machine.journal := rfl

theorem sockets_called (host : Host ω) (machine : Machine ω) (call : Syscall) :
    (machine.called host call).sockets = machine.sockets := rfl

theorem kernel_bind (host : Host ω) (call : Syscall) (next : Reply → Step ω α) (machine : Machine ω) :
    (kernel host call >>= next) machine = next (machine.reply host call) (machine.called host call) := rfl

theorem create_eq (host : Host ω) (machine : Machine ω) (family : Family) :
    let call := Syscall.socket family.domain Socket.streamKind Socket.streamProtocol
    Socket.create (kernel host) family machine =
      (if (machine.reply host call).failed then .error .socketCreationFailed
        else .ok ⟨(machine.reply host call).result⟩, machine.called host call) := rfl

theorem accept_shut (host : Host ω) (machine : Machine ω) {socket : Socket} (shut : socket.isOpen = false) :
    socket.accept (kernel host) machine = (.error .socketClosed, machine) := by
  unfold Socket.accept
  rw [shut]
  rfl

theorem accept_eq (host : Host ω) (machine : Machine ω) {socket : Socket} (isOpen : socket.isOpen = true) :
    let call := Syscall.accept socket.descriptor
    socket.accept (kernel host) machine =
      if (machine.reply host call).failed then
        (.error (Socket.acceptFailure (machine.reply host call)), machine.called host call)
      else match Address.ofReply (machine.reply host call) with
        | .ok peer => (.ok (⟨(machine.reply host call).result⟩, peer), machine.called host call)
        | .error failure => (.error failure, (Socket.close (kernel host)
            ⟨(machine.reply host call).result⟩ (machine.called host call)).2) := by
  intro call
  unfold Socket.accept
  rw [isOpen, if_pos rfl, kernel_bind]
  cases (machine.reply host call).failed with
  | true => rfl
  | false =>
    dsimp only
    cases Address.ofReply (machine.reply host call) <;> rfl

/-- What the kernel gives out is the descriptor of an open socket. -/
theorem apart_of_not_failed {reply : Reply} (h : reply.failed = false) : reply.result ≠ Descriptor.closed := by
  simp only [Reply.failed, decide_eq_false_iff_not] at h
  intro closed
  rw [closed] at h
  exact h (by decide)

theorem close_eq_called (host : Host ω) (apart : descriptor ≠ Descriptor.closed) :
    (Socket.close (kernel host) ⟨descriptor⟩ machine).2 = machine.called host (.close descriptor) := by
  have isOpen : (⟨descriptor⟩ : Socket).isOpen = true := by simpa [Socket.isOpen] using apart
  unfold Socket.close
  rw [isOpen]
  rfl

namespace Custody

/-- A change of the outside and the journal only. -/
theorem noted (h : Custody scene transit machine) {outside : ω} {journal : List Event}
    {loose : Option Descriptor} (books : Books loose { machine with outside, journal }) :
    Custody scene { transit with loose } { machine with outside, journal } :=
  { h with
    books
    known := fun holder other holds => h.known holder other (by cases holder <;> exact holds)
    alone := fun holder third other alone mine theirs => h.alone holder third other alone
      (by cases holder <;> exact mine) (by cases third <;> exact theirs)
    kept := fun other isOpen => by
      refine (h.kept other isOpen).imp_left ?_
      rintro ⟨holder, holds, active⟩
      exact ⟨holder, by cases holder <;> exact holds, by cases holder <;> exact active⟩ }

/-- A descriptor gets a socket, which is in hand. -/
theorem added (h : Custody scene { loose := some descriptor } machine) :
    Custody scene { hand := some machine.sockets.length } (machine.withSocket ⟨descriptor⟩) := by
  have before {holder : Holder} {other : SocketId} (apart : holder ≠ .hand)
      (holds : (machine.withSocket ⟨descriptor⟩).Holds (some machine.sockets.length) holder other) :
      machine.Holds none holder other := by
    cases holder with
    | hand => exact absurd rfl apart
    | _ => exact holds
  have longer : (machine.withSocket ⟨descriptor⟩).sockets.length = machine.sockets.length + 1 :=
    List.length_append
  constructor
  case books => exact h.books.add
  case scene => exact h.scene
  case socketNames => exact h.socketNames
  case sessionNames => exact h.sessionNames
  case loopNames => exact h.loopNames
  case known =>
    intro holder other holds
    rw [longer]
    by_cases inHand : holder = .hand
    · subst inHand
      cases holds
      exact Nat.lt_succ_self _
    · exact Nat.lt_succ_of_lt (h.known holder other (before inHand holds))
  case alone =>
    intro holder third other alone mine theirs
    by_cases new : other = machine.sockets.length
    -- Nothing holds the new socket yet but the hand.
    · have inHand {holder}
          (holds : (machine.withSocket ⟨descriptor⟩).Holds (some machine.sockets.length) holder other) :
          holder = .hand := by
        by_contra apart
        exact absurd (h.known holder other (before apart holds)) (new ▸ Nat.lt_irrefl _)
      rw [inHand mine, inHand theirs]
    · have apart {holder}
          (holds : (machine.withSocket ⟨descriptor⟩).Holds (some machine.sockets.length) holder other) :
          holder ≠ .hand := by
        rintro rfl
        exact new (Option.some.inj holds).symm
      exact h.alone holder third other alone (before (apart mine) mine) (before (apart theirs) theirs)
  case kept =>
    intro other isOpen
    by_cases old : other < machine.sockets.length
    · rw [socketAt_withSocket _ old] at isOpen
      refine (h.kept other isOpen).imp_left ?_
      rintro ⟨holder, holds, active⟩
      exact ⟨holder, holds.whatever holds.ne_hand _, by cases holder <;> exact active⟩
    · have known := lt_of_isOpen isOpen
      rw [longer] at known
      exact .inl ⟨.hand, congrArg some (Nat.le_antisymm (Nat.le_of_not_lt old) (Nat.le_of_lt_succ known)),
        trivial⟩
  case live => exact h.live

/-- What the kernel opens for a socket is on its way to it. -/
theorem created (h : Custody scene {} machine) (host : Host ω) (family : Family) :
    Custody scene { loose := (Socket.create (kernel host) family machine).1.toOption.map (·.descriptor) }
      (Socket.create (kernel host) family machine).2 := by
  have nowhere (on : Descriptor) (acts : (Syscall.socket family.domain Socket.streamKind
      Socket.streamProtocol).descriptor? = some on) : on ≠ Descriptor.closed ∧ ⟨on⟩ ∈ machine.sockets :=
    nomatch acts
  rw [create_eq]
  cases failed : (machine.reply host (.socket family.domain Socket.streamKind Socket.streamProtocol)).failed with
  | true =>
    exact h.noted (h.books.call (by simp [Event.obtains?, failed]) rfl nowhere
      (journal_called host machine _) (sockets_called host machine _))
  | false =>
    exact h.noted (h.books.obtain (by simp [Event.obtains?, failed]) nowhere
      (journal_called host machine _) (sockets_called host machine _))

/-- A connection that was accepted is on its way to a socket, or is closed again. -/
theorem accepted (h : Custody scene {} machine) (host : Host ω) (id : SocketId) :
    Custody scene
      { loose := ((machine.socketAt id).accept (kernel host) machine).1.toOption.map (·.1.descriptor) }
      ((machine.socketAt id).accept (kernel host) machine).2 := by
  cases isOpen : (machine.socketAt id).isOpen with
  | false =>
    rw [accept_shut host machine isOpen]
    exact h
  | true =>
    have owned (on : Descriptor)
        (acts : (Syscall.accept (machine.socketAt id).descriptor).descriptor? = some on) :
        on ≠ Descriptor.closed ∧ ⟨on⟩ ∈ machine.sockets := by
      cases acts
      exact ⟨(h.books.owned_of_isOpen isOpen).1, mem_sockets_of_isOpen isOpen⟩
    have journal := journal_called host machine (.accept (machine.socketAt id).descriptor)
    have sockets := sockets_called host machine (.accept (machine.socketAt id).descriptor)
    rw [accept_eq host machine isOpen]
    cases failed : (machine.reply host (.accept (machine.socketAt id).descriptor)).failed with
    | true =>
      rw [if_pos rfl]
      exact h.noted (h.books.call (by simp [Event.obtains?, failed]) rfl owned journal sockets)
    | false =>
      have books : Books (some (machine.reply host (.accept (machine.socketAt id).descriptor)).result)
          (machine.called host (.accept (machine.socketAt id).descriptor)) :=
        h.books.obtain (by simp [Event.obtains?, failed]) owned journal sockets
      rw [if_neg Bool.false_ne_true]
      cases peer : Address.ofReply (machine.reply host (.accept (machine.socketAt id).descriptor)) with
      | ok peer => exact h.noted books
      | error failure =>
        have apart := apart_of_not_failed failed
        rw [close_eq_called host apart]
        exact (h.noted books).noted (books.closeLoose apart (journal ▸ ⟨failed, rfl, failure, peer⟩)
          (journal_called ..) (sockets_called ..))

/-- The program hands a descriptor over. -/
theorem adopted (h : Custody scene {} machine) (descriptor : Descriptor) :
    Custody scene { hand := some machine.sockets.length }
      ((machine.withSocket ⟨descriptor⟩).note (.socket machine.sockets.length (.adopted descriptor))) := by
  have handed : Custody scene { loose := some descriptor }
      (machine.note (.socket machine.sockets.length (.adopted descriptor))) :=
    h.noted (h.books.adopt _ descriptor)
  exact handed.added

/-- The socket in hand gives its descriptor back to the program. -/
theorem gaveUp (h : Custody scene { hand := some id } machine) :
    Custody scene {} ((machine.note (.socket id (.givenUp (machine.socketAt id).descriptor))).setSocket id
      Socket.shut) := by
  have known := h.lt_of_hand rfl
  have books : Books none ((machine.note (.socket id (.givenUp (machine.socketAt id).descriptor))).setSocket id
      Socket.shut) := h.books.giveUp known rfl rfl
  have shut := h.shutting books
  refine shut.putAway rfl ?_
  change ((machine.setSocket id Socket.shut).socketAt id).isOpen = false
  rw [socketAt_setSocket, if_pos ⟨rfl, known⟩]
  rfl

end Custody
end NetReactor.Machine
