import NetReactor.Proofs.Machine.Replay
/-!
Descriptors in the journal: how often one was obtained, and how often it was closed or given back. The books of
a machine say that the difference is what its sockets have, that every call is made on a descriptor that is
there, and that every close call has a reason. Nothing is assumed about the kernel.
-/
namespace NetReactor

def Syscall.descriptor? : Syscall → Option Descriptor
  | .poll .. | .socket .. => none
  | .bind descriptor _ | .listen descriptor _ | .accept descriptor | .connect descriptor _
  | .localName descriptor | .peerName descriptor | .send descriptor _ _ | .recv descriptor _ _
  | .close descriptor | .getFlags descriptor | .setFlags descriptor _ | .setOption descriptor _ _ _
  | .getOption descriptor _ _ | .shutdown descriptor _ => some descriptor

def Syscall.isPlain : Syscall → Bool
  | .socket .. | .accept _ | .close _ => false
  | _ => true

def Event.obtains? : Event → Option Descriptor
  | .syscall (.socket ..) reply | .syscall (.accept _) reply =>
    if reply.failed then none else some reply.result
  | .socket _ (.adopted descriptor) => some descriptor
  | _ => none

def Event.disposes? : Event → Option Descriptor
  | .syscall (.close descriptor) _ | .socket _ (.givenUp descriptor) => some descriptor
  | _ => none

def Event.parts? : Event → Option SocketId
  | .socket id (.closing ..) => some id
  | .socket id (.givenUp descriptor) => if descriptor = Descriptor.closed then none else some id
  | _ => none

def Event.uses? : Event → Option Descriptor
  | .syscall call _ => call.descriptor?
  | .socket _ (.givenUp descriptor) => if descriptor = Descriptor.closed then none else some descriptor
  | _ => none

def Event.isIdle : Event → Bool
  | .syscall (.poll ..) _ => true
  | .syscall .. | .socket .. => false
  | _ => true

def obtained (descriptor : Descriptor) (events : List Event) : Nat :=
  events.countP (·.obtains? == some descriptor)

def disposed (descriptor : Descriptor) (events : List Event) : Nat :=
  events.countP (·.disposes? == some descriptor)

def Parted (id : SocketId) (events : List Event) : Prop :=
  ∃ event ∈ events, event.parts? = some id

/-- Why a descriptor is closed: the program asked for it, or nothing keeps its socket, or it is that of a
connection that came without a readable address. -/
def Prompts (descriptor : Descriptor) : List Event → Prop
  | .socket _ (.closing closing asked kept) :: _ => closing = descriptor ∧ (asked = true ∨ kept = false)
  | .syscall (.accept _) reply :: _ =>
    reply.failed = false ∧ reply.result = descriptor ∧ ∃ failure, Address.ofReply reply = .error failure
  | _ => False

structure Lawful (early : List Event) (event : Event) : Prop where
  owned : ∀ descriptor, event.uses? = some descriptor →
    descriptor ≠ Descriptor.closed ∧ disposed descriptor early < obtained descriptor early
  prompted : ∀ descriptor reply, event = .syscall (.close descriptor) reply → Prompts descriptor early
  once : ∀ id, event.parts? = some id → ¬ Parted id early

theorem obtained_cons (descriptor : Descriptor) (event : Event) (events : List Event) :
    obtained descriptor (event :: events) =
      obtained descriptor events + if event.obtains? = some descriptor then 1 else 0 := by
  simp [obtained, List.countP_cons]

theorem disposed_cons (descriptor : Descriptor) (event : Event) (events : List Event) :
    disposed descriptor (event :: events) =
      disposed descriptor events + if event.disposes? = some descriptor then 1 else 0 := by
  simp [disposed, List.countP_cons]

theorem obtained_append (descriptor : Descriptor) (late early : List Event) :
    obtained descriptor (late ++ early) = obtained descriptor late + obtained descriptor early :=
  List.countP_append

theorem disposed_append (descriptor : Descriptor) (late early : List Event) :
    disposed descriptor (late ++ early) = disposed descriptor late + disposed descriptor early :=
  List.countP_append

theorem parted_cons {id : SocketId} {event : Event} {events : List Event} :
    Parted id (event :: events) ↔ event.parts? = some id ∨ Parted id events := by
  simp [Parted]

theorem Event.parts?_givenUp {id other : SocketId} {descriptor : Descriptor} :
    (Event.socket id (.givenUp descriptor)).parts? = some other ↔
      descriptor ≠ Descriptor.closed ∧ id = other := by
  unfold Event.parts?
  dsimp only
  split <;> simp [*]

theorem Event.uses?_givenUp {id : SocketId} {descriptor other : Descriptor} :
    (Event.socket id (.givenUp descriptor)).uses? = some other ↔
      descriptor ≠ Descriptor.closed ∧ descriptor = other := by
  unfold Event.uses?
  dsimp only
  split <;> simp [*]

theorem Event.idle {event : Event} (h : event.isIdle = true) :
    event.obtains? = none ∧ event.disposes? = none ∧ event.parts? = none ∧ event.uses? = none := by
  cases event with
  | syscall call reply =>
    cases call with
    | poll => exact ⟨rfl, rfl, rfl, rfl⟩
    | _ => cases h
  | socket => cases h
  | _ => exact ⟨rfl, rfl, rfl, rfl⟩

theorem Event.plain {call : Syscall} (h : call.isPlain = true) (reply : Reply) :
    (Event.syscall call reply).obtains? = none ∧ (Event.syscall call reply).disposes? = none := by
  cases call with
  | socket => cases h
  | accept => cases h
  | close => cases h
  | _ => exact ⟨rfl, rfl⟩

theorem Lawful.idle {event : Event} (h : event.isIdle = true) (early : List Event) :
    Lawful early event where
  owned descriptor uses := by
    rw [(Event.idle h).2.2.2] at uses
    cases uses
  prompted descriptor reply is := by
    subst is
    cases h
  once id parts := by
    rw [(Event.idle h).2.2.1] at parts
    cases parts

namespace Machine

variable {ω : Type} {before after machine : Machine ω} {loose : Option Descriptor} {events : List Event}
variable {descriptor : Descriptor} {id : SocketId}

/-- What was obtained and not disposed of is what the sockets have, and a descriptor that is `loose` on its way
to a socket. What is in the journal is lawful, and a socket that parted with its descriptor has none. -/
structure Books (loose : Option Descriptor) (machine : Machine ω) : Prop where
  balanced : ∀ descriptor, descriptor ≠ Descriptor.closed →
    obtained descriptor machine.journal = disposed descriptor machine.journal +
      machine.sockets.count ⟨descriptor⟩ + if loose = some descriptor then 1 else 0
  lawful : Along Lawful machine.journal
  parted : ∀ id, Parted id machine.journal →
    id < machine.sockets.length ∧ machine.socketAt id = Socket.shut

theorem books_new (outside : ω) : Books none { outside } where
  balanced _ _ := rfl
  lawful := trivial
  parted := by simp [Parted]

theorem mem_sockets_of_isOpen (h : (machine.socketAt id).isOpen = true) :
    machine.socketAt id ∈ machine.sockets := by
  rw [socketAt, List.getD_eq_getElem?_getD] at h ⊢
  cases at_ : machine.sockets[id]? with
  | none =>
    rw [at_] at h
    cases h
  | some socket => exact List.mem_of_getElem? at_

namespace Books

/-- One more event, with what it does to the sockets. -/
theorem step (h : Books loose before) {event : Event} {next : Option Descriptor}
    (journal : after.journal = event :: before.journal) (lawful : Lawful before.journal event)
    (balanced : ∀ descriptor, descriptor ≠ Descriptor.closed →
      (if event.obtains? = some descriptor then 1 else 0) +
          (before.sockets.count ⟨descriptor⟩ + if loose = some descriptor then 1 else 0) =
        (if event.disposes? = some descriptor then 1 else 0) +
          (after.sockets.count ⟨descriptor⟩ + if next = some descriptor then 1 else 0))
    (parted : ∀ id, (event.parts? = some id ∨
        id < before.sockets.length ∧ before.socketAt id = Socket.shut) →
      id < after.sockets.length ∧ after.socketAt id = Socket.shut) : Books next after where
  balanced descriptor apart := by
    have old := h.balanced descriptor apart
    have new := balanced descriptor apart
    rw [journal, obtained_cons, disposed_cons]
    omega
  lawful := by
    rw [journal]
    exact ⟨lawful, h.lawful⟩
  parted id parts := by
    rw [journal, parted_cons] at parts
    exact parted id (parts.imp_right (h.parted id))

/-- A descriptor that a socket has is owned. -/
theorem owned (h : Books loose machine) (apart : descriptor ≠ Descriptor.closed)
    (there : ⟨descriptor⟩ ∈ machine.sockets ∨ loose = some descriptor) :
    disposed descriptor machine.journal < obtained descriptor machine.journal := by
  have balanced := h.balanced descriptor apart
  cases there with
  | inl mem =>
    have := List.count_pos_iff.mpr mem
    omega
  | inr loose =>
    rw [if_pos loose] at balanced
    omega

theorem owned_of_isOpen (h : Books loose machine) (isOpen : (machine.socketAt id).isOpen = true) :
    (machine.socketAt id).descriptor ≠ Descriptor.closed ∧
      disposed (machine.socketAt id).descriptor machine.journal <
        obtained (machine.socketAt id).descriptor machine.journal := by
  have apart : (machine.socketAt id).descriptor ≠ Descriptor.closed := by
    simpa [Socket.isOpen] using isOpen
  exact ⟨apart, h.owned apart (.inl (mem_sockets_of_isOpen isOpen))⟩

/-- Events that do not concern descriptors, between machines with the same sockets. -/
theorem idle (h : Books loose before) (quiet : ∀ event ∈ events, event.isIdle = true)
    (journal : after.journal = events ++ before.journal) (sockets : after.sockets = before.sockets) :
    Books loose after := by
  have shut id : after.socketAt id = before.socketAt id := by rw [socketAt, socketAt, sockets]
  induction events generalizing after with
  | nil => exact {
      balanced := by rw [journal, sockets]; exact h.balanced
      lawful := by rw [journal]; exact h.lawful
      parted := fun id parts => by rw [shut, sockets]; exact h.parted id (by simpa [journal] using parts) }
  | cons event events ih =>
    have early : Books loose { before with journal := events ++ before.journal } :=
      ih (fun other mem => quiet other (List.mem_cons_of_mem _ mem)) rfl rfl fun _ => rfl
    have idle := quiet event (List.mem_cons_self ..)
    obtain ⟨obtains, disposes, parts, -⟩ := Event.idle idle
    refine early.step journal (.idle idle _) (fun descriptor _ => ?_) fun id => ?_
    · rw [obtains, disposes, sockets]
    · rw [parts, shut, sockets]
      exact fun shut => shut.resolve_left (by simp)

theorem same (h : Books loose before) (journal : after.journal = before.journal)
    (sockets : after.sockets = before.sockets) : Books loose after :=
  h.idle (List.forall_mem_nil _) journal sockets

theorem one (h : Books loose before) {event : Event} (quiet : event.isIdle = true)
    (journal : after.journal = event :: before.journal) (sockets : after.sockets = before.sockets) :
    Books loose after :=
  h.idle (List.forall_mem_singleton.mpr quiet) journal sockets

/-- A call that closes nothing, on a descriptor that is owned if on any. What it obtains is loose. -/
theorem made (h : Books loose before) {call : Syscall} {reply : Reply} {next : Option Descriptor}
    (gets : ∀ descriptor, (if (Event.syscall call reply).obtains? = some descriptor then 1 else 0) +
        (if loose = some descriptor then 1 else 0) = if next = some descriptor then 1 else 0)
    (disposes : (Event.syscall call reply).disposes? = none)
    (owned : ∀ on, call.descriptor? = some on → on ≠ Descriptor.closed ∧ ⟨on⟩ ∈ before.sockets)
    (journal : after.journal = .syscall call reply :: before.journal)
    (sockets : after.sockets = before.sockets) : Books next after := by
  refine h.step journal { owned := ?_, prompted := ?_, once := by simp [Event.parts?] } (fun other _ => ?_)
    fun id shut => ?_
  · intro on acts
    obtain ⟨apart, there⟩ := owned on acts
    exact ⟨apart, h.owned apart (.inl there)⟩
  · rintro other _ ⟨⟩
    cases disposes
  · rw [disposes, sockets, ← gets other]
    simp [Nat.add_left_comm]
  · rw [socketAt, sockets]
    exact shut.resolve_left (by simp [Event.parts?])

theorem call (h : Books loose before) {call : Syscall} {reply : Reply}
    (obtains : (Event.syscall call reply).obtains? = none)
    (disposes : (Event.syscall call reply).disposes? = none)
    (owned : ∀ on, call.descriptor? = some on → on ≠ Descriptor.closed ∧ ⟨on⟩ ∈ before.sockets)
    (journal : after.journal = .syscall call reply :: before.journal)
    (sockets : after.sockets = before.sockets) : Books loose after :=
  h.made (by simp [obtains]) disposes owned journal sockets

theorem obtain (h : Books none before) {call : Syscall} {reply : Reply}
    (obtains : (Event.syscall call reply).obtains? = some descriptor)
    (owned : ∀ on, call.descriptor? = some on → on ≠ Descriptor.closed ∧ ⟨on⟩ ∈ before.sockets)
    (journal : after.journal = .syscall call reply :: before.journal)
    (sockets : after.sockets = before.sockets) : Books (some descriptor) after := by
  refine h.made (by simp [obtains]) ?_ owned journal sockets
  cases call with
  | close => cases obtains
  | _ => rfl

/-- A descriptor that the program hands over. -/
theorem adopt (h : Books none machine) (id : SocketId) (descriptor : Descriptor) :
    Books (some descriptor) (machine.note (.socket id (.adopted descriptor))) := by
  refine h.step rfl { owned := fun _ => nofun, prompted := nofun, once := fun _ => nofun }
    (fun other _ => ?_) fun id shut => shut.resolve_left nofun
  simp [Event.obtains?, Event.disposes?, Nat.add_comm, Machine.note]

/-- A loose descriptor finds its socket. -/
theorem add (h : Books (some descriptor) machine) :
    Books none { machine with sockets := machine.sockets ++ [⟨descriptor⟩] } where
  balanced other apart := by
    rw [h.balanced other apart, List.count_append, List.count_singleton]
    simp [Nat.add_assoc]
  lawful := h.lawful
  parted id parts := by
    obtain ⟨known, shut⟩ := h.parted id parts
    refine ⟨(List.length_append ..).symm ▸ Nat.lt_add_right _ known, ?_⟩
    rw [← shut]
    simp [socketAt, List.getD_eq_getElem?_getD, List.getElem?_append_left known]

/-- The descriptor of a connection without a readable address is closed again. -/
theorem closeLoose (h : Books (some descriptor) before) {reply : Reply}
    (apart : descriptor ≠ Descriptor.closed) (prompts : Prompts descriptor before.journal)
    (journal : after.journal = .syscall (.close descriptor) reply :: before.journal)
    (sockets : after.sockets = before.sockets) : Books none after := by
  refine h.step journal { owned := ?_, prompted := ?_, once := fun id parts => nomatch parts }
    (fun other _ => ?_) fun id shut => ?_
  · rintro other ⟨⟩
    exact ⟨apart, h.owned apart (.inr rfl)⟩
  · rintro _ _ ⟨⟩
    exact prompts
  · rw [sockets]
    simp [Event.obtains?, Event.disposes?, Nat.add_comm]
  · rw [socketAt, sockets]
    exact shut.resolve_left nofun

/-- A socket without its descriptor. -/
theorem count_shut (machine : Machine ω) (known : id < machine.sockets.length)
    (apart : descriptor ≠ Descriptor.closed) :
    (machine.setSocket id Socket.shut).sockets.count ⟨descriptor⟩ +
        (if (machine.socketAt id).descriptor = descriptor then 1 else 0) =
      machine.sockets.count ⟨descriptor⟩ := by
  have here : machine.socketAt id = machine.sockets[id] := by
    simp [socketAt, List.getD_eq_getElem?_getD, known]
  have other : (Socket.shut == (⟨descriptor⟩ : Socket)) = false := by
    simpa [Socket.shut] using apart.symm
  rw [setSocket, List.count_set known, other, here]
  by_cases own : machine.sockets[id].descriptor = descriptor
  · have same : machine.sockets[id] = ⟨descriptor⟩ := by rw [← own]
    have some : 0 < machine.sockets.count ⟨descriptor⟩ :=
      List.count_pos_iff.mpr (same ▸ List.getElem_mem known)
    simp [same]
    omega
  · have differs : machine.sockets[id] ≠ ⟨descriptor⟩ := fun same => own (by rw [same])
    simp [own, differs]

/-- A socket that parts with its descriptor has none afterwards. -/
theorem parted_shut (h : Books loose before) (journal : before.journal = events)
    (known : id < before.sockets.length) (sockets : after.sockets = (before.setSocket id Socket.shut).sockets)
    {other : SocketId} (parts : other = id ∨ Parted other events) :
    other < after.sockets.length ∧ after.socketAt other = Socket.shut := by
  have at_ : after.socketAt other = (before.setSocket id Socket.shut).socketAt other := by
    rw [socketAt, sockets]
    rfl
  rw [at_, sockets, socketAt_setSocket]
  obtain rfl | early := parts
  · exact ⟨by simpa [setSocket] using known, if_pos ⟨rfl, known⟩⟩
  · obtain ⟨there, shut⟩ := h.parted other (journal ▸ early)
    exact ⟨by simpa [setSocket] using there, by rw [shut, ite_self]⟩

/-- An open socket is closed: first it is put down why, then the call is made. -/
theorem close (h : Books loose before) {asked kept : Bool} {reply : Reply}
    (isOpen : (before.socketAt id).isOpen = true) (known : id < before.sockets.length)
    (right : asked = true ∨ kept = false)
    (journal : after.journal = .syscall (.close (before.socketAt id).descriptor) reply ::
      .socket id (.closing (before.socketAt id).descriptor asked kept) :: before.journal)
    (sockets : after.sockets = (before.setSocket id Socket.shut).sockets) : Books loose after := by
  obtain ⟨apart, owned⟩ := h.owned_of_isOpen isOpen
  have fresh : ¬ Parted id before.journal := fun parted => by
    rw [(h.parted id parted).2] at isOpen
    cases isOpen
  constructor
  case balanced =>
    intro descriptor apart
    have old := h.balanced descriptor apart
    have fewer := count_shut before known apart
    rw [journal, obtained_cons, obtained_cons, disposed_cons, disposed_cons, sockets]
    simp only [Event.obtains?, Event.disposes?, reduceCtorEq, if_false, Option.some.injEq]
    omega
  case lawful =>
    rw [journal]
    refine ⟨{ owned := ?_, prompted := ?_, once := nofun },
      { owned := fun _ => nofun, prompted := nofun, once := ?_ }, h.lawful⟩
    · rintro other ⟨⟩
      rw [obtained_cons, disposed_cons]
      simpa [Event.obtains?, Event.disposes?] using ⟨apart, owned⟩
    · rintro other _ ⟨⟩
      exact ⟨rfl, right⟩
    · rintro other ⟨⟩
      exact fresh
  case parted =>
    intro other parts
    rw [journal, parted_cons, parted_cons] at parts
    refine h.parted_shut rfl known sockets ?_
    obtain none | own | early := parts
    · cases none
    · exact .inl (Option.some.inj own).symm
    · exact .inr early

/-- A socket gives its descriptor back to the program. -/
theorem giveUp (h : Books loose before) (known : id < before.sockets.length)
    (journal : after.journal = .socket id (.givenUp (before.socketAt id).descriptor) :: before.journal)
    (sockets : after.sockets = (before.setSocket id Socket.shut).sockets) : Books loose after := by
  constructor
  case balanced =>
    intro descriptor apart
    have old := h.balanced descriptor apart
    have fewer := count_shut before known apart
    rw [journal, obtained_cons, disposed_cons, sockets]
    simp only [Event.obtains?, Event.disposes?, reduceCtorEq, if_false, Option.some.injEq]
    omega
  case lawful =>
    rw [journal]
    refine ⟨{ owned := fun descriptor uses => ?_, prompted := nofun, once := fun other parts parted => ?_ },
      h.lawful⟩
    · obtain ⟨apart, rfl⟩ := Event.uses?_givenUp.mp uses
      exact h.owned_of_isOpen (by simpa [Socket.isOpen] using apart)
    · obtain ⟨apart, rfl⟩ := Event.parts?_givenUp.mp parts
      rw [(h.parted id parted).2] at apart
      exact apart rfl
  case parted =>
    intro other parts
    rw [journal, parted_cons, Event.parts?_givenUp] at parts
    exact h.parted_shut rfl known sockets (parts.imp_left fun own => own.2.symm)

end Books
end Machine
end NetReactor
