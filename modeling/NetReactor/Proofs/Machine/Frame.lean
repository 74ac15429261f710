import NetReactor.Machine.Perform
/-!
Steps that no event loop notices: they call out of the library, close sockets, move handles, use buffers. What such a
step leaves alone is said once, in `Quiet`; nothing is assumed about the kernel, the providers or the wires.
-/
namespace NetReactor

def Callback.uncounted (callback : Callback) : Callback := { callback with calls := 0, accepted := 0 }

/-- Calls that left the library, the ends of actions and changes of sockets, but nothing about event loops or
callbacks. -/
def Event.isOutward : Event → Bool
  | .syscall .. | .provider .. | .wire .. | .answered .. | .socket .. => true
  | .callback .. | .loop .. => false

def Event.isPoll : Event → Bool
  | .syscall (.poll ..) _ => true
  | _ => false

def SocketEvent.shuts : SocketEvent → Bool
  | .adopted _ => false
  | .givenUp _ | .closing .. => true

def Shuts (id : SocketId) (events : List Event) : Prop :=
  ∃ event : SocketEvent, event.shuts = true ∧ Event.socket id event ∈ events

theorem Shuts.mono {id : SocketId} {few many : List Event} (h : Shuts id few) (hs : few ⊆ many) :
    Shuts id many := by
  obtain ⟨event, shuts, mem⟩ := h
  exact ⟨event, shuts, hs mem⟩

theorem Socket.eq_shut {socket : Socket} (h : socket.isOpen = false) : socket = Socket.shut := by
  obtain ⟨descriptor⟩ := socket
  have closed : descriptor = Descriptor.closed := by simpa [Socket.isOpen] using h
  rw [closed]
  rfl

namespace Machine

variable {ω α β : Type}

def view? (machine : Machine ω) (id : CallbackId) : Option Callback :=
  (machine.callback? id).map Callback.uncounted

def entries (machine : Machine ω) (loop : LoopId) : List Registration :=
  (machine.loopAt loop).registry.entries

/-- Nothing that concerns event loops or callbacks changed, nothing was waited for, and sockets were at most
opened, or closed as the events tell. The events are the new ones, the latest first. -/
structure Quiet (events : List Event) (before after : Machine ω) : Prop where
  journal : after.journal = events ++ before.journal
  outward : ∀ event ∈ events, event.isOutward = true
  unpolled : ∀ event ∈ events, event.isPoll = false
  executing : after.executing = before.executing
  snapshots : after.snapshots = before.snapshots
  loops : after.loops.length = before.loops.length
  registry : ∀ loop, (after.loopAt loop).registry = (before.loopAt loop).registry
  running : ∀ loop, (after.loopAt loop).running = (before.loopAt loop).running
  callbacks : ∀ id, after.view? id = before.view? id
  sockets : before.sockets.length ≤ after.sockets.length
  socket : ∀ id, id < before.sockets.length →
    after.socketAt id = before.socketAt id ∨ after.socketAt id = Socket.shut ∧ Shuts id events

namespace Quiet

theorem refl (machine : Machine ω) : Quiet [] machine machine where
  journal := rfl
  outward := by simp
  unpolled := by simp
  executing := rfl
  snapshots := rfl
  loops := rfl
  registry _ := rfl
  running _ := rfl
  callbacks _ := rfl
  sockets := Nat.le_refl _
  socket _ _ := .inl rfl

theorem trans {early late : List Event} {first middle last : Machine ω}
    (h : Quiet early first middle) (h' : Quiet late middle last) :
    Quiet (late ++ early) first last where
  journal := by rw [h'.journal, h.journal, List.append_assoc]
  outward event mem := (List.mem_append.mp mem).elim (h'.outward event) (h.outward event)
  unpolled event mem := (List.mem_append.mp mem).elim (h'.unpolled event) (h.unpolled event)
  executing := h'.executing.trans h.executing
  snapshots := h'.snapshots.trans h.snapshots
  loops := h'.loops.trans h.loops
  registry loop := (h'.registry loop).trans (h.registry loop)
  running loop := (h'.running loop).trans (h.running loop)
  callbacks id := (h'.callbacks id).trans (h.callbacks id)
  sockets := Nat.le_trans h.sockets h'.sockets
  socket id hid := by
    obtain same | ⟨shut, shuts⟩ := h'.socket id (by have := h.sockets; omega)
    · rw [same]
      exact (h.socket id hid).imp_right (And.imp_right fun shuts => shuts.mono (List.subset_append_right _ _))
    · exact .inr ⟨shut, shuts.mono (List.subset_append_left _ _)⟩

/-- A change that touches none of the parts that matter. -/
theorem of_same {before after : Machine ω} (hj : after.journal = before.journal)
    (he : after.executing = before.executing) (hn : after.snapshots = before.snapshots)
    (hl : after.loops = before.loops) (hc : after.callbacks = before.callbacks)
    (hs : after.sockets = before.sockets) : Quiet [] before after where
  journal := hj
  outward := by simp
  unpolled := by simp
  executing := he
  snapshots := hn
  loops := by rw [hl]
  registry loop := by simp only [loopAt, hl]
  running loop := by simp only [loopAt, hl]
  callbacks id := by simp only [view?, callback?, hc]
  sockets := Nat.le_of_eq (by rw [hs])
  socket id _ := .inl (by simp only [socketAt, hs])

theorem note (machine : Machine ω) {event : Event} (h : event.isOutward = true)
    (hp : event.isPoll = false) : Quiet [event] machine (machine.note event) where
  journal := rfl
  outward := by simpa using h
  unpolled := by simpa using hp
  executing := rfl
  snapshots := rfl
  loops := rfl
  registry _ := rfl
  running _ := rfl
  callbacks _ := rfl
  sockets := Nat.le_refl _
  socket _ _ := .inl rfl

/-- The cycles that are running do not matter to a quiet step. -/
theorem withSnapshots {events : List Event} {before after : Machine ω} (h : Quiet events before after)
    (snapshots : List (List CallbackId)) :
    Quiet events { before with snapshots } { after with snapshots } :=
  { h with snapshots := rfl }

end Quiet

theorem socketAt_of_length_le {machine : Machine ω} {id : SocketId}
    (h : machine.sockets.length ≤ id) : machine.socketAt id = Socket.shut := by
  simp [socketAt, List.getD_eq_getElem?_getD, List.getElem?_eq_none h]

theorem quiet_addSocket (socket : Socket) (machine : Machine ω) :
    Quiet [] machine (addSocket socket machine).2 :=
  { Quiet.refl machine with
    sockets := by simp [addSocket]
    socket := fun id hid => .inl (by
      simp [addSocket, socketAt, List.getD_eq_getElem?_getD, List.getElem?_append_left hid]) }

theorem socketAt_setSocket (machine : Machine ω) (id other : SocketId) (socket : Socket) :
    (machine.setSocket id socket).socketAt other =
      if id = other ∧ id < machine.sockets.length then socket else machine.socketAt other := by
  by_cases h : id = other
  · subst h
    by_cases hl : id < machine.sockets.length <;>
      simp [setSocket, socketAt, List.getD_eq_getElem?_getD, hl]
  · simp [setSocket, socketAt, List.getD_eq_getElem?_getD, h]

/-- A socket that lost its descriptor has none. -/
theorem Quiet.shutting {events : List Event} {before after : Machine ω} (h : Quiet events before after)
    {id : SocketId} (shut : Shuts id events ∨ before.socketAt id = Socket.shut) :
    Quiet events before (after.setSocket id Socket.shut) :=
  { h with
    sockets := by simpa [setSocket] using h.sockets
    socket := fun other known => by
      rw [socketAt_setSocket]
      split
      · next here =>
        obtain ⟨rfl, -⟩ := here
        obtain shuts | shut := shut
        · exact .inr ⟨rfl, shuts⟩
        · exact .inl shut.symm
      · exact h.socket other known }

theorem quiet_updateCallback (machine : Machine ω) (id : CallbackId) {change : Callback → Callback}
    (h : ∀ callback, (change callback).uncounted = callback.uncounted) :
    Quiet [] machine (machine.updateCallback id change) :=
  { Quiet.refl machine with
    callbacks := fun other => by
      simp only [view?, callback?, updateCallback, List.getElem?_modify]
      cases machine.callbacks[other]? with
      | none => rfl
      | some callback => split <;> simp [h] }

end Machine
end NetReactor
