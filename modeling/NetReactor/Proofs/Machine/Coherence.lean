import NetReactor.Proofs.Machine.Growth
/-!
The invariant of every machine that a program brings about: each registration leads to a callback that was
not spent and to the socket it waits for, and no callback is registered twice. It needs nothing of the
program or of the kernel.
-/
namespace NetReactor.Machine

variable {ω : Type} {events : List Event} {before after machine : Machine ω}
variable {loop : LoopId} {registration : Registration}

def Awaits (machine : Machine ω) (operation : Operation) (descriptor : Descriptor) : Prop :=
  ∀ socket, operation.socket? = some socket → socket < machine.sockets.length ∧
    (machine.socketAt socket = Socket.shut ∨ (machine.socketAt socket).descriptor = descriptor)

structure Coherent (machine : Machine ω) : Prop where
  known : ∀ loop, ∀ registration ∈ machine.entries loop, ∃ seen,
    machine.view? registration.callback = some seen ∧ seen.once = registration.once ∧
      seen.spent = false ∧ machine.Awaits seen.operation registration.descriptor
  distinct : ∀ loop other, ∀ registration ∈ machine.entries loop, ∀ old ∈ machine.entries other,
    old.callback = registration.callback → other = loop ∧ old = registration
  executing : ∀ id ∈ machine.executing, id < machine.callbacks.length

/-- A program starts with nothing. -/
theorem coherent_new (outside : ω) : Coherent { outside } where
  known _ _ mem := nomatch mem
  distinct _ _ _ mem := nomatch mem
  executing _ mem := nomatch mem

theorem Awaits.grows {operation : Operation} {descriptor : Descriptor}
    (h : before.Awaits operation descriptor) (grows : Grows before after) :
    after.Awaits operation descriptor := by
  intro socket hs
  obtain ⟨known, state⟩ := h socket hs
  refine ⟨Nat.lt_of_lt_of_le known grows.sockets, ?_⟩
  cases grows.socket socket known with
  | inl same => rw [same]; exact state
  | inr shut => exact .inl shut

/-- The socket keeps its descriptor while it is open. -/
theorem Awaits.descriptor_eq {operation : Operation} {descriptor : Descriptor} {socket : SocketId}
    (h : machine.Awaits operation descriptor) (needs : operation.socket? = some socket)
    (isOpen : (machine.socketAt socket).isOpen = true) : (machine.socketAt socket).descriptor = descriptor := by
  obtain shut | same := (h socket needs).2
  · rw [shut] at isOpen
    cases isOpen
  · exact same

theorem lt_of_isOpen {id : SocketId} (h : (machine.socketAt id).isOpen = true) :
    id < machine.sockets.length := by
  apply Nat.lt_of_not_le
  intro le
  rw [socketAt_of_length_le le] at h
  cases h

theorem Fits.awaits {operation : Operation} {descriptor : Descriptor}
    (h : machine.Fits operation descriptor) : machine.Awaits operation descriptor :=
  fun socket hs => ⟨lt_of_isOpen (h socket hs).1, .inr (h socket hs).2⟩

namespace Coherent

/-- Coherence holds on as long as no registration is made and none leads to a callback that is spent. -/
theorem of_grows (h : Coherent before) (grows : Grows before after)
    (he : ∀ loop, ∀ registration ∈ after.entries loop, registration ∈ before.entries loop)
    (hv : ∀ loop, ∀ registration ∈ after.entries loop, ∀ seen,
      before.view? registration.callback = some seen → seen.spent = false →
      after.view? registration.callback = some seen)
    (hx : ∀ id ∈ after.executing, id < after.callbacks.length) : Coherent after where
  known loop registration mem := by
    obtain ⟨seen, view, once, fresh, awaits⟩ := h.known loop registration (he loop _ mem)
    exact ⟨seen, hv loop registration mem seen view fresh, once, fresh, awaits.grows grows⟩
  distinct loop other registration mem old mem' :=
    h.distinct loop other registration (he loop _ mem) old (he other _ mem')
  executing := hx

theorem enrolled {callback : Callback} {descriptor : Descriptor} (h : Coherent machine)
    (loop : LoopId) (interest : Interest) (fresh : callback.spent = false)
    (fits : machine.Fits callback.operation descriptor) :
    Coherent (machine.enrolled loop descriptor interest callback) := by
  have grows : Grows machine (machine.enrolled loop descriptor interest callback) :=
    (grows_withCallback _ _).trans (grows_updateRegistry _ _ _ _)
  have number : ∀ other, ∀ old ∈ machine.entries other,
      old.callback ≠ machine.callbacks.length := by
    intro other old mem
    obtain ⟨seen, view, -⟩ := h.known other old mem
    exact Nat.ne_of_lt (lt_of_view? view)
  constructor
  case known =>
    intro other old mem
    obtain mem | ⟨rfl, rfl⟩ := mem_entries_enrolled mem
    · obtain ⟨seen, view, once, unspent, awaits⟩ := h.known other old mem
      refine ⟨seen, ?_, once, unspent, awaits.grows grows⟩
      rw [view?_enrolled, view?_withCallback, if_neg (number other old mem), view]
    · refine ⟨callback.uncounted, ?_, rfl, fresh, fits.awaits.grows grows⟩
      rw [view?_enrolled, view?_withCallback]
      exact if_pos rfl
  case distinct =>
    intro one other new mem old mem' same
    obtain mem | ⟨rfl, rfl⟩ := mem_entries_enrolled mem <;>
      obtain mem' | ⟨rfl, rfl⟩ := mem_entries_enrolled mem'
    · exact h.distinct one other new mem old mem' same
    · exact absurd same.symm (number one new mem)
    · exact absurd same (number other old mem')
    · exact ⟨rfl, rfl⟩
  case executing =>
    intro id mem
    exact Nat.lt_of_lt_of_le (h.executing id mem) grows.callbacks

theorem change (h : Coherent before) (change : Change events before after) : Coherent after := by
  have grows := change.grows
  have same (hx : after.executing = before.executing) : ∀ id ∈ after.executing,
      id < after.callbacks.length := by
    intro id mem
    rw [hx] at mem
    exact Nat.lt_of_lt_of_le (h.executing id mem) grows.callbacks
  cases change with
  | quiet quiet =>
    refine h.of_grows grows (fun loop registration mem => ?_) (fun _ _ _ seen view _ => ?_)
      (same quiet.executing)
    · rw [entries, quiet.registry] at mem
      exact mem
    · rw [quiet.callbacks, view]
  | addLoop =>
    refine h.of_grows grows (fun loop registration mem => ?_) (fun _ _ _ _ view _ => view) (same rfl)
    rwa [entries, registry_withLoop] at mem
  | register loop _ interest fresh fits _ => exact h.enrolled loop interest fresh fits
  | remove =>
    exact h.of_grows grows (fun _ _ => mem_entries_remove) (fun _ _ _ _ view _ => view) (same rfl)
  | withdraw =>
    exact h.of_grows grows (fun _ _ => mem_entries_remove) (fun _ _ _ _ view _ => view) (same rfl)
  | retire =>
    exact h.of_grows grows (fun _ _ => mem_entries_retiring)
      (fun _ _ _ _ view _ => (view?_retiring ..).trans view) (same (executing_retiring _ _ _))
  | create =>
    refine h.of_grows grows (fun _ _ mem => mem) (fun _ _ _ _ view _ => ?_) (same rfl)
    rw [view?_withCallback, if_neg (Nat.ne_of_lt (lt_of_view? view)), view]
  | tell =>
    exact h.of_grows grows (fun _ _ mem => mem)
      (fun _ _ _ _ view _ => (view?_told ..).trans view) (same rfl)
  | @start _ id callback known gone =>
    refine h.of_grows grows (fun _ _ mem => mem) (fun loop registration mem seen view fresh => ?_)
      (fun other mem => ?_)
    · rw [view?_started, view]
      by_cases hid : id = registration.callback
      · -- A callback that is registered is not for a single dispatch, so that running it spends nothing.
        have again : callback.once = false :=
          Bool.eq_false_iff.mpr fun once => gone once loop registration mem hid.symm
        have seenAs := view?_of_callback? known
        rw [hid, view] at seenAs
        cases seenAs
        rw [if_pos hid]
        simp only [Option.map_some, Callback.run, Callback.uncounted] at fresh ⊢
        rw [again, fresh]
      · rw [if_neg hid]
    · cases List.mem_cons.mp mem with
      | inl here =>
        rw [here, length_started]
        exact lt_of_view? (view?_of_callback? known)
      | inr there => exact Nat.lt_of_lt_of_le (h.executing other there) grows.callbacks
  | finish =>
    exact h.of_grows grows (fun _ _ mem => mem) (fun _ _ _ _ view _ => view)
      fun id mem => h.executing id (List.mem_of_mem_erase mem)
  | setRunning =>
    refine h.of_grows grows (fun loop registration mem => ?_) (fun _ _ _ _ view _ => view) (same rfl)
    rwa [entries_setRunning] at mem
  | _ => exact h.of_grows grows (fun _ _ mem => mem) (fun _ _ _ _ view _ => view) (same rfl)

theorem changes (h : Coherent before) (changes : Changes events before after) : Coherent after := by
  induction changes with
  | refl => exact h
  | step _ change ih => exact (ih h).change change

/-- The registrations of a loop have different callbacks. -/
theorem nodup_callbacks (h : Coherent machine) (loop : LoopId) :
    ((machine.entries loop).map (·.callback)).Nodup := by
  refine List.Nodup.map_on (fun one mem other mem' same => ?_)
    (List.Nodup.of_map _ (machine.loopAt loop).registry.distinct)
  exact (h.distinct loop loop other mem' one mem same).2

end Coherent

structure Found (machine : Machine ω) (loop : LoopId) (registration : Registration) : Prop where
  known : ∃ seen, machine.view? registration.callback = some seen ∧ seen.once = registration.once
  only : ∀ other, ∀ old ∈ machine.entries other, old.callback = registration.callback →
    other = loop ∧ old = registration

theorem Coherent.found (h : Coherent machine) (mem : registration ∈ machine.entries loop) :
    machine.Found loop registration where
  known := by
    obtain ⟨seen, view, once, -⟩ := h.known loop registration mem
    exact ⟨seen, view, once⟩
  only other old mem' same := h.distinct loop other registration mem old mem' same

/-- Later registrations have other callbacks. -/
theorem Found.changes (h : before.Found loop registration) (changes : Changes events before after) :
    after.Found loop registration := by
  obtain ⟨seen, view, once⟩ := h.known
  constructor
  case known =>
    cases changes.grows.callback _ seen view with
    | inl same => exact ⟨seen, same, once⟩
    | inr run => exact ⟨seen.run, run, once⟩
  case only =>
    intro other old mem same
    cases changes.entries mem with
    | inl early => exact h.only other old early same
    | inr fresh =>
      have new := (changes.registered fresh).1
      rw [same] at new
      exact absurd (lt_of_view? view) (Nat.not_lt_of_le new)

theorem Found.gone (h : machine.Found loop registration) (once : registration.once = true) :
    (machine.retiring loop registration).Gone registration.callback := by
  intro other old mem same
  obtain ⟨rfl, rfl⟩ := h.only other old (mem_entries_retiring mem) same
  exact not_mem_entries_retiring machine _ once mem

end NetReactor.Machine
