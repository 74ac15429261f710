import NetReactor.Proofs.Machine.Coherence
/-!
The journal tells the registrations of every loop: replaying its events gives what is registered. Where a
registration of a background operation comes from is told by the callback that was made for it.
-/
namespace NetReactor

def Registry.replay (registry : Registry) : LoopEvent → Registry
  | .created => Registry.empty
  | .registered fresh => registry.insert fresh
  | .removed descriptor | .withdrawn descriptor _ => registry.remove descriptor
  | .retired descriptor callback => registry.retire descriptor callback
  | .dispatched .. | .finished .. | .stopped => registry

def LoopEvent.spares (registration : Registration) : LoopEvent → Prop
  | .created => False
  | .registered fresh => fresh.descriptor ≠ registration.descriptor
  | .removed descriptor | .withdrawn descriptor _ => descriptor ≠ registration.descriptor
  | .retired _ callback => callback ≠ registration.callback
  | .dispatched .. | .finished .. | .stopped => True

theorem Registry.mem_replay {registry : Registry} {registration : Registration} {event : LoopEvent}
    (mem : registration ∈ registry.entries) (h : event.spares registration) :
    registration ∈ (registry.replay event).entries := by
  cases event with
  | created => exact h.elim
  | registered fresh => exact mem_insert_of_ne mem h.symm
  | removed descriptor => exact mem_remove.mpr ⟨mem, h.symm⟩
  | withdrawn descriptor id => exact mem_remove.mpr ⟨mem, h.symm⟩
  | retired descriptor id => exact mem_retire_of_ne mem h.symm
  | _ => exact mem

theorem Registry.mem_of_mem_replay {registry : Registry} {registration : Registration}
    {event : LoopEvent} (mem : registration ∈ (registry.replay event).entries) :
    registration ∈ registry.entries ∨ event = .registered registration := by
  cases event with
  | created => cases mem
  | registered fresh =>
    cases mem_insert mem with
    | inl same => exact .inr (by rw [same])
    | inr old => exact .inl old
  | removed descriptor => exact .inl (mem_remove.mp mem).1
  | withdrawn descriptor id => exact .inl (mem_remove.mp mem).1
  | retired descriptor id => exact .inl (mem_of_mem_retire mem)
  | _ => exact .inl mem

namespace Machine

variable {ω : Type} {before after machine : Machine ω} {loop : LoopId} {registration : Registration}
variable {events early late : List Event} {registry : Registry}

def replayed (loop : LoopId) : List Event → Registry → Registry
  | [], registry => registry
  | .loop other event :: events, registry =>
    if other = loop then (replayed loop events registry).replay event
    else replayed loop events registry
  | .syscall .. :: events, registry | .provider .. :: events, registry
  | .wire .. :: events, registry | .callback .. :: events, registry
  | .answered .. :: events, registry | .socket .. :: events, registry => replayed loop events registry

theorem replayed_append : replayed loop (late ++ early) registry =
    replayed loop late (replayed loop early registry) := by
  induction late with
  | nil => rfl
  | cons event late ih => cases event <;> simp [replayed, ih]

theorem replayed_outward (h : ∀ event ∈ events, event.isOutward = true) :
    replayed loop events registry = registry := by
  induction events with
  | nil => rfl
  | cons event events ih =>
    have rest := ih fun other mem => h other (List.mem_cons_of_mem _ mem)
    cases event with
    | loop other event => cases h _ (List.mem_cons_self ..)
    | _ => exact rest

theorem mem_replayed (mem : registration ∈ registry.entries)
    (h : ∀ event, .loop loop event ∈ events → event.spares registration) :
    registration ∈ (replayed loop events registry).entries := by
  induction events with
  | nil => exact mem
  | cons event events ih =>
    have rest := ih fun other mem' => h other (List.mem_cons_of_mem _ mem')
    cases event with
    | loop other event =>
      rw [replayed]
      split
      · next here =>
        subst here
        exact Registry.mem_replay rest (h event (List.mem_cons_self ..))
      · exact rest
    | _ => exact rest

theorem mem_of_mem_replayed (mem : registration ∈ (replayed loop events registry).entries) :
    registration ∈ registry.entries ∨ .loop loop (.registered registration) ∈ events := by
  induction events with
  | nil => exact .inl mem
  | cons event events ih =>
    have rest (mem : registration ∈ (replayed loop events registry).entries) :
        registration ∈ registry.entries ∨ .loop loop (.registered registration) ∈ event :: events :=
      (ih mem).imp_right fun mem => List.mem_cons_of_mem _ mem
    cases event with
    | loop other event =>
      rw [replayed] at mem
      split at mem
      · next here =>
        subst here
        cases Registry.mem_of_mem_replay mem with
        | inl old => exact rest old
        | inr same => exact .inr (by rw [same]; exact List.mem_cons_self ..)
      · exact rest mem
    | _ => exact rest mem

theorem registry_replay (machine : Machine ω) (known : loop < machine.loops.length) {other : LoopId}
    {event : LoopEvent} {change : Registry → Registry}
    (same : ∀ registry : Registry, registry.replay event = change registry) :
    ((machine.updateRegistry other event change).loopAt loop).registry =
      replayed loop [.loop other event] (machine.loopAt loop).registry := by
  rw [registry_updateRegistry, replayed, replayed, same]
  by_cases here : other = loop
  · rw [if_pos ⟨here, here ▸ known⟩, if_pos here]
  · rw [if_neg fun both => here both.1, if_neg here]

theorem Change.registry_eq (h : Change events before after) (known : loop < before.loops.length) :
    (after.loopAt loop).registry = replayed loop events (before.loopAt loop).registry := by
  cases h with
  | quiet h => rw [h.registry, replayed_outward h.outward]
  | addLoop =>
    rw [registry_withLoop, replayed, if_neg (Nat.ne_of_gt known)]
    rfl
  | register => exact registry_replay (before.withCallback _) known fun _ => rfl
  | remove => exact registry_replay before known fun _ => rfl
  | withdraw => exact registry_replay before known fun _ => rfl
  | retire =>
    unfold retiring retirement
    split
    · exact registry_replay before known fun _ => rfl
    · rfl
  | setRunning =>
    rw [Machine.setRunning, loopAt_updateLoop]
    split <;> rfl
  | dispatched other => simp [replayed, Registry.replay, Machine.note, loopAt]
  | finished other => simp [replayed, Registry.replay, Machine.note, loopAt]
  | stopped other => simp [replayed, Registry.replay, Machine.note, loopAt]
  | _ => rfl

/-- What is registered after some changes is what their events say. -/
theorem Changes.registry_eq (h : Changes events before after) (known : loop < before.loops.length) :
    (after.loopAt loop).registry = replayed loop events (before.loopAt loop).registry := by
  induction h with
  | refl => rfl
  | step h change ih =>
    rw [change.registry_eq (Nat.lt_of_lt_of_le known h.grows.loops), ih known, replayed_append]

/-- A loop that begins is a new one. -/
theorem Changes.created (h : Changes events before after) (mem : .loop loop .created ∈ events) :
    before.loops.length ≤ loop := by
  induction h with
  | refl => cases mem
  | step h change ih =>
    cases List.mem_append.mp mem with
    | inr early => exact ih early
    | inl late =>
      cases change with
      | quiet quiet => exact absurd late (quiet.no_loop _)
      | addLoop =>
        cases List.mem_singleton.mp late
        exact h.grows.loops
      | _ => simp at late

/-- Each event, the latest first, is as a law says, given the events before it. -/
def Along (law : List Event → Event → Prop) : List Event → Prop
  | [] => True
  | event :: early => law early event ∧ Along law early

instance decidableAlong {law : List Event → Event → Prop} [∀ early event, Decidable (law early event)] :
    (events : List Event) → Decidable (Along law events)
  | [] => .isTrue trivial
  | _ :: early =>
    have : Decidable (Along law early) := decidableAlong early
    inferInstanceAs (Decidable (_ ∧ _))

theorem along_append {law : List Event → Event → Prop} : Along law (late ++ early) ↔
    Along (fun before event => law (before ++ early) event) late ∧ Along law early := by
  induction late with
  | nil => simp [Along]
  | cons event late ih => simp only [List.cons_append, Along, ih, and_assoc]

theorem Along.at_split {law : List Event → Event → Prop} {event : Event}
    (h : Along law (late ++ event :: early)) : law early event :=
  (along_append.mp h).2.1

theorem along_of_split {law : List Event → Event → Prop}
    (h : ∀ late event early, events = late ++ event :: early → law early event) : Along law events := by
  induction events with
  | nil => trivial
  | cons event events ih =>
    refine ⟨h [] event events rfl, ih fun late other early split => ?_⟩
    exact h (event :: late) other early (by rw [split]; rfl)

theorem along_of_forall {law : List Event → Event → Prop}
    (h : ∀ event ∈ events, ∀ before, law before event) : Along law events :=
  along_of_split fun late event early split => h event (by simp [split]) early

theorem Along.imp {law law' : List Event → Event → Prop} (h : Along law events)
    (weaker : ∀ early event, law early event → law' early event) : Along law' events :=
  along_of_split fun _ event early split => weaker early event (split ▸ h).at_split

def Tracked (machine : Machine ω) : Prop :=
  ∀ loop, loop < machine.loops.length →
    (machine.loopAt loop).registry = replayed loop machine.journal Registry.empty

theorem tracked_new (outside : ω) : Tracked { outside } := fun _ known => nomatch known

theorem Change.loops (h : Change events before after) :
    after.loops.length = before.loops.length ∨
      ∃ settings, events = [.loop before.loops.length .created] ∧ after = before.withLoop settings := by
  cases h with
  | quiet h => exact .inl h.loops
  | addLoop _ settings => exact .inr ⟨settings, rfl, rfl⟩
  | retire =>
    unfold retiring
    split
    · exact .inl (by simp [updateRegistry, updateLoop, note])
    · exact .inl rfl
  | _ => exact .inl (by
      simp [enrolled, withCallback, updateRegistry, updateLoop, note, told, updateCallback, started,
        Machine.ended, Machine.setRunning])

/-- A loop that began is there. -/
theorem Changes.known (h : Changes events before after) (mem : .loop loop .created ∈ events) :
    loop < after.loops.length := by
  induction h with
  | refl => cases mem
  | step h change ih =>
    obtain late | early := List.mem_append.mp mem
    · cases change with
      | quiet quiet => exact absurd late (quiet.no_loop _)
      | addLoop =>
        cases List.mem_singleton.mp late
        rw [length_withLoop]
        exact Nat.lt_succ_self _
      | _ => simp at late
    · exact Nat.lt_of_lt_of_le (ih early) change.grows.loops

theorem Change.tracked (h : Change events before after) (tracked : before.Tracked) : after.Tracked := by
  intro loop known
  rw [h.journal, replayed_append]
  by_cases old : loop < before.loops.length
  · rw [h.registry_eq old, tracked loop old]
  -- A new loop has nothing registered, and its history begins.
  · obtain same | ⟨settings, rfl, rfl⟩ := h.loops
    · exact absurd (same ▸ known) old
    · rw [length_withLoop] at known
      have here : loop = before.loops.length := by omega
      rw [here, registry_withLoop, replayed, if_pos rfl]
      simp [loopAt, List.getD_eq_getElem?_getD, Registry.replay]

theorem Changes.tracked (h : Changes events before after) (tracked : before.Tracked) :
    after.Tracked := by
  induction h with
  | refl => exact tracked
  | step _ change ih => exact change.tracked (ih tracked)

/-- A callback whose operation waits for the descriptor that its socket had all along. -/
def AwaitsSince (before after : Machine ω) (registration : Registration) : Prop :=
  ∃ seen, after.view? registration.callback = some seen ∧
    ∀ socket, seen.operation.socket? = some socket →
      registration.descriptor ≠ Descriptor.closed ∧
        (socket < before.sockets.length →
          (before.socketAt socket).descriptor = registration.descriptor)

theorem view?_placeFor (machine : Machine ω) (loop : LoopId) (descriptor : Descriptor) (interest : Interest)
    (callback : Callback) : (machine.enrolled loop descriptor interest callback).view?
      (machine.placeFor descriptor interest callback).callback = some callback.uncounted := by
  rw [view?_enrolled, view?_withCallback]
  exact if_pos rfl

/-- A registration was made for a callback of its kind, whose socket was open and had its descriptor. -/
theorem Changes.made_for (h : Changes events before after)
    (split : events = late ++ .loop loop (.registered registration) :: early) :
    ∃ (middle : Machine ω) (seen : Callback), Changes early before middle ∧
      Changes (late ++ [.loop loop (.registered registration)]) middle after ∧
      middle.Fits seen.operation registration.descriptor ∧
      after.view? registration.callback = some seen ∧ seen.once = registration.once ∧
      (seen.once = false → seen.spent = false) := by
  obtain ⟨middle, interest, callback, earlier, fits, apt, fresh, placed, later⟩ := h.at_registered split
  have view := view?_placeFor middle loop registration.descriptor interest callback
  have made := (Change.register loop registration.descriptor interest fresh fits apt).once
  rw [← placed] at view made
  have single : callback.once = registration.once := (congrArg Registration.once placed).symm
  have all := made.trans later
  obtain same | run := later.grows.callback _ _ view
  · exact ⟨middle, callback.uncounted, earlier, all, fits, same, single, fun _ => fresh⟩
  · exact ⟨middle, callback.uncounted.run, earlier, all, fits, run, single, fun again => again⟩

/-- The callback of a registration is for a single dispatch if the registration is. -/
theorem Changes.made (h : Changes events before after)
    (mem : .loop loop (.registered registration) ∈ events) :
    ∃ seen, after.view? registration.callback = some seen ∧ seen.once = registration.once := by
  obtain ⟨late, early, split⟩ := List.append_of_mem mem
  obtain ⟨middle, seen, -, -, -, view, once, -⟩ := h.made_for split
  exact ⟨seen, view, once⟩

/-- What is registered for a background operation waits for the descriptor of its socket. -/
theorem Changes.awaits (h : Changes events before after)
    (mem : .loop loop (.registered registration) ∈ events) :
    AwaitsSince before after registration := by
  obtain ⟨late, early, split⟩ := List.append_of_mem mem
  obtain ⟨middle, seen, earlier, -, fits, view, -⟩ := h.made_for split
  refine ⟨seen, view, fun socket needed => ?_⟩
  obtain ⟨isOpen, same⟩ := fits socket needed
  refine ⟨fun closed => ?_, fun known => ?_⟩
  · have shut : (middle.socketAt socket).descriptor = Descriptor.closed := same.trans closed
    simp [Socket.isOpen, shut] at isOpen
  · rw [← earlier.grows.descriptor_of_isOpen known isOpen]
    exact same

/-- It waits for it as long as the socket is open. -/
theorem Changes.waits (h : Changes events before after)
    (mem : .loop loop (.registered registration) ∈ events) :
    ∃ seen, after.view? registration.callback = some seen ∧
      after.Awaits seen.operation registration.descriptor := by
  obtain ⟨late, early, split⟩ := List.append_of_mem mem
  obtain ⟨middle, seen, -, later, fits, view, -⟩ := h.made_for split
  exact ⟨seen, view, fits.awaits.grows later.grows⟩

/-- The socket is open as long as it did not lose its descriptor since the registration was made. -/
theorem Changes.opened (h : Changes events before after)
    (split : events = late ++ .loop loop (.registered registration) :: early) :
    ∃ seen, after.view? registration.callback = some seen ∧
      ∀ socket, seen.operation.socket? = some socket →
        (after.socketAt socket).isOpen = true ∨ Shuts socket late := by
  obtain ⟨middle, seen, -, later, fits, view, -⟩ := h.made_for split
  refine ⟨seen, view, fun socket needed => ?_⟩
  have isOpen := (fits socket needed).1
  obtain same | ⟨event, shuts, mem⟩ := later.shut (lt_of_isOpen isOpen)
  · exact .inl (same ▸ isOpen)
  · exact .inr ⟨event, shuts, by simpa using mem⟩

end Machine
end NetReactor
