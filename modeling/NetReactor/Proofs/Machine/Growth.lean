import NetReactor.Proofs.Machine.Change
import NetReactor.Proofs.Stretch
/-!
What every sequence of changes keeps: the journal only grows, callbacks are added and spent but never change
otherwise, sockets are opened and shut, and every registration that is new has an event and a number of its
own.
-/
namespace NetReactor.Machine

variable {ω : Type} {events : List Event} {before after : Machine ω}
variable {early late : List Event} {loop other : LoopId} {registration old : Registration}

structure Grows (before after : Machine ω) : Prop where
  loops : before.loops.length ≤ after.loops.length
  callback : ∀ id seen, before.view? id = some seen →
    after.view? id = some seen ∨ after.view? id = some seen.run
  sockets : before.sockets.length ≤ after.sockets.length
  socket : ∀ id, id < before.sockets.length →
    after.socketAt id = before.socketAt id ∨ after.socketAt id = Socket.shut

namespace Grows

theorem of_same (hl : before.loops.length ≤ after.loops.length)
    (hc : ∀ id, after.view? id = before.view? id) (hs : after.sockets = before.sockets) :
    Grows before after where
  loops := hl
  callback id _ h := .inl ((hc id).trans h)
  sockets := Nat.le_of_eq (by rw [hs])
  socket id _ := .inl (by simp only [socketAt, hs])

theorem refl (machine : Machine ω) : Grows machine machine :=
  of_same (Nat.le_refl _) (fun _ => rfl) rfl

theorem trans {first middle last : Machine ω} (h : Grows first middle) (h' : Grows middle last) :
    Grows first last where
  loops := Nat.le_trans h.loops h'.loops
  callback id seen hv := by
    cases h.callback id seen hv with
    | inl same => exact h'.callback id seen same
    | inr run => exact .inr ((h'.callback id _ run).elim (fun same => same) fun twice => twice)
  sockets := Nat.le_trans h.sockets h'.sockets
  socket id hid := by
    obtain same | shut := h'.socket id (Nat.lt_of_lt_of_le hid h.sockets)
    · rw [same]
      exact h.socket id hid
    · exact .inr shut

theorem callbacks (h : Grows before after) : before.callbacks.length ≤ after.callbacks.length := by
  apply Nat.le_of_not_lt
  intro lt
  have missing : after.view? after.callbacks.length = none := view?_eq_none.mpr (Nat.le_refl _)
  cases hv : before.view? after.callbacks.length with
  | none => exact absurd (view?_eq_none.mp hv) (Nat.not_le_of_lt lt)
  | some seen =>
    obtain same | run := h.callback _ seen hv
    · rw [missing] at same; cases same
    · rw [missing] at run; cases run

/-- A callback keeps its code. -/
theorem code (h : Grows before after) {id : CallbackId} {callback : Callback}
    (present : before.callback? id = some callback) :
    ∃ current, after.callback? id = some current ∧ current.code = callback.code := by
  obtain same | run := h.callback _ _ (view?_of_callback? present)
  · obtain ⟨current, known, seen⟩ := callback?_of_view? same
    exact ⟨current, known, (congrArg Callback.code seen : current.uncounted.code = _)⟩
  · obtain ⟨current, known, seen⟩ := callback?_of_view? run
    exact ⟨current, known, (congrArg Callback.code seen : current.uncounted.code = _)⟩

/-- It keeps its operation. -/
theorem operation (h : Grows before after) {id : CallbackId} {seen : Callback}
    (view : before.view? id = some seen) :
    ∃ current, after.view? id = some current ∧ current.operation = seen.operation := by
  obtain same | run := h.callback _ _ view
  · exact ⟨seen, same, rfl⟩
  · exact ⟨seen.run, run, rfl⟩

/-- An open socket was there before, or it is a new one. -/
theorem descriptor_of_isOpen (h : Grows before after) {id : SocketId}
    (hid : id < before.sockets.length) (hopen : (after.socketAt id).isOpen = true) :
    after.socketAt id = before.socketAt id := by
  obtain same | shut := h.socket id hid
  · exact same
  · rw [shut] at hopen
    cases hopen

end Grows

theorem Quiet.grows (h : Quiet events before after) : Grows before after where
  loops := Nat.le_of_eq h.loops.symm
  callback id _ hv := .inl ((h.callbacks id).trans hv)
  sockets := h.sockets
  socket id known := (h.socket id known).imp_right And.left

theorem grows_withCallback (machine : Machine ω) (callback : Callback) :
    Grows machine (machine.withCallback callback) where
  loops := Nat.le_refl _
  callback id seen hv := by
    have known : id ≠ machine.callbacks.length := Nat.ne_of_lt (lt_of_view? hv)
    exact .inl (by rw [view?_withCallback, if_neg known, hv])
  sockets := Nat.le_refl _
  socket _ _ := .inl rfl

theorem grows_updateRegistry (machine : Machine ω) (loop : LoopId) (event : LoopEvent)
    (change : Registry → Registry) : Grows machine (machine.updateRegistry loop event change) :=
  .of_same (by simp [updateRegistry, updateLoop, note]) (fun _ => rfl) rfl

theorem grows_retiring (machine : Machine ω) (loop : LoopId) (registration : Registration) :
    Grows machine (machine.retiring loop registration) := by
  unfold retiring
  split
  · exact grows_updateRegistry machine loop _ _
  · exact .refl machine

theorem grows_withLoop (machine : Machine ω) (settings : LoopSettings) :
    Grows machine (machine.withLoop settings) :=
  .of_same (by simp) (fun _ => rfl) rfl

theorem grows_setRunning (machine : Machine ω) (loop : LoopId) (running : Bool) :
    Grows machine (machine.setRunning loop running) :=
  .of_same (by simp [setRunning, updateLoop]) (fun _ => rfl) rfl

theorem grows_told (machine : Machine ω) (id : CallbackId) (code : CodeId) (notice : Notice) :
    Grows machine (machine.told id code notice) :=
  .of_same (Nat.le_refl _) (fun _ => view?_told ..) rfl

theorem grows_started (machine : Machine ω) (id : CallbackId) : Grows machine (machine.started id) where
  loops := Nat.le_refl _
  callback other seen hv := by
    rw [view?_started, hv]
    by_cases h : id = other
    · exact .inr (by rw [if_pos h]; rfl)
    · exact .inl (by rw [if_neg h])
  sockets := Nat.le_refl _
  socket _ _ := .inl rfl

@[simp] theorem mem_retirement {event : Event} : event ∈ retirement loop registration ↔
    registration.once = true ∧
      event = .loop loop (.retired registration.descriptor registration.callback) := by
  unfold retirement
  split <;> simp [*]

theorem Quiet.no_loop (h : Quiet events before after) (event : LoopEvent) :
    .loop loop event ∉ events := fun mem => nomatch h.outward _ mem

theorem Quiet.no_callback (h : Quiet events before after) (id : CallbackId) (code : CodeId)
    (notice : Notice) (found : List EventLoop) : .callback id code notice found ∉ events :=
  fun mem => nomatch h.outward _ mem

theorem Change.journal (h : Change events before after) :
    after.journal = events ++ before.journal := by
  cases h with
  | quiet h => exact h.journal
  | retire => exact journal_retiring _ _ _
  | _ => rfl

theorem Change.grows (h : Change events before after) : Grows before after := by
  cases h with
  | quiet h => exact h.grows
  | addLoop => exact grows_withLoop _ _
  | register => exact (grows_withCallback _ _).trans (grows_updateRegistry _ _ _ _)
  | remove => exact grows_updateRegistry _ _ _ _
  | withdraw => exact grows_updateRegistry _ _ _ _
  | retire => exact grows_retiring _ _ _
  | create => exact grows_withCallback _ _
  | tell => exact grows_told _ _ _ _
  | start => exact grows_started _ _
  | setRunning => exact grows_setRunning _ _ _
  | _ => exact .of_same (Nat.le_refl _) (fun _ => rfl) rfl

/-- A registration that is new was made by the change, for a callback that is new. -/
theorem Change.entries (h : Change events before after)
    (mem : registration ∈ after.entries loop) :
    registration ∈ before.entries loop ∨ .loop loop (.registered registration) ∈ events := by
  cases h with
  | quiet h =>
    rw [Machine.entries, h.registry] at mem
    exact .inl mem
  | addLoop =>
    rw [Machine.entries, registry_withLoop] at mem
    exact .inl mem
  | register =>
    obtain old | ⟨rfl, rfl⟩ := mem_entries_enrolled mem
    · exact .inl old
    · exact .inr (List.mem_singleton.mpr rfl)
  | remove => exact .inl (mem_entries_remove mem)
  | withdraw => exact .inl (mem_entries_remove mem)
  | retire => exact .inl (mem_entries_retiring mem)
  | setRunning =>
    rw [entries_setRunning] at mem
    exact .inl mem
  | _ => exact .inl mem

theorem Change.registered (h : Change events before after)
    (mem : .loop loop (.registered registration) ∈ events) :
    registration.callback = before.callbacks.length ∧
      after.callbacks.length = before.callbacks.length + 1 := by
  cases h with
  | quiet h => exact absurd mem (h.no_loop _)
  | register =>
    cases List.mem_singleton.mp mem
    exact ⟨rfl, length_enrolled _ _ _ _ _⟩
  | _ => simp at mem

/-- One change makes at most one registration. -/
theorem Change.registered_unique (h : Change events before after)
    (mem : .loop loop (.registered registration) ∈ events)
    (mem' : .loop other (.registered old) ∈ events) : other = loop ∧ old = registration := by
  cases h with
  | quiet h => exact absurd mem (h.no_loop _)
  | register =>
    cases List.mem_singleton.mp mem
    cases List.mem_singleton.mp mem'
    exact ⟨rfl, rfl⟩
  | _ => simp at mem

theorem Change.shut {id : SocketId} (h : Change events before after) (known : id < before.sockets.length) :
    after.socketAt id = before.socketAt id ∨ Shuts id events := by
  cases h with
  | quiet h => exact (h.socket id known).imp_right And.right
  | retire =>
    unfold retiring
    split <;> exact .inl rfl
  | _ => exact .inl rfl

namespace Changes

theorem journal (h : Changes events before after) : after.journal = events ++ before.journal := by
  induction h with
  | refl => rfl
  | step _ change ih => rw [change.journal, ih, List.append_assoc]

theorem grows (h : Changes events before after) : Grows before after := by
  induction h with
  | refl machine => exact .refl machine
  | step _ change ih => exact ih.trans change.grows

/-- A socket stays as it is, unless it loses its descriptor. -/
theorem shut {id : SocketId} (h : Changes events before after) (known : id < before.sockets.length) :
    after.socketAt id = before.socketAt id ∨ Shuts id events := by
  induction h with
  | refl => exact .inl rfl
  | step h change ih =>
    obtain same | shuts := change.shut (Nat.lt_of_lt_of_le known h.grows.sockets)
    · rw [same]
      exact (ih known).imp_right fun shuts => shuts.mono (List.subset_append_right _ _)
    · exact .inr (shuts.mono (List.subset_append_left _ _))

theorem entries (h : Changes events before after) (mem : registration ∈ after.entries loop) :
    registration ∈ before.entries loop ∨ .loop loop (.registered registration) ∈ events := by
  induction h with
  | refl => exact .inl mem
  | step _ change ih =>
    cases change.entries mem with
    | inl old => exact (ih old).imp id fun early => List.mem_append_right _ early
    | inr fresh => exact .inr (List.mem_append_left _ fresh)

/-- A registration that is made has a callback that is new. -/
theorem registered (h : Changes events before after)
    (mem : .loop loop (.registered registration) ∈ events) :
    before.callbacks.length ≤ registration.callback ∧
      registration.callback < after.callbacks.length := by
  induction h with
  | refl => cases mem
  | step h change ih =>
    cases List.mem_append.mp mem with
    | inl late =>
      obtain ⟨number, more⟩ := change.registered late
      rw [number, more]
      exact ⟨h.grows.callbacks, Nat.lt_succ_self _⟩
    | inr early =>
      obtain ⟨lower, upper⟩ := ih early
      exact ⟨lower, Nat.lt_of_lt_of_le upper change.grows.callbacks⟩

theorem registered_unique (h : Changes events before after)
    (mem : .loop loop (.registered registration) ∈ events)
    (mem' : .loop other (.registered old) ∈ events) (same : old.callback = registration.callback) :
    other = loop ∧ old = registration := by
  induction h with
  | refl => cases mem
  | step h change ih =>
    cases List.mem_append.mp mem with
    | inl late =>
      cases List.mem_append.mp mem' with
      | inl late' => exact change.registered_unique late late'
      | inr early' =>
        have lt := (h.registered early').2
        rw [same, (change.registered late).1] at lt
        exact absurd lt (Nat.lt_irrefl _)
    | inr early =>
      cases List.mem_append.mp mem' with
      | inl late' =>
        have lt := (h.registered early).2
        rw [← same, (change.registered late').1] at lt
        exact absurd lt (Nat.lt_irrefl _)
      | inr early' => exact ih early early'

/-- A registration that was made had a moment at which it was made. -/
theorem at_registered (h : Changes events before after)
    (split : events = late ++ .loop loop (.registered registration) :: early) :
    ∃ (middle : Machine ω) (interest : Interest) (callback : Callback), Changes early before middle ∧
      middle.Fits callback.operation registration.descriptor ∧
      (callback.once = true → callback.operation.accepts = false) ∧ callback.spent = false ∧
      registration = middle.placeFor registration.descriptor interest callback ∧
      Changes late (middle.enrolled loop registration.descriptor interest callback) after := by
  induction h generalizing late with
  | refl => simp at split
  | @step _ events first middle last h change ih =>
    obtain ⟨rest, inside, rfl⟩ | ⟨rest, rfl, rfl⟩ := split_append split
    · have mem : .loop loop (.registered registration) ∈ events := by simp [inside]
      cases change with
      | quiet quiet => exact absurd mem (quiet.no_loop _)
      | @register _ loop descriptor interest callback fresh fits apt =>
        obtain ⟨rfl, made⟩ | ⟨-, none⟩ := List.singleton_eq_append_iff.mp inside
        · cases made
          exact ⟨middle, interest, callback, h, fits, apt, fresh, rfl, .refl _⟩
        · cases none
      | _ => simp at mem
    · obtain ⟨machine, interest, callback, earlier, fits, apt, fresh, placed, later⟩ := ih rfl
      exact ⟨machine, interest, callback, earlier, fits, apt, fresh, placed, later.step change⟩

/-- The code of a callback starts in a machine whose loops it finds. -/
theorem at_callback {id : CallbackId} {code : CodeId} {notice : Notice} {found : List EventLoop}
    (h : Changes events before after) (split : events = late ++ .callback id code notice found :: early) :
    ∃ middle : Machine ω, Changes early before middle ∧ found = middle.loops ∧
      Changes (late ++ [.callback id code notice found]) middle after := by
  induction h generalizing late with
  | refl => simp at split
  | @step _ events first middle last h change ih =>
    obtain ⟨rest, inside, rfl⟩ | ⟨rest, rfl, rfl⟩ := split_append split
    · have mem : .callback id code notice found ∈ events := by simp [inside]
      cases change with
      | quiet quiet => exact absurd mem (quiet.no_callback _ _ _ _)
      | tell _ id code notice =>
        obtain ⟨rfl, told⟩ | ⟨-, none⟩ := List.singleton_eq_append_iff.mp inside
        · cases told
          exact ⟨middle, h, rfl, (Change.tell middle id code notice).once⟩
        · cases none
      | _ => simp at mem
    · obtain ⟨machine, earlier, finds, later⟩ := ih rfl
      refine ⟨machine, earlier, finds, ?_⟩
      rw [List.append_assoc]
      exact later.step change

end Changes
end NetReactor.Machine
