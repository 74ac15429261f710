import NetReactor.Proofs.Machine.Replay
/-!
What a machine is known for by its whole history: who made its registrations, and that a callback for a single
dispatch is registered nowhere while it is being run, so that no cycle inside can find it.
-/
namespace NetReactor.Machine

variable {ω : Type} {events : List Event} {before after machine : Machine ω} {id : CallbackId}
variable {loop other : LoopId} {registration old : Registration}

structure Singles (machine : Machine ω) : Prop where
  apt : ∀ id seen, machine.view? id = some seen → seen.once = true → seen.spent = false →
    seen.operation.accepts = false
  aside : ∀ id ∈ machine.executing, ∀ seen, machine.view? id = some seen → seen.once = true →
    machine.Gone id

theorem singles_new (outside : ω) : Singles { outside } where
  apt _ _ view := nomatch view
  aside _ mem := nomatch mem

namespace Singles

theorem of_same (h : before.Singles) (views : ∀ id, after.view? id = before.view? id)
    (executing : ∀ id ∈ after.executing, id ∈ before.executing)
    (entries : ∀ loop, ∀ registration ∈ after.entries loop, registration ∈ before.entries loop) :
    after.Singles where
  apt id seen view := h.apt id seen ((views id).symm.trans view)
  aside id mem seen view once loop registration present :=
    h.aside id (executing id mem) seen ((views id).symm.trans view) once loop registration
      (entries loop registration present)

/-- A new callback that is not run yet. -/
theorem of_added (h : before.Singles) (coherent : before.Coherent) {callback : Callback}
    (apt : callback.once = true → callback.spent = false → callback.operation.accepts = false)
    (views : ∀ id, after.view? id =
      if id = before.callbacks.length then some callback.uncounted else before.view? id)
    (executing : after.executing = before.executing)
    (entries : ∀ loop, ∀ registration ∈ after.entries loop, registration ∈ before.entries loop ∨
      registration.callback = before.callbacks.length) : after.Singles where
  apt id seen view once fresh := by
    rw [views] at view
    split at view
    · cases view
      exact apt once fresh
    · exact h.apt id seen view once fresh
  aside id mem seen view once loop registration present := by
    rw [executing] at mem
    have old : id ≠ before.callbacks.length := Nat.ne_of_lt (coherent.executing id mem)
    rw [views, if_neg old] at view
    cases entries loop registration present with
    | inl known => exact h.aside id mem seen view once loop registration known
    | inr fresh => exact fresh ▸ old.symm

theorem change (h : before.Singles) (coherent : before.Coherent) (change : Change events before after) :
    after.Singles := by
  cases change with
  | quiet quiet =>
    refine h.of_same quiet.callbacks (by simp [quiet.executing]) fun loop registration mem => ?_
    rwa [entries, quiet.registry] at mem
  | poll => exact h.of_same (fun _ => rfl) (fun _ mem => mem) fun _ _ mem => mem
  | addLoop =>
    refine h.of_same (fun _ => rfl) (fun _ mem => mem) fun loop registration mem => ?_
    rwa [entries, registry_withLoop] at mem
  | @register _ loop descriptor interest callback fresh fits apt =>
    refine h.of_added coherent (fun once _ => apt once)
      (fun id => view?_withCallback before callback id) rfl fun other registration mem => ?_
    exact (mem_entries_enrolled mem).imp_right fun same => by rw [same.2]; rfl
  | remove => exact h.of_same (fun _ => rfl) (fun _ mem => mem) fun _ _ => mem_entries_remove
  | withdraw => exact h.of_same (fun _ => rfl) (fun _ mem => mem) fun _ _ => mem_entries_remove
  | retire =>
    exact h.of_same (view?_retiring _ _ _) (by simp) fun _ _ => mem_entries_retiring
  | @create _ callback spent =>
    refine h.of_added coherent (fun _ fresh => ?_) (view?_withCallback before callback) rfl
      fun _ _ mem => .inl mem
    rw [spent] at fresh
    cases fresh
  | tell => exact h.of_same (fun _ => view?_told ..) (fun _ mem => mem) fun _ _ mem => mem
  | @start _ own callback known gone =>
    have views (id : CallbackId) := view?_started before own id
    constructor
    case apt =>
      intro id seen view once fresh
      rw [views] at view
      split at view
      · obtain ⟨old, was, rfl⟩ := Option.map_eq_some_iff.mp view
        cases once.symm.trans fresh
      · exact h.apt id seen view once fresh
    case aside =>
      intro id mem seen view once
      rw [views] at view
      split at view
      · next here =>
        subst here
        rw [view?_of_callback? known] at view
        cases view
        exact gone once
      · next other =>
        exact h.aside id ((List.mem_cons.mp mem).resolve_left (Ne.symm other)) seen view once
  | finish => exact h.of_same (fun _ => rfl) (fun _ => List.mem_of_mem_erase) fun _ _ mem => mem
  | setRunning =>
    refine h.of_same (fun _ => rfl) (fun _ mem => mem) fun loop registration mem => ?_
    rwa [entries_setRunning] at mem
  | _ => exact h.of_same (fun _ => rfl) (fun _ mem => mem) fun _ _ mem => mem

theorem changes (h : before.Singles) (coherent : before.Coherent)
    (changes : Changes events before after) : after.Singles := by
  induction changes with
  | refl => exact h
  | step earlier change ih => exact (ih h coherent).change (coherent.changes earlier) change

end Singles

/-- The journal holds all the changes that led to a machine, from nothing. -/
def History (machine : Machine ω) : Prop :=
  ∃ outside, Changes machine.journal { outside } machine

namespace History

theorem new (outside : ω) : History { outside } := ⟨outside, .refl _⟩

theorem changes (h : before.History) (changes : Changes events before after) : after.History := by
  obtain ⟨outside, early⟩ := h
  exact ⟨outside, changes.journal ▸ early.trans changes⟩

theorem coherent (h : machine.History) : machine.Coherent := by
  obtain ⟨outside, all⟩ := h
  exact (coherent_new outside).changes all

theorem tracked (h : machine.History) : machine.Tracked := by
  obtain ⟨outside, all⟩ := h
  exact all.tracked (tracked_new outside)

theorem singles (h : machine.History) : machine.Singles := by
  obtain ⟨outside, all⟩ := h
  exact (singles_new outside).changes (coherent_new outside) all

/-- Every registration was made. -/
theorem registered (h : machine.History) (mem : registration ∈ machine.entries loop) :
    .loop loop (.registered registration) ∈ machine.journal := by
  obtain ⟨outside, all⟩ := h
  exact (all.entries mem).resolve_left nofun

theorem unique (h : machine.History) (mem : .loop loop (.registered registration) ∈ machine.journal)
    (mem' : .loop other (.registered old) ∈ machine.journal)
    (same : old.callback = registration.callback) : other = loop ∧ old = registration := by
  obtain ⟨outside, all⟩ := h
  exact all.registered_unique mem mem' same

/-- A registration was made for a callback of its kind, and no other one leads to it. -/
theorem found (h : machine.History) (mem : .loop loop (.registered registration) ∈ machine.journal) :
    machine.Found loop registration where
  known := by
    obtain ⟨outside, all⟩ := h
    exact all.made mem
  only other old present same := h.unique mem (h.registered present) same

theorem waits (h : machine.History) (mem : .loop loop (.registered registration) ∈ machine.journal) :
    ∃ seen, machine.view? registration.callback = some seen ∧
      machine.Awaits seen.operation registration.descriptor := by
  obtain ⟨outside, all⟩ := h
  exact all.waits mem

/-- A registration waits for what its callback is for. -/
theorem awaits {seen : Callback} (h : machine.History)
    (mem : .loop loop (.registered registration) ∈ machine.journal)
    (view : machine.view? registration.callback = some seen) :
    machine.Awaits seen.operation registration.descriptor := by
  obtain ⟨_, view', waits⟩ := h.waits mem
  cases view.symm.trans view'
  exact waits

theorem opened {late early : List Event} (h : machine.History)
    (split : machine.journal = late ++ .loop loop (.registered registration) :: early) :
    ∃ seen, machine.view? registration.callback = some seen ∧
      ∀ socket, seen.operation.socket? = some socket →
        (machine.socketAt socket).isOpen = true ∨ Shuts socket late := by
  obtain ⟨outside, all⟩ := h
  exact all.opened split

theorem lt_callbacks (h : machine.History)
    (mem : .loop loop (.registered registration) ∈ machine.journal) :
    registration.callback < machine.callbacks.length := by
  obtain ⟨outside, all⟩ := h
  exact (all.registered mem).2

end History
end NetReactor.Machine
