import NetReactor.Proofs.Machine.Cycle
/-!
What the dispatches of one cycle leave in the journal, read in the order in which it happened. Cycles that
callbacks drive inside are deeper and do not count; whether they may be of the same loop is a condition of its
own.
-/
namespace NetReactor.Machine

variable {ω : Type} {host : Host ω} {machine before after : Machine ω} {loop : LoopId}
variable {events early late : List Event} {entries : List (PollEntry × Registration)}
variable {registration : Registration} {entry : PollEntry} {place : Place} {count depth : Nat}
variable {ids : List CallbackId}

def start? (ids : List CallbackId) : Event → Option (CallbackId × Notice)
  | .callback id _ notice _ => if id ∈ ids then some (id, notice) else none
  | _ => none

def starts (ids : List CallbackId) (events : List Event) : List (CallbackId × Notice) :=
  events.reverse.filterMap (start? ids)

def isCalm (loop : LoopId) (depth : Nat) : Event → Bool
  | .loop other (.dispatched deep ..) => other != loop || deep == depth
  | _ => true

/-- Every dispatch of the loop is by a cycle at this depth: no callback drives the loop re-entrantly. -/
def Calm (loop : LoopId) (depth : Nat) (events : List Event) : Prop :=
  ∀ event ∈ events, isCalm loop depth event = true

instance : Decidable (Calm loop depth events) :=
  inferInstanceAs (Decidable (∀ event ∈ events, isCalm loop depth event = true))

theorem Calm.mono {few many : List Event} (h : Calm loop depth many) (hs : few ⊆ many) :
    Calm loop depth few := fun event mem => h event (hs mem)

theorem Calm.depth_eq {deep : Nat} {id : CallbackId} {descriptor : Descriptor} {ready : Interest}
    (h : Calm loop depth events) (mem : .loop loop (.dispatched deep id descriptor ready) ∈ events) :
    deep = depth := by
  simpa [isCalm] using h _ mem

theorem starts_append : starts ids (late ++ early) = starts ids early ++ starts ids late := by
  simp [starts]

theorem starts_cons (event : Event) :
    starts ids (event :: events) = starts ids events ++ (start? ids event).toList := by
  cases h : start? ids event <;> simp [starts, h]

theorem starts_eq_nil (h : ∀ event ∈ events, start? ids event = none) : starts ids events = [] :=
  List.filterMap_eq_nil_iff.mpr fun event mem => h event (List.mem_reverse.mp mem)

theorem starts_retirement : starts ids (retirement loop registration) = [] := by
  apply starts_eq_nil
  intro event mem
  rw [(mem_retirement.mp mem).2]
  rfl

theorem starts_outward (h : ∀ event ∈ events, event.isOutward = true) : starts ids events = [] := by
  apply starts_eq_nil
  intro event mem
  cases event with
  | callback id code notice found => cases h _ mem
  | _ => rfl

variable {ready : Interest} {operation : Operation} {seen : Callback}

theorem quietly_respond (host : Host ω) (loop : LoopId) (id : CallbackId) (descriptor : Descriptor)
    (ready : Interest) (h : operation.accepts = false) :
    Quietly (respond host loop id operation descriptor ready) :=
  within_respond (fun h => h) fun accepting => absurd accepting (by simp [h])

/-- What is not an accept always tells something, and a watcher the mask that was reported. -/
theorem respond_told (host : Host ω) (loop : LoopId) (id : CallbackId) (descriptor : Descriptor)
    (ready : Interest) (machine : Machine ω) (h : operation.accepts = false) :
    ∃ notice, (respond host loop id operation descriptor ready machine).1 = some notice ∧
      (operation = .watch → notice = .ready descriptor ready) := by
  cases operation with
  | watch => exact ⟨_, rfl, fun _ => rfl⟩
  | accept socket keep => cases h
  | _ => exact ⟨_, rfl, fun same => nomatch same⟩

/-- What a reaction does whose callback was not spent and does not accept: quiet calls, then its code. -/
theorem reaction_told (h : Trace host (.reaction loop registration ready) events before after)
    (view : before.view? registration.callback = some seen) (fresh : seen.spent = false)
    (tells : seen.operation.accepts = false) :
    ∃ code notice found responded inner released middle inside,
      events = released ++ (inner ++ (.callback registration.callback code notice found :: responded)) ∧
      (∀ event ∈ responded ++ released, event.isOutward = true) ∧
      Changes (.callback registration.callback code notice found :: responded) before middle ∧
      middle.snapshots = before.snapshots ∧ Trace host .code inner middle inside ∧
      (seen.operation = .watch → notice = .ready registration.descriptor ready) := by
  obtain ⟨callback, present, rfl⟩ := callback?_of_view? view
  have fresh : callback.spent = false := fresh
  obtain ⟨notice, told, watched⟩ := respond_told host loop registration.callback
    registration.descriptor ready (before.started registration.callback) tells
  obtain ⟨quiet, called⟩ := quietly_respond host loop registration.callback registration.descriptor
    ready tells (before.started registration.callback)
  have told : (respond host loop registration.callback callback.operation registration.descriptor ready
    (before.started registration.callback)).1 = some notice := told
  have called : Quiet quiet _ (respond host loop registration.callback callback.operation
    registration.descriptor ready (before.started registration.callback)).2 := called
  cases h with
  | spent known spent =>
    cases present.symm.trans known
    rw [fresh] at spent
    cases spent
  | overlooked known _ _ response =>
    cases present.symm.trans known
    rw [response] at told
    cases told
  | @told _ middle inside _ _ _ _ _ _ responded inner released known _ gone response operation code
      _ release =>
    cases present.symm.trans known
    rw [response] at told called
    cases told
    have same : responded = quiet :=
      List.append_cancel_right (operation.changes.journal.symm.trans called.journal)
    have begun := ((Change.start known gone).once.trans operation.changes).step
      (.tell middle registration.callback callback.code notice)
    refine ⟨callback.code, notice, middle.loops, responded, inner, released,
      middle.told registration.callback callback.code notice, inside, rfl, ?_, by simpa using begun,
      operation.snapshots, code, watched⟩
    intro event mem
    cases List.mem_append.mp mem with
    | inl early => exact called.outward event (same ▸ early)
    | inr late => exact release.outward event late

/-- While no callback drives the loop re-entrantly, what a cycle found is dispatched by that cycle only. -/
theorem not_dispatched_inside (h : Trace host place events before after)
    (found : before.Found loop registration) (calm : Calm loop before.snapshots.length events)
    (others : ∀ other listed, place = .cycle other listed → ∀ old ∈ listed,
      old.callback ≠ registration.callback) :
    ¬ Dispatched events registration.callback := by
  rintro ⟨other, depth, descriptor, ready, mem⟩
  obtain ⟨deeper, old, knows, same, -⟩ | ⟨listed, cycle, -, old, mem', same, -⟩ := h.dispatched mem
  · obtain ⟨seen, view, -⟩ := found.known
    cases knows with
    | inl present =>
      obtain ⟨rfl, -⟩ := found.only other old present same
      exact absurd (calm.depth_eq mem) (Nat.ne_of_gt deeper)
    | inr fresh =>
      have new := (h.changes.registered fresh).1
      rw [same] at new
      exact absurd (lt_of_view? view) (Nat.not_lt_of_le new)
  · exact others other listed cycle old mem' same

theorem not_started_inside (h : Trace host place events before after)
    (found : before.Found loop registration) (calm : Calm loop before.snapshots.length events)
    (others : ∀ other listed, place = .cycle other listed → ∀ old ∈ listed,
      old.callback ≠ registration.callback)
    (unhandled : ¬ place.handles registration.callback) (code : CodeId) (notice : Notice)
    (loops : List EventLoop) : .callback registration.callback code notice loops ∉ events := by
  intro mem
  obtain handles | dispatched | made := h.callback mem
  · exact unhandled handles
  · exact not_dispatched_inside h found calm others dispatched
  · obtain ⟨seen, view, -⟩ := found.known
    exact absurd (lt_of_view? view) (Nat.not_lt_of_le made.lower)

theorem starts_inside (h : Trace host place events before after)
    (found : ∀ id ∈ ids, ∃ registration, registration.callback = id ∧ before.Found loop registration)
    (calm : Calm loop before.snapshots.length events)
    (others : ∀ other listed, place = .cycle other listed → ∀ old ∈ listed, old.callback ∉ ids)
    (unhandled : ∀ id ∈ ids, ¬ place.handles id) : starts ids events = [] := by
  apply starts_eq_nil
  intro event mem
  unfold start?
  split
  · apply if_neg
    intro listed
    obtain ⟨registration, rfl, known⟩ := found _ listed
    exact not_started_inside h known calm
      (fun other many cycle old mem' same => others other many cycle old mem' (same ▸ listed))
      (unhandled _ listed) _ _ _ mem
  · rfl

def StartFor (machine : Machine ω) (pair : Registration × Interest) (start : CallbackId × Notice) :
    Prop :=
  start.1 = pair.1.callback ∧
    (∀ seen, machine.view? pair.1.callback = some seen → seen.operation = .watch →
      start.2 = .ready pair.1.descriptor pair.2)

/-- A dispatch starts the code of its own callback once, and of nothing else that was found. -/
theorem Dispatch.starts (h : Dispatch host loop entry registration true events machine after)
    (found : ∀ id ∈ ids, ∃ old, old.callback = id ∧ machine.Found loop old)
    (calm : Calm loop machine.snapshots.length events)
    (view : machine.view? registration.callback = some seen) (fresh : seen.spent = false)
    (tells : registration.callback ∈ ids → seen.operation.accepts = false) :
    (registration.callback ∉ ids ∧ starts ids events = []) ∨
      (registration.callback ∈ ids ∧ ∃ start, starts ids events = [start] ∧
        StartFor machine (registration, entry.returned) start) := by
  cases h with
  | @ran _ inside events ready idle reaction =>
    have begun := changes_announced machine loop registration entry.returned
    have found' : ∀ id ∈ ids, ∃ old, old.callback = id ∧
        (machine.announced loop registration entry.returned).Found loop old := by
      intro id listed
      obtain ⟨old, same, known⟩ := found id listed
      exact ⟨old, same, known.changes begun⟩
    have inner : events ⊆ _ := List.subset_cons_of_subset
      (.loop loop (.finished machine.snapshots.length registration.callback))
      (List.subset_append_left events (.loop loop (.dispatched machine.snapshots.length
        registration.callback registration.descriptor entry.returned) :: retirement loop registration))
    have shape : Machine.starts ids
        (.loop loop (.finished machine.snapshots.length registration.callback) :: (events ++
          (.loop loop (.dispatched machine.snapshots.length registration.callback
            registration.descriptor entry.returned) :: retirement loop registration))) =
        Machine.starts ids events := by
      rw [starts_cons, starts_append, starts_cons, starts_retirement]
      simp [start?]
    rw [shape]
    have deep : (machine.announced loop registration entry.returned).snapshots = machine.snapshots :=
      snapshots_announced machine loop registration entry.returned
    have calm' : Calm loop (machine.announced loop registration entry.returned).snapshots.length events := by
      rw [deep]
      exact calm.mono inner
    by_cases listed : registration.callback ∈ ids
    · refine .inr ⟨listed, ?_⟩
      obtain ⟨code, notice, known, responded, body, released, middle, ending, rfl, outward, told, deeper,
        trace, watched⟩ := reaction_told reaction ((view?_announced ..).trans view) fresh (tells listed)
      refine ⟨(registration.callback, notice), ?_, rfl, fun seen' view' watch => ?_⟩
      · have within : Calm loop middle.snapshots.length body := by
          rw [deeper]
          exact calm'.mono fun event mem => by simp [mem]
        have quiet : Machine.starts ids body = [] := by
          refine starts_inside trace (fun id mem => ?_) within (fun _ _ cycle => nomatch cycle)
            (fun _ _ => Place.not_handles rfl)
          obtain ⟨old, same, known⟩ := found' id mem
          exact ⟨old, same, known.changes told⟩
        rw [starts_append, starts_append, starts_cons, quiet,
          starts_outward fun event mem => outward event (List.mem_append_left _ mem),
          starts_outward fun event mem => outward event (List.mem_append_right _ mem)]
        simp [start?, listed]
      · rw [view] at view'
        cases view'
        exact watched watch
    · refine .inl ⟨listed, starts_inside reaction found' calm' (fun _ _ cycle => nomatch cycle) ?_⟩
      rintro id mem ⟨_, _, handled, rfl⟩
      cases handled
      exact listed mem

theorem StartFor.earlier {pair : Registration × Interest} {start : CallbackId × Notice}
    (h : StartFor after pair start) (grows : Grows before after) : StartFor before pair start := by
  refine ⟨h.1, fun seen view watch => ?_⟩
  cases grows.callback _ seen view with
  | inl same => exact h.2 seen same watch
  | inr run => exact h.2 seen.run run watch

theorem Walk.starts (h : Walk host loop entries count events machine after)
    (found : ∀ id ∈ ids, ∃ old, old.callback = id ∧ machine.Found loop old)
    (listed : ∀ pair ∈ entries, machine.Found loop pair.2 ∧
      pair.2.callback ∉ machine.executing ∧ ∃ seen, machine.view? pair.2.callback = some seen ∧
        seen.spent = false ∧ (pair.2.callback ∈ ids → seen.operation.accepts = false))
    (distinct : (entries.map (·.2.callback)).Nodup)
    (calm : Calm loop machine.snapshots.length events) :
    List.Forall₂ (fun pair start => StartFor machine (pair.2, pair.1.returned) start)
      (entries.filter fun pair => decide (pair.2.callback ∈ ids) && pair.1.isReady)
      (starts ids events) := by
  induction h with
  | nil => exact .nil
  | @cons entry registration rest ran count early late first middle last h _ ih =>
    have trace := h.trace (List.mem_singleton.mpr rfl)
    have calmEarly : Calm loop first.snapshots.length early :=
      calm.mono (List.subset_append_right _ _)
    obtain ⟨-, idle, seen, view, fresh, tells⟩ := listed _ (List.mem_cons_self ..)
    rw [List.map_cons, List.nodup_cons] at distinct
    -- The first dispatch leaves the others as they were, for nothing in it dispatches their callbacks.
    have later := ih
      (fun id mem => by
        obtain ⟨old, same, known⟩ := found id mem
        exact ⟨old, same, known.changes trace.changes⟩)
      (fun pair mem => by
        obtain ⟨known, idle, seen, view, fresh, tells⟩ := listed pair (List.mem_cons_of_mem _ mem)
        have untouched : ¬ Dispatched early pair.2.callback := by
          apply not_dispatched_inside trace known calmEarly
          intro other many cycle old mem' same
          cases cycle
          rw [List.mem_singleton.mp mem'] at same
          exact distinct.1 (List.mem_map.mpr ⟨pair, mem, same.symm⟩)
        refine ⟨known.changes trace.changes, by rwa [trace.executing], seen, ?_, fresh, tells⟩
        obtain same | dispatched | handles := trace.view? view
        · exact same
        · exact absurd dispatched untouched
        · exact absurd handles (Place.not_handles rfl))
      distinct.2 (by rw [trace.snapshots]; exact calm.mono (List.subset_append_left _ _))
    have others := later.imp fun pair start h => h.earlier trace.changes.grows
    clear later
    rw [starts_append]
    cases h with
    | unready quiet =>
      rw [List.filter_cons_of_neg (by simp [quiet])]
      exact others
    | busy ready executing => exact absurd executing idle
    | ran ready idle reaction =>
      have dispatch : Dispatch host loop entry registration true _ first _ := .ran ready idle reaction
      obtain ⟨unlisted, none⟩ | ⟨inside, start, own, told⟩ :=
        dispatch.starts found calmEarly view fresh tells
      · rw [List.filter_cons_of_neg (by simp [unlisted]), none]
        exact others
      · rw [List.filter_cons_of_pos (by simpa using ⟨inside, ready⟩), own]
        exact .cons told others

/-- What is registered during a cycle is not dispatched in it, and its code does not start. -/
theorem not_dispatched_later {found : List Registration}
    (h : Trace host (.cycle loop found) events before after) (coherent : before.Coherent)
    (known : ∀ old ∈ found, before.Found loop old) (calm : Calm loop before.snapshots.length events)
    (mem : .loop loop (.registered registration) ∈ events) :
    ¬ Dispatched events registration.callback ∧
      ∀ code notice loops, .callback registration.callback code notice loops ∉ events := by
  have new := (h.changes.registered mem).1
  have early : ∀ {id : CallbackId} {seen : Callback}, before.view? id = some seen →
      id ≠ registration.callback := by
    intro id seen view same
    rw [same] at view
    exact absurd (lt_of_view? view) (Nat.not_lt_of_le new)
  have never : ¬ Dispatched events registration.callback := by
    rintro ⟨other, deep, descriptor, ready, dispatched⟩
    obtain ⟨deeper, old, knows, same, -⟩ | ⟨listed, cycle, -, old, mem', same, -⟩ :=
      h.dispatched dispatched
    · cases knows with
      | inl present =>
        obtain ⟨seen, view, -⟩ := coherent.known other old present
        exact early view same
      | inr fresh =>
        obtain ⟨rfl, rfl⟩ := h.changes.registered_unique mem fresh same
        exact absurd (calm.depth_eq dispatched) (Nat.ne_of_gt deeper)
    · cases cycle
      obtain ⟨seen, view, -⟩ := (known old mem').known
      exact early view same
  refine ⟨never, fun code notice loops started => ?_⟩
  obtain handles | dispatched | made := h.callback started
  · exact Place.not_handles rfl handles
  · exact never dispatched
  · exact made.unregistered loop registration mem rfl

end NetReactor.Machine
