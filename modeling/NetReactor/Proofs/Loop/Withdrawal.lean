import NetReactor.Proofs.Loop.Walk
/-!
A background accept withdraws whatever is registered for its descriptor exactly when it fails. No other
operation withdraws anything, and what a dispatch does besides is the doing of the program.
-/
namespace NetReactor.Machine

variable {ω : Type} {host : Host ω} {loop : LoopId} {registration : Registration}
variable {before after : Machine ω} {events : List Event} {ready : Interest} {operation : Operation}

/-- The events of an operation: calls that left the library, and its withdrawal. -/
theorem operation_events {place : Place} (h : Trace host place events before after)
    (here : place = .operation loop registration) : ∀ event ∈ events, event.isOutward = true ∨
      event = .loop loop (.withdrawn registration.descriptor registration.callback) := by
  induction h with
  | quiet quiet => exact fun event mem => .inl (quiet.outward event mem)
  | seq _ _ ih ih' =>
    intro event mem
    exact (List.mem_append.mp mem).elim (ih' here event) (ih here event)
  | withdraw =>
    cases here
    intro event mem
    exact .inr (List.mem_singleton.mp mem)
  | _ => cases here

def Withdraws (loop : LoopId) (events : List Event) : Prop :=
  ∃ descriptor id, Event.loop loop (.withdrawn descriptor id) ∈ events

theorem Quiet.not_withdraws (h : Quiet events before after) : ¬ Withdraws loop events :=
  fun ⟨_, _, mem⟩ => h.no_loop _ mem

theorem withdraws_append {late early : List Event} :
    Withdraws loop (late ++ early) ↔ Withdraws loop late ∨ Withdraws loop early := by
  simp only [Withdraws, List.mem_append, exists_or]

/-- An operation that withdraws from its loop exactly when its answer is of some kind. -/
def WithdrawsOn {α : Type} (host : Host ω) (loop : LoopId) (registration : Registration)
    (action : Step ω α) (failed : α → Prop) : Prop :=
  ∀ machine, ∃ events, Trace host (.operation loop registration) events machine (action machine).2 ∧
    (Withdraws loop events ↔ failed (action machine).1)

namespace WithdrawsOn

variable {α β : Type}

theorem pure {a : α} {failed : α → Prop} (hf : ¬ failed a) :
    WithdrawsOn host loop registration (pure a : Step ω α) failed := fun machine =>
  ⟨[], .quiet (.refl machine), iff_of_false (Quiet.refl machine).not_withdraws hf⟩

theorem afterQuiet {action : Step ω α} {next : α → Step ω β} {failed : β → Prop} (h : Quietly action)
    (hn : ∀ a, WithdrawsOn host loop registration (next a) failed) :
    WithdrawsOn host loop registration (action >>= next) failed := by
  intro machine
  obtain ⟨early, quiet⟩ := h machine
  obtain ⟨late, trace, same⟩ := hn (action machine).1 (action machine).2
  refine ⟨late ++ early, .seq (.quiet quiet) trace, ?_⟩
  rw [withdraws_append, or_iff_left quiet.not_withdraws]
  exact same

theorem map {action : Step ω α} {change : α → β} {failed : α → Prop} {failed' : β → Prop}
    (h : WithdrawsOn host loop registration action failed) (hf : ∀ a, failed' (change a) ↔ failed a) :
    WithdrawsOn host loop registration (action >>= fun a => Pure.pure (change a)) failed' := by
  intro machine
  obtain ⟨events, trace, same⟩ := h machine
  exact ⟨events, trace, same.trans (hf _).symm⟩

theorem withdraw {answer : α} {failed : α → Prop} (hf : failed answer) :
    WithdrawsOn host loop registration
      (withdraw host loop registration.descriptor registration.callback >>= fun _ => Pure.pure answer)
      failed := by
  intro machine
  obtain ⟨events, released⟩ := quietly_releaseOld host _ (machine.updateRegistry loop
    (.withdrawn registration.descriptor registration.callback) (·.remove registration.descriptor))
  refine ⟨_, .seq (.withdraw machine loop registration) (.quiet released), iff_of_true ?_ hf⟩
  exact ⟨registration.descriptor, registration.callback, by simp⟩

end WithdrawsOn

/-- A listener withdraws when it fails, and not when there is no connection yet. -/
theorem withdrawsOn_accept (host : Host ω) (loop : LoopId) (registration : Registration)
    (socket : SocketId) (keep : Option String) (ready : Interest) :
    WithdrawsOn host loop registration (acceptResult host loop registration.callback socket keep
      registration.descriptor ready) fun answer => ∃ failure, answer = some (.error failure) := by
  unfold acceptResult
  split
  · exact .withdraw ⟨_, rfl⟩
  · refine .afterQuiet .get fun machine => .afterQuiet (quietly_accept host _) fun result => ?_
    split
    · refine .afterQuiet (quietly_placeAccepted host _ _ _) fun id => .pure ?_
      rintro ⟨failure, same⟩
      cases same
    · refine .pure ?_
      rintro ⟨failure, same⟩
      cases same
    · exact .withdraw ⟨_, rfl⟩

theorem withdrawsOn_respond (host : Host ω) (loop : LoopId) (registration : Registration)
    (operation : Operation) (ready : Interest) :
    WithdrawsOn host loop registration
      (respond host loop registration.callback operation registration.descriptor ready)
      fun notice => ∃ failure, notice = some (.accepted (.error failure)) := by
  cases operation with
  | watch =>
    refine .pure ?_
    rintro ⟨failure, same⟩
    cases same
  | connect socket =>
    refine .afterQuiet (quietly_connectResult host _ _) fun result => .pure ?_
    rintro ⟨failure, same⟩
    cases same
  | accept socket keep =>
    apply (withdrawsOn_accept host loop registration socket keep ready).map
    intro answer
    cases answer <;> simp
  | send socket data =>
    refine .afterQuiet (quietly_sendResult host _ _ _) fun result => .pure ?_
    rintro ⟨failure, same⟩
    cases same
  | recv socket buffer =>
    refine .afterQuiet (quietly_recvResult host _ _ _) fun result => .pure ?_
    rintro ⟨failure, same⟩
    cases same

/-- While no callback drives the loop re-entrantly, code withdraws nothing from it. -/
theorem not_withdraws_code (h : Trace host .code events before after)
    (calm : Calm loop before.snapshots.length events) : ¬ Withdraws loop events := by
  rintro ⟨descriptor, id, mem⟩
  obtain ⟨depth, ready, dispatched⟩ | ⟨_, handled, _⟩ := h.withdrawn mem
  · obtain ⟨deeper, -⟩ | ⟨_, cycle, _⟩ := h.dispatched dispatched
    · exact absurd (calm.depth_eq dispatched) (Nat.ne_of_gt deeper)
    · cases cycle
  · cases handled

def ToldFailure (events : List Event) (id : CallbackId) : Prop :=
  ∃ code failure loops, Event.callback id code (.accepted (.error failure)) loops ∈ events

theorem responded_withdraws {machine middle : Machine ω} {answer : Option Notice}
    (response : respond host loop registration.callback operation registration.descriptor ready machine =
      (answer, middle))
    (trace : Trace host (.operation loop registration) events machine middle) :
    Withdraws loop events ↔ ∃ failure, answer = some (.accepted (.error failure)) := by
  obtain ⟨responded, trace', same⟩ :=
    withdrawsOn_respond host loop registration operation ready machine
  rw [response] at trace' same
  have equal : events = responded :=
    List.append_cancel_right (trace.changes.journal.symm.trans trace'.changes.journal)
  exact equal ▸ same

theorem operation_silent (h : Trace host (.operation loop registration) events before after)
    (id : CallbackId) (code : CodeId) (notice : Notice) (loops : List EventLoop) :
    .callback id code notice loops ∉ events := by
  intro mem
  cases operation_events h rfl _ mem with
  | inl outward => cases outward
  | inr same => cases same

theorem told_withdraws {inner responded released : List Event} {middle inside : Machine ω}
    {id : CallbackId} {number : CodeId} {notice : Notice} {loops : List EventLoop}
    (code : Trace host .code inner middle inside) (calm : Calm loop middle.snapshots.length inner)
    (release : Quiet released before after) :
    Withdraws loop (released ++ (inner ++ (.callback id number notice loops :: responded))) ↔
      Withdraws loop responded := by
  rw [withdraws_append, withdraws_append, or_iff_right release.not_withdraws,
    or_iff_right (not_withdraws_code code calm)]
  simp [Withdraws]

/-- A dispatch withdraws from its loop exactly when it tells a failure to accept. -/
theorem reaction_withdraws (h : Trace host (.reaction loop registration ready) events before after)
    (found : before.Found loop registration) (calm : Calm loop before.snapshots.length events) :
    Withdraws loop events ↔ ToldFailure events registration.callback := by
  cases h with
  | spent => simp [Withdraws, ToldFailure]
  | overlooked _ _ _ response operation release =>
    refine iff_of_false (fun withdraws => ?_) ?_
    · cases withdraws_append.mp withdraws with
      | inl late => exact release.not_withdraws late
      | inr early =>
        obtain ⟨failure, same⟩ := (responded_withdraws response operation).mp early
        cases same
    · rintro ⟨code, failure, loops, mem⟩
      cases List.mem_append.mp mem with
      | inl late => exact release.no_callback _ _ _ _ late
      | inr early => exact operation_silent operation _ _ _ _ early
  | @told _ middle inside _ _ _ _ callback notice responded inner released known _ gone response
      operation code _ release =>
    have begun : Changes _ before (middle.told registration.callback callback.code notice) :=
      ((Change.start known gone).once.trans operation.changes).step (.tell middle _ _ _)
    have deep : (middle.told registration.callback callback.code notice).snapshots =
        before.snapshots := operation.snapshots
    have calm' : Calm loop (middle.told registration.callback callback.code notice).snapshots.length
        inner := by
      rw [deep]
      exact calm.mono fun event mem => by simp [mem]
    rw [told_withdraws code calm' release,
      responded_withdraws response operation]
    constructor
    · rintro ⟨failure, same⟩
      cases same
      exact ⟨callback.code, failure, middle.loops, by simp⟩
    · rintro ⟨number, failure, loops, mem⟩
      have silent := not_started_inside code (found.changes begun) calm'
        (fun _ _ cycle => nomatch cycle) (Place.not_handles rfl)
      simp only [List.mem_append, release.no_callback, silent, List.mem_cons, false_or,
        operation_silent operation, or_false] at mem
      cases mem
      exact ⟨failure, rfl⟩

theorem accepts_of_respond {machine : Machine ω} {id : CallbackId} {descriptor : Descriptor}
    {result : Outcome (SocketId × Address)}
    (h : (respond host loop id operation descriptor ready machine).1 = some (.accepted result)) :
    operation.accepts = true := by
  cases operation with
  | accept => rfl
  | watch => cases h
  | connect socket =>
    have h : some (Notice.connected _) = some (.accepted result) := h
    cases h
  | send socket data =>
    have h : some (Notice.sent _) = some (.accepted result) := h
    cases h
  | recv socket buffer =>
    have h : some (Notice.received _ _) = some (.accepted result) := h
    cases h

theorem reaction_accepts (h : Trace host (.reaction loop registration ready) events before after)
    (calm : Calm loop before.snapshots.length events) (withdraws : Withdraws loop events) :
    ∃ seen, before.view? registration.callback = some seen ∧ seen.operation.accepts = true := by
  cases h with
  | spent => obtain ⟨_, _, mem⟩ := withdraws; cases mem
  | overlooked _ _ _ response operation release =>
    rw [withdraws_append, or_iff_right release.not_withdraws, responded_withdraws response operation]
      at withdraws
    obtain ⟨failure, same⟩ := withdraws
    cases same
  | @told _ middle inside _ _ _ _ callback notice responded inner released known _ gone response
      operation code _ release =>
    have deep : (middle.told registration.callback callback.code notice).snapshots =
        before.snapshots := operation.snapshots
    have calm' : Calm loop (middle.told registration.callback callback.code notice).snapshots.length
        inner := by
      rw [deep]
      exact calm.mono fun event mem => by simp [mem]
    rw [told_withdraws code calm' release,
      responded_withdraws response operation] at withdraws
    obtain ⟨failure, same⟩ := withdraws
    rw [same] at response
    exact ⟨callback.uncounted, view?_of_callback? known, accepts_of_respond (congrArg Prod.fst response)⟩

end NetReactor.Machine
