import NetReactor.Proofs.Loop.Listener
import NetReactor.Proofs.Loop.Replacement
/-!
Whatever the program and the kernel do, a listener that nobody disturbs attends to its descriptor: its dispatches are
visits, and they end with the first failure.
-/
namespace NetReactor.Machine

variable {ω : Type} {host : Host ω} {place : Place} {events late early : List Event}
variable {before after machine middle last : Machine ω} {loop : LoopId} {listener : Registration}
variable {ready : Interest} {socket : SocketId} {code : CodeId}

@[simp] theorem sockets_announced (machine : Machine ω) (loop : LoopId) (registration : Registration)
    (ready : Interest) : (machine.announced loop registration ready).sockets = machine.sockets := by
  unfold announced retiring
  split <;> rfl

/-- A callback that is not for a single dispatch is never spent. -/
theorem History.lasting (history : machine.History)
    (made : .loop loop (.registered listener) ∈ machine.journal) (again : listener.once = false) :
    ∃ seen, machine.view? listener.callback = some seen ∧ seen.spent = false := by
  obtain ⟨outside, all⟩ := history
  obtain ⟨late, early, split⟩ := List.append_of_mem made
  obtain ⟨-, seen, -, -, -, view, once, fresh⟩ := all.made_for split
  exact ⟨seen, view, fresh (once.trans again)⟩

/-- A registration is made only once. -/
theorem History.made_once (history : machine.History)
    (split : machine.journal = late ++ .loop loop (.registered listener) :: early) :
    .loop loop (.registered listener) ∉ late := by
  obtain ⟨outside, all⟩ := history
  obtain ⟨middle, interest, callback, -, -, -, -, placed, later⟩ := all.at_registered split
  intro mem
  have again := (later.registered mem).1
  have number : listener.callback = middle.callbacks.length := congrArg Registration.callback placed
  rw [number, length_enrolled] at again
  exact absurd again (Nat.not_succ_le_self _)

/-- What happens before and after some changes, since a registration that was made before them. -/
theorem Changes.since_made (changes : Changes events before after) (history : before.History)
    (made : .loop loop (.registered listener) ∈ before.journal)
    (split : after.journal = late ++ .loop loop (.registered listener) :: early) :
    ∃ rest, late = events ++ rest ∧
      before.journal = rest ++ .loop loop (.registered listener) :: early := by
  rw [changes.journal] at split
  obtain ⟨rest, inside, -⟩ | ⟨rest, earlier, rfl⟩ := split_append split
  · have mem : .loop loop (.registered listener) ∈ events := by simp [inside]
    have new := (changes.registered mem).1
    exact absurd (history.lt_callbacks made) (Nat.not_lt_of_le new)
  · exact ⟨rest, rfl, earlier⟩

/-- A callback is dispatched by the loop that it is registered with. -/
theorem dispatched_by (h : Trace host .code events before after) (history : before.History)
    (made : .loop loop (.registered listener) ∈ before.journal)
    (dispatched : Dispatched events listener.callback) :
    ∃ depth descriptor ready, .loop loop (.dispatched depth listener.callback descriptor ready) ∈ events := by
  obtain ⟨other, depth, descriptor, ready, mem⟩ := dispatched
  obtain ⟨-, old, knows, same, -⟩ | ⟨_, cycle, -⟩ := h.dispatched mem
  · have made' : .loop other (.registered old) ∈ after.journal := by
      rw [h.changes.journal]
      exact knows.elim (fun present => List.mem_append_right _ (history.registered present))
        (List.mem_append_left _)
    have here := (history.changes h.changes).unique
      (h.changes.journal ▸ List.mem_append_right _ made) made' same
    exact ⟨depth, descriptor, ready, here.1 ▸ mem⟩
  · cases cycle

theorem Responds.listens {isOpen : Bool} {keep : Option String} {calls : List Event} {notice : Option Notice}
    (h : Responds machine loop listener ready isOpen (.accept socket keep) calls notice) :
    ∃ answer, notice = answer.map .accepted ∧ Listens machine loop listener ready isOpen calls answer := by
  cases h with
  | accept listens => exact ⟨_, rfl, listens⟩

section
variable {keep : Option String} {callback : Callback} {notice : Option Notice} {responded : List Event}

/-- The operation of a listener does what it should. -/
theorem respond_listens (history : before.History)
    (made : .loop loop (.registered listener) ∈ before.journal)
    (known : before.callback? listener.callback = some callback)
    (accepts : callback.operation = .accept socket keep)
    (response : respond host loop listener.callback callback.operation listener.descriptor ready
      (before.started listener.callback) = (notice, middle))
    (operation : Trace host (.operation loop listener) responded (before.started listener.callback) middle) :
    ∃ answer, notice = answer.map .accepted ∧
      Listens middle loop listener ready (before.socketAt socket).isOpen responded answer := by
  have responds := history.responds made known response operation.changes.journal
  rw [accepts] at responds
  exact responds.listens

theorem closing_release {released : List Event} {id : CallbackId}
    (lets : (releaseCallback host id machine).2 = last) (release : Quiet released machine last) :
    Closing released := by
  obtain ⟨closed, closing, journal⟩ := closes_releaseCallback host id machine
  rw [lets] at journal
  have same : released = closed := List.append_cancel_right (release.journal.symm.trans journal)
  exact same ▸ closing

end

/-- A dispatch of a listener is a visit, unless it is driven re-entrantly. -/
theorem reaction_visit {keep : Option String} {depth : Nat}
    (h : Trace host (.reaction loop listener ready) events before after) (history : before.History)
    (made : .loop loop (.registered listener) ∈ before.journal)
    (stands : before.Stands listener.callback (.accept socket keep) code false)
    (same : before.snapshots.length = depth)
    (solo : Solo loop (events ++ [.loop loop (.dispatched depth listener.callback listener.descriptor ready)]))
    (grows : Grows after last) :
    ∃ answer, Visit last loop listener code (before.socketAt socket).isOpen
      (.loop loop (.finished depth listener.callback) :: (events ++
        [.loop loop (.dispatched depth listener.callback listener.descriptor ready)])) answer := by
  obtain ⟨seen, view, accepts, rfl, again⟩ := stands
  obtain ⟨_, view', once⟩ := (history.found made).known
  cases view.symm.trans view'
  obtain ⟨_, view', lasting⟩ := history.lasting made (once.symm.trans again)
  cases view.symm.trans view'
  have alone := solo.not_inside h same
  cases h with
  | spent known spent =>
    cases view.symm.trans (view?_of_callback? known)
    exact absurd spent (Bool.eq_false_iff.mp lasting)
  | @overlooked _ middle _ _ _ _ _ responded released known _ gone response operation lets release =>
    cases view.symm.trans (view?_of_callback? known)
    obtain ⟨answer, silent, listens⟩ := respond_listens history made known accepts response operation
    cases answer with
    | some result => cases silent
    | none =>
      have later : Grows middle last :=
        ((Change.finish middle listener.callback).grows.trans release.grows).trans grows
      refine ⟨none, ?_⟩
      rw [List.append_assoc]
      exact .silent (listens.grows later) (closing_release lets release)
  | @told _ middle inside _ _ _ _ callback notice responded inner released known _ gone response operation
      trace lets release =>
    cases view.symm.trans (view?_of_callback? known)
    obtain ⟨answer, told, listens⟩ := respond_listens history made known accepts response operation
    cases answer with
    | none => cases told
    | some result =>
      cases told
      have begun : Changes (.callback listener.callback callback.code (.accepted result) middle.loops ::
          responded) before (middle.told listener.callback callback.code (.accepted result)) := by
        simpa using ((Change.start known gone).once.trans operation.changes).step (.tell _ _ _ _)
      have told := history.changes begun
      have made' : .loop loop (.registered listener) ∈
          (middle.told listener.callback callback.code (.accepted result)).journal := by
        rw [begun.journal]
        exact List.mem_append_right _ made
      have aside : ∀ event ∈ inner, event.isOf listener.callback = false := by
        refine trace.not_of told made' fun dispatched => ?_
        obtain ⟨deep, descriptor, mask, mem⟩ := dispatched_by trace told made' dispatched
        exact alone deep listener.callback descriptor mask (by simp [mem])
      have later : Grows middle last :=
        (((grows_told middle listener.callback callback.code _).trans trace.changes.grows).trans
          ((Change.finish inside listener.callback).grows.trans release.grows)).trans grows
      refine ⟨some result, ?_⟩
      simp only [List.append_assoc, List.cons_append]
      exact .told (listens.grows later) aside (closing_release lets release)

def Heard (last : Machine ω) (loop : LoopId) (listener : Registration) (socket : SocketId) (code : CodeId)
    (machine : Machine ω) : Prop :=
  ∀ late early, machine.journal = late ++ .loop loop (.registered listener) :: early →
    Undisturbed loop listener late → ∃ answers, Attends last loop listener socket code answers late

def Place.Ready (machine : Machine ω) (loop : LoopId) (listener : Registration) (events : List Event) :
    Place → Prop
  | .stretch (.cycle other found) => other = loop → listener ∈ found →
    Calm loop machine.snapshots.length events ∧
      ((dispatches loop machine.snapshots.length events).map (·.1)).Nodup ∧
      (listener.callback ∈ (dispatches loop machine.snapshots.length events).map (·.1) →
        listener ∈ machine.entries loop)
  | _ => True

theorem mem_dispatches {depth : Nat} {id : CallbackId} {descriptor : Descriptor}
    (mem : .loop loop (.dispatched depth id descriptor ready) ∈ events) :
    id ∈ (dispatches loop depth events).map (·.1) := by
  refine List.mem_map.mpr ⟨(id, descriptor, ready), List.mem_filterMap.mpr ⟨_, List.mem_reverse.mpr mem, ?_⟩,
    rfl⟩
  simp [dispatch?]

theorem Stands.earlier {id : CallbackId} {operation : Operation} {once : Bool} {seen : Callback}
    (h : last.Stands id operation code once) (view : machine.view? id = some seen) (grows : Grows machine last) :
    machine.Stands id operation code once := by
  obtain ⟨current, view', is⟩ := h
  obtain same | run := grows.callback _ _ view
  · cases same.symm.trans view'
    exact ⟨seen, view, is⟩
  · cases run.symm.trans view'
    exact ⟨seen, view, is⟩

/-- What is registered has not withdrawn. -/
theorem not_withdrawn (history : machine.History) (mem : listener ∈ machine.entries loop)
    (split : machine.journal = late ++ .loop loop (.registered listener) :: early) :
    withdrawal loop listener ∉ late := by
  intro gone
  obtain ⟨after, before, rfl⟩ := List.append_of_mem gone
  have entries : machine.entries loop = (replayed loop machine.journal Registry.empty).entries :=
    congrArg Registry.entries (history.tracked loop (lt_of_mem_entries mem))
  rw [entries, split, List.append_assoc, replayed_append] at mem
  obtain still | again := mem_of_mem_replayed mem
  · rw [List.cons_append, withdrawal, replayed, if_pos rfl] at still
    exact (Registry.mem_remove.mp still).2 rfl
  · exact history.made_once split (List.mem_append_left _ again)

/-- A listener that has not withdrawn is registered. -/
theorem mem_entries_of_armed (history : machine.History) (known : loop < machine.loops.length)
    (split : machine.journal = late ++ .loop loop (.registered listener) :: early)
    (undisturbed : Undisturbed loop listener late) (armed : withdrawal loop listener ∉ late)
    (unretired : .loop loop (.retired listener.descriptor listener.callback) ∉ late) :
    listener ∈ machine.entries loop := by
  have stays := undisturbed.stay?_eq armed unretired early
  have stands : stay? loop listener.descriptor (.loop loop (.registered listener) :: early) =
      some ⟨((stay? loop listener.descriptor early).map (·.since)).getD early.length, listener⟩ := by
    rw [stay?, if_pos rfl, LoopEvent.update, if_pos rfl]
  rw [← split, stands] at stays
  exact mem_of_stay? history known stays

namespace Heard

/-- What is not about the listener does not matter. -/
theorem aside (heard : Heard last loop listener socket code before) (changes : Changes events before after)
    (others : .loop loop (.registered listener) ∈ after.journal →
      ∀ event ∈ events, event.isOf listener.callback = false) :
    Heard last loop listener socket code after := by
  intro late early split undisturbed
  have apart := others (by rw [split]; simp)
  rw [changes.journal] at split
  obtain ⟨rest, inside, -⟩ | ⟨rest, earlier, rfl⟩ := split_append split
  · have nothing : Attends last loop listener socket code [] [] := .start
    have asides := nothing.asides fun event (mem : event ∈ late) => apart event (by simp [inside, mem])
    exact ⟨[], by simpa using asides⟩
  · obtain ⟨answers, attends⟩ := heard rest early earlier undisturbed.earlier
    exact ⟨answers, attends.asides apart⟩

variable {other : LoopId} {registration : Registration} {callback : Callback} {released : List Event}

/-- A callback with a result that is there at once is a new one. -/
theorem atOnce (heard : Heard last loop listener socket code machine) (history : machine.History)
    (spent : callback.spent = true) (notice : Notice) : Heard last loop listener socket code
      ((machine.withCallback callback).told machine.callbacks.length callback.code notice) := by
  refine heard.aside (changes_atOnce machine spent notice) fun made event mem => ?_
  cases List.mem_singleton.mp mem
  have earlier : .loop loop (.registered listener) ∈ machine.journal :=
    (List.mem_cons.mp made).resolve_left (by simp)
  exact beq_false_of_ne (Nat.ne_of_gt (history.lt_callbacks earlier))

/-- A registration for a single dispatch is another one. -/
theorem retire (heard : Heard last loop listener socket code machine) (history : machine.History)
    (listing : Listing machine other registration) (again : listener.once = false) :
    Heard last loop listener socket code (machine.retiring other registration) := by
  have changes := (Change.retire machine other registration).once
  refine heard.aside changes fun made event mem => ?_
  obtain ⟨single, rfl⟩ := mem_retirement.mp mem
  refine beq_false_of_ne fun same => ?_
  have listed := changes.journal ▸ List.mem_append_right _ listing.made
  obtain ⟨-, rfl⟩ := (history.changes changes).unique made listed same
  cases again.symm.trans single

theorem announce (heard : Heard last loop listener socket code machine) (ready : Interest)
    (apart : registration.callback ≠ listener.callback) :
    Heard last loop listener socket code (machine.announced other registration ready) := by
  refine heard.aside (changes_announced machine other registration ready) fun _ event mem => ?_
  obtain rfl | retired := List.mem_cons.mp mem
  · exact beq_false_of_ne apart
  · rw [(mem_retirement.mp retired).2]
    exact beq_false_of_ne apart

/-- The end of a reaction: its callback is not being run any more, and its socket is let go of. -/
theorem release {id : CallbackId} (heard : Heard last loop listener socket code machine)
    (release : Quiet released (machine.ended id) after) : Heard last loop listener socket code after :=
  (heard.aside (Change.finish machine id).once (by simp)).aside (Change.quiet release).once
    fun _ event mem => Event.isOf_outward (release.outward event mem)

end Heard

namespace Place.Ready

variable {stretch : Stretch}

theorem earlier (ready : (Place.stretch stretch).Ready machine loop listener (late ++ early)) :
    (Place.stretch stretch).Ready machine loop listener early := by
  cases stretch with
  | code => trivial
  | operation => trivial
  | cycle other found =>
    intro same member
    obtain ⟨calm, once, stands⟩ := ready same member
    rw [dispatches_append, List.map_append] at once stands
    exact ⟨calm.mono (List.subset_append_right _ _), (List.nodup_append.mp once).1,
      fun mem => stands (List.mem_append_left _ mem)⟩

/-- What a cycle found and did not dispatch yet is still registered. -/
theorem later (ready : (Place.stretch stretch).Ready before loop listener (late ++ early))
    (h : Trace host (.stretch stretch) early before middle) (history : before.History)
    (based : (Place.stretch stretch).Based before)
    (heard : Heard last loop listener socket code middle)
    (since : .loop loop (.registered listener) ∈ before.journal → ∃ rest old, middle.journal =
      rest ++ .loop loop (.registered listener) :: old ∧ Undisturbed loop listener rest) :
    (Place.stretch stretch).Ready middle loop listener late := by
  cases stretch with
  | code => trivial
  | operation => trivial
  | cycle other found =>
    intro same member
    obtain ⟨calm, once, stands⟩ := ready same member
    rw [dispatches_append, List.map_append] at once stands
    rw [h.snapshots]
    refine ⟨calm.mono (List.subset_append_left _ _), (List.nodup_append.mp once).2.1, fun mem => ?_⟩
    subst same
    have listing := based listener member
    have there := stands (List.mem_append_right _ mem)
    obtain ⟨rest, old, split, undisturbed⟩ := since listing.made
    obtain ⟨answers, attends⟩ := heard rest old split undisturbed
    obtain ⟨rest, rfl, earlier⟩ := h.changes.since_made history listing.made split
    refine mem_entries_of_armed (history.changes h.changes) (Nat.lt_of_lt_of_le listing.known h.changes.grows.loops)
      split undisturbed (fun withdrawn => ?_) (attends.not_retired other listener.descriptor)
    obtain inside | before := List.mem_append.mp withdrawn
    · obtain ⟨depth, mask, dispatched⟩ | ⟨_, handled, -⟩ := h.withdrawn inside
      · have depth := (calm.mono (List.subset_append_right _ _)).depth_eq dispatched
        subst depth
        exact (List.nodup_append.mp once).2.2 _ (mem_dispatches dispatched) _ mem rfl
      · cases handled
    · exact not_withdrawn history there earlier before

end Place.Ready

/-- The dispatch of a listener is heard. -/
theorem Heard.dispatch {keep : Option String} {found : List Registration}
    (heard : Heard last loop listener socket code machine) (history : machine.History)
    (based : (Place.cycle loop found).Based machine) (member : listener ∈ found)
    (again : listener.once = false) (stands : last.Stands listener.callback (.accept socket keep) code false)
    (idle : listener.callback ∉ machine.executing)
    (h : Trace host (.reaction loop listener ready) events (machine.announced loop listener ready) after)
    (there : listener ∈ machine.entries loop) (grows : Grows after last) :
    Heard last loop listener socket code
      (after.note (.loop loop (.finished machine.snapshots.length listener.callback))) := by
  intro late early split undisturbed
  have listing := based listener member
  have changes := changes_announced machine loop listener ready
  obtain ⟨rest, rfl, earlier⟩ :=
    (Trace.dispatch member idle h).changes.since_made history listing.made split
  obtain ⟨answers, attends⟩ := heard rest early earlier undisturbed.earlier
  have armed : ∀ answer ∈ answers, fails answer = false := fun answer mem => Bool.eq_false_iff.mpr fun failed =>
    not_withdrawn history there earlier (attends.withdrawal_mem.mpr ⟨answer, mem, failed⟩)
  have kept : retirement loop listener = [] := by rw [retirement, if_neg (by simp [again])]
  have shape : .loop loop (.finished machine.snapshots.length listener.callback) :: (events ++
      (.loop loop (.dispatched machine.snapshots.length listener.callback listener.descriptor ready) ::
        retirement loop listener)) = [.loop loop (.finished machine.snapshots.length listener.callback)] ++
      (events ++ [.loop loop (.dispatched machine.snapshots.length listener.callback listener.descriptor ready)]) := by
    rw [kept]
    rfl
  rw [shape] at undisturbed ⊢
  obtain ⟨seen, view, opened⟩ := history.opened earlier
  have begun := history.changes changes
  obtain ⟨answer, visit⟩ := reaction_visit h begun (changes.journal ▸ List.mem_append_right _ listing.made)
    (stands.earlier ((view?_announced ..).trans view) (h.changes.grows.trans grows)) (by simp)
    (Solo.earlier (Solo.later undisturbed.solo)) grows
  refine ⟨answer :: answers, attends.visit armed (fun shut => ?_) visit⟩
  obtain ⟨_, view', accepts, -⟩ := stands.earlier view (changes.grows.trans (h.changes.grows.trans grows))
  cases view.symm.trans view'
  refine (opened socket (by rw [accepts]; rfl)).resolve_left fun isOpen => ?_
  rw [socketAt, sockets_announced] at shut
  rw [socketAt, shut] at isOpen
  cases isOpen

theorem Trace.heard {keep : Option String} (h : Trace host place events before after) (history : before.History)
    (based : place.Based before) (others : ¬ place.handles listener.callback)
    (again : listener.once = false) (prepared : place.Ready before loop listener events)
    (stands : last.Stands listener.callback (.accept socket keep) code false) (grows : Grows after last)
    (heard : Heard last loop listener socket code before) : Heard last loop listener socket code after := by
  induction h with
  | quiet h => exact heard.aside (Change.quiet h).once fun _ event mem => Event.isOf_outward (h.outward event mem)
  | poll current nonempty timeout reply outside =>
    exact heard.aside (Change.poll current nonempty timeout reply outside).once (by simp [Event.isOf])
  | @seq _ _ _ _ _ _ h h' ih ih' =>
    intro since past split undisturbed
    have middle := ih history based others prepared.earlier (h'.changes.grows.trans grows) heard
    refine ih' (history.changes h.changes) (based.changes h.changes h.executing) others ?_ grows middle since past
      split undisturbed
    refine prepared.later h history based middle fun made => ?_
    obtain ⟨rest, rfl, earlier⟩ := h'.changes.since_made (history.changes h.changes)
      (h.changes.journal ▸ List.mem_append_right _ made) split
    exact ⟨rest, past, earlier, undisturbed.earlier⟩
  | addLoop machine settings => exact heard.aside (Change.addLoop machine settings).once (by simp [Event.isOf])
  | register loop descriptor interest fresh fits apt =>
    exact heard.aside (Change.register loop descriptor interest fresh fits apt).once (by simp [Event.isOf])
  | remove machine loop descriptor =>
    exact heard.aside (Change.remove machine loop descriptor).once (by simp [Event.isOf])
  | @atOnce machine _ callback notice _ spent _ ih =>
    exact ih (history.changes (changes_atOnce machine spent notice)) trivial (Place.not_handles rfl) trivial grows
      (heard.atOnce history spent notice)
  | stop machine loop =>
    exact heard.aside ((Change.setRunning machine loop false).once.step (.stopped _ loop)) (by simp [Event.isOf])
  | @run machine after other _ _ ih =>
    exact ih (history.changes (Change.setRunning machine other true).once) trivial (Place.not_handles rfl) trivial
      ((grows_setRunning after other false).trans grows) heard
  | @cycle machine after other events once h ih =>
    intro since past split undisturbed
    have changes := changes_cycling machine other
    refine ih (history.changes changes)
      (fun registration mem => (history.listing mem).changes changes rfl) (Place.not_handles rfl) ?_
      ((Change.setSnapshots after machine.snapshots).grows.trans grows) heard since past split undisturbed
    rintro rfl mem
    obtain ⟨rest, rfl, -⟩ := h.changes.since_made (history.changes changes) (history.registered mem) split
    refine ⟨(Solo.later undisturbed.solo).calm h, once, fun _ => ?_⟩
    rw [entries_cycling]
    exact mem
  | skip member busy => exact heard.retire history (based _ member) again
  | @dispatch machine after other found registration now events member idle h ih =>
    have later := (Change.finished after other machine.snapshots.length registration.callback).grows.trans grows
    by_cases own : registration.callback = listener.callback
    · intro since past split undisturbed
      have whole := (Trace.dispatch member idle h).changes
      have listed := whole.journal ▸ List.mem_append_right _ (based registration member).made
      have made : .loop loop (.registered listener) ∈
          (after.note (.loop other (.finished machine.snapshots.length registration.callback))).journal := by
        rw [split]
        exact List.mem_append_right _ (List.mem_cons_self ..)
      obtain ⟨rfl, rfl⟩ := (history.changes whole).unique made listed own
      have there := (prepared rfl member).2.2
        (mem_dispatches (List.mem_cons_of_mem _ (List.mem_append_right _ (List.mem_cons_self ..))))
      exact heard.dispatch history based member again stands idle h there later since past split undisturbed
    · have changes := changes_announced machine other registration now
      have listing := (based registration member).changes changes (executing_announced _ _ _ _)
      have ran := ih (history.changes changes) ⟨listing, machine.snapshots.length, machine.journal,
        changes.journal⟩ (by rintro ⟨_, _, ⟨⟩, same⟩; exact own same) trivial later (heard.announce now own)
      refine ran.aside (Change.finished after other machine.snapshots.length registration.callback).once
        fun _ event mem => ?_
      cases List.mem_singleton.mp mem
      exact beq_false_of_ne own
  | withdraw machine other registration =>
    refine heard.aside (Change.withdraw machine other _ _).once fun _ event mem => ?_
    cases List.mem_singleton.mp mem
    exact beq_false_of_ne fun same => others ⟨other, registration, rfl, same⟩
  | spent => exact heard
  | @overlooked _ middle _ other registration _ _ _ _ known _ gone _ _ _ release ih =>
    have apart : ¬ (Place.operation other registration).handles listener.callback := others
    have finish := Change.finish middle registration.callback
    have responded := ih (history.changes (Change.start known gone).once) trivial apart trivial
      ((finish.grows.trans release.grows).trans grows) heard
    exact responded.release release
  | @told machine middle inside _ other registration _ callback notice _ _ _ known _ gone _ operation trace _
      release ih ih' =>
    have apart : ¬ (Place.operation other registration).handles listener.callback := others
    have start := (Change.start known gone).once
    have tell := Change.tell middle registration.callback callback.code notice
    have finish := Change.finish inside registration.callback
    have last := (finish.grows.trans release.grows).trans grows
    have responded := ih (history.changes start) trivial apart trivial
      ((tell.grows.trans trace.changes.grows).trans last) heard
    have told := responded.aside tell.once fun _ event mem => by
      cases List.mem_singleton.mp mem
      exact beq_false_of_ne fun same => others ⟨other, registration, rfl, same⟩
    have ran := ih' ((history.changes (start.trans operation.changes)).changes tell.once) trivial
      (Place.not_handles rfl) trivial last told
    exact ran.release release

structure Listening (machine : Machine ω) (loop : LoopId) (listener : Registration) (socket : SocketId)
    (code : CodeId) (late early : List Event) (answers : List (Option Accepted)) : Prop where
  attends : Attends machine loop listener socket code answers late
  -- Every answer that tells something is told once, in the order of the visits.
  told : starts [listener.callback] late =
    (answers.reverse.filterMap id).map fun result => (listener.callback, Notice.accepted result)
  failure : ∀ answer ∈ answers.tail, fails answer = false
  -- Until a failure it is registered at its place, and from then on it is gone.
  armed : (∀ answer ∈ answers, fails answer = false) → listener ∈ machine.entries loop ∧
    stay? loop listener.descriptor machine.journal =
      stay? loop listener.descriptor (.loop loop (.registered listener) :: early)
  gone : (∃ answer ∈ answers, fails answer = true) → listener ∉ machine.entries loop
  -- So it is when the code starts: it finds the listener registered at its place unless it is told a failure, and
  -- after that there is nothing more of the listener but the end of this dispatch.
  finds : ∀ after number notice found before, late =
      after ++ .callback listener.callback number notice found :: before →
    ∃ result, number = code ∧ notice = .accepted result ∧ some result ∈ answers ∧
      (fails (some result) = false → (found.getD loop {}).registry.lookup? listener.descriptor = some listener ∧
        stay? loop listener.descriptor (before ++ .loop loop (.registered listener) :: early) =
          stay? loop listener.descriptor (.loop loop (.registered listener) :: early)) ∧
      (fails (some result) = true → (found.getD loop {}).registry.lookup? listener.descriptor = none ∧
        ∀ event ∈ after, event.isOf listener.callback = true →
          ∃ depth, event = .loop loop (.finished depth listener.callback))

theorem stay?_registered (loop : LoopId) (listener : Registration) (early : List Event) :
    (stay? loop listener.descriptor (.loop loop (.registered listener) :: early)).map (·.registration) =
      some listener := by
  rw [stay?, if_pos rfl, LoopEvent.update, if_pos rfl]
  rfl

theorem Attends.listening {answers : List (Option Accepted)} (history : machine.History)
    (attends : Attends machine loop listener socket code answers late)
    (there : .loop loop .created ∈ early) (undisturbed : Undisturbed loop listener late)
    (split : machine.journal = late ++ .loop loop (.registered listener) :: early) :
    Listening machine loop listener socket code late early answers := by
  have unretired := attends.not_retired loop listener.descriptor
  constructor
  case attends => exact attends
  case told => exact attends.starts
  case failure => exact attends.failure_last
  case armed =>
    intro calm
    have armed : withdrawal loop listener ∉ late := fun mem => by
      obtain ⟨answer, mem, failed⟩ := attends.withdrawal_mem.mp mem
      rw [calm answer mem] at failed
      cases failed
    obtain ⟨outside, all⟩ := history
    have began : .loop loop .created ∈ machine.journal := by simp [split, there]
    have known := all.known began
    refine ⟨mem_entries_of_armed ⟨outside, all⟩ known split undisturbed armed unretired, ?_⟩
    rw [split]
    exact undisturbed.stay?_eq armed unretired early
  case gone =>
    exact fun failed mem => not_withdrawn history mem split (attends.withdrawal_mem.mpr failed)
  case finds =>
    rintro after number notice found before rfl
    obtain ⟨result, same, is, mem, kept, ended⟩ := attends.told_at rfl
    obtain ⟨outside, all⟩ := history
    rw [List.append_assoc, List.cons_append] at split
    obtain ⟨middle, earlier, rfl, -⟩ := all.at_callback split
    have history : middle.History := (History.new outside).changes earlier
    have journal : middle.journal = before ++ .loop loop (.registered listener) :: early := by
      simpa using earlier.journal
    have began : .loop loop .created ∈ before ++ .loop loop (.registered listener) :: early := by simp [there]
    have entry := (history.tracked.lists (earlier.known began)).entry listener.descriptor
    rw [journal] at entry
    refine ⟨result, same, is, mem, fun calm => ?_, fun failed => ⟨?_, (ended failed).2⟩⟩
    · rw [List.append_cons] at undisturbed
      have stays := undisturbed.earlier.stay?_eq (kept calm) (fun mem => unretired (by simp [mem])) early
      exact ⟨entry.trans (stays ▸ stay?_registered loop listener early), stays⟩
    · rw [(ended failed).1] at entry
      exact entry

structure KeepsListening (host : Host ω) (machine : Machine ω) : Prop where
  -- The call on an open socket makes one registration that waits for reading; what that replaces may close a
  -- socket.
  begins : ∀ (before : Machine ω) budget loop socket keep code after,
    (before.socketAt socket).isOpen = true →
    startAsync host (perform host budget) loop socket (.accept keep code) before = some ((), after) →
      (∃ closed, Closing closed ∧ after.journal = closed ++ .loop loop (.registered
        ⟨(before.socketAt socket).descriptor, Interest.read, before.callbacks.length, false⟩) :: before.journal) ∧
      (loop < before.loops.length → ⟨(before.socketAt socket).descriptor, Interest.read, before.callbacks.length,
        false⟩ ∈ after.entries loop) ∧
      after.Stands before.callbacks.length (.accept socket keep) code false
  -- As long as nobody disturbs it, its dispatches are visits, and they end with the first failure.
  listening : ∀ loop listener socket keep code, machine.Stands listener.callback (.accept socket keep) code false →
    ∀ late early, machine.journal = late ++ .loop loop (.registered listener) :: early →
      .loop loop .created ∈ early → Undisturbed loop listener late →
      ∃ answers, Listening machine loop listener socket code late early answers

theorem reachable_keepsListening (h : Reachable host machine) : KeepsListening host machine := by
  obtain ⟨outside, trace, -⟩ := h.trace
  constructor
  case begins =>
    intro before budget loop socket keep code after isOpen started
    rw [startAsync, run_get] at started
    dsimp only at started
    rw [if_pos isOpen] at started
    obtain ⟨closed, closing, journal, present, stands⟩ :=
      await_registers host loop socket Interest.read false (.accept socket keep) code before
    have last : (await host loop socket Interest.read false (.accept socket keep) code before).2 = after :=
      congrArg Prod.snd (Option.some.inj started)
    rw [last] at journal present stands
    exact ⟨⟨closed, closing, journal⟩, present, stands⟩
  case listening =>
    intro loop listener socket keep code stands late early split there undisturbed
    have made : .loop loop (.registered listener) ∈ machine.journal := by simp [split]
    obtain ⟨seen, view, -, -, once⟩ := id stands
    obtain ⟨_, view', single⟩ := (h.history.found made).known
    cases view.symm.trans view'
    have unheard : Heard machine loop listener socket code { outside } := fun late early split _ => by simp at split
    have heard := trace.heard (.new outside) trivial (Place.not_handles rfl) (single.symm.trans once) trivial stands
      (.refl machine) unheard
    obtain ⟨answers, attends⟩ := heard late early split undisturbed
    exact ⟨answers, attends.listening h.history there undisturbed split⟩

def exhaustedKernel : Kernel (Option Role)
  | .accept _ => fun
    | none => ({ result := -1, number := 11 }, some .client)
    | some .client => ({ result := 7, data := Address.encode (.v4 0 80) }, some .server)
    | some .server => ({ result := -1, number := 24 }, some .server)
  | .socket .. => pure { result := 6 }
  | call => readableKernel call

def exhaustedHost : Host (Option Role) := plainHost exhaustedKernel fun _ _ _ _ => .done

def acceptThrice : List (Action (Option Role)) :=
  [.loop (.create 0 {}), .socket (.create "listener" .v4 true), .socket (.async "listener" 0 (.accept none 0)),
    .loop (.request 0 (.runOnce none)), .loop (.request 0 (.runOnce none)), .loop (.request 0 (.runOnce none)),
    .loop (.request 0 (.runOnce none))]

def acceptances (events : List Event) : List (Option Error) :=
  events.filterMap fun
    | .callback _ _ (.accepted (.error failure)) _ => some (some failure)
    | .callback _ _ (.accepted (.ok _)) _ => some none
    | _ => none

theorem reachable_keepsListening_exhausted :
    ∃ machine late early, Reachable exhaustedHost machine ∧
      machine.journal = late ++ .loop 0 (.registered (accepting 0)) :: early ∧
      Undisturbed 0 (accepting 0) late ∧ acceptances late = [some .acceptFailed, none] ∧
      KeepsListening exhaustedHost machine := by
  have ran : (performAll exhaustedHost 2 acceptThrice { outside := none }).map (fun machine =>
      decide (machine.journal[17]?.bind registered? = some (0, accepting 0) ∧
        Along (fun early event => leaves 0 (accepting 0) early event = true) (machine.journal.take 17) ∧
        Solo 0 (machine.journal.take 17) ∧
        acceptances (machine.journal.take 17) = [some .acceptFailed, none])) = some true := by decide +kernel
  obtain ⟨machine, ran, checks⟩ := Option.map_eq_some_iff.mp ran
  obtain ⟨here, kept, solo, told⟩ := of_decide_eq_true checks
  have reachable := (Reachable.new none).performAll ran
  exact ⟨machine, _, _, reachable, split_of_registered? here, ⟨kept, solo⟩, told,
    reachable_keepsListening reachable⟩

end NetReactor.Machine
