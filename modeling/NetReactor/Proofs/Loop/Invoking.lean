import NetReactor.Proofs.Loop.Confined
/-!
What a cycle invokes, at any depth and whatever the cycles inside it do. It goes through what was ready among the
registrations that it found, in their order. It passes over those whose callbacks are being executed, and leaves
them alone. All others it dispatches, and their code starts then and there, unless a callback was for a single
dispatch and a cycle inside has had that.
-/
namespace NetReactor.Machine

variable {ω : Type} {host : Host ω} {place : Place} {events late early : List Event}
variable {before after machine : Machine ω} {loop : LoopId} {registration : Registration}
variable {entry : PollEntry} {entries : List (PollEntry × Registration)} {count : Nat} {id : CallbackId}
variable {descriptor : Descriptor} {ready : Interest} {does : Action ω → Run ω Answer}

def Had (machine : Machine ω) (id : CallbackId) : Prop :=
  ∃ seen, machine.view? id = some seen ∧ (seen.once = true → seen.spent = true)

theorem Had.grows (h : before.Had id) (grows : Grows before after) : after.Had id := by
  obtain ⟨seen, view, spent⟩ := h
  obtain same | run := grows.callback id seen view
  · exact ⟨seen, same, spent⟩
  · exact ⟨seen.run, run, fun once => once⟩

theorem had_started {callback : Callback} (known : machine.callback? id = some callback) :
    (machine.started id).Had id := by
  refine ⟨callback.uncounted.run, ?_, fun once => once⟩
  rw [view?_started, if_pos rfl, view?_of_callback? known]
  rfl

theorem had_reaction (h : Trace host (.reaction loop registration ready) events before after) :
    after.Had registration.callback := by
  cases h with
  | @spent _ _ _ _ callback known spent => exact ⟨callback.uncounted, view?_of_callback? known, fun _ => spent⟩
  | overlooked known _ _ _ operation release =>
    have changes := (operation.changes.step (.finish _ _)).step (.quiet release)
    exact (had_started known).grows changes.grows
  | told known _ _ _ operation code release =>
    have changes := ((operation.changes.step (.tell _ _ _ _)).trans code.changes).step
      (.finish _ registration.callback)
    exact (had_started known).grows (changes.step (.quiet release)).grows

/-- Whatever was dispatched has had that. -/
theorem Trace.had (h : Trace host place events before after) (dispatched : Dispatched events id) :
    after.Had id := by
  induction h with
  | quiet h =>
    obtain ⟨loop, depth, descriptor, ready, mem⟩ := dispatched
    exact absurd mem (h.no_loop _)
  | seq _ h' ih ih' =>
    obtain ⟨loop, depth, descriptor, ready, mem⟩ := dispatched
    obtain late | early := List.mem_append.mp mem
    · exact ih' ⟨loop, depth, descriptor, ready, late⟩
    · exact (ih ⟨loop, depth, descriptor, ready, early⟩).grows h'.changes.grows
  | atOnce _ _ ih =>
    obtain ⟨loop, depth, descriptor, ready, mem⟩ := dispatched
    exact ih ⟨loop, depth, descriptor, ready, by simpa using mem⟩
  | @run _ after loop _ _ ih => exact (ih dispatched).grows (Change.setRunning after loop false).grows
  | @cycle machine after _ _ _ _ ih =>
    exact (ih dispatched).grows (Change.setSnapshots after machine.snapshots).grows
  | @dispatch machine after loop _ registration _ _ _ _ h ih =>
    obtain ⟨other, depth, descriptor, ready, mem⟩ := dispatched
    have closed := (Change.finished after loop machine.snapshots.length registration.callback).grows
    simp only [List.mem_cons, List.mem_append, reduceCtorEq, mem_retirement, Event.loop.injEq, and_false,
      false_or, or_false] at mem
    obtain inside | ⟨-, own⟩ := mem
    · exact (ih ⟨other, depth, descriptor, ready, inside⟩).grows closed
    · cases own
      exact (had_reaction h).grows closed
  | overlooked _ _ _ _ operation release =>
    obtain ⟨loop, depth, descriptor, ready, mem⟩ := dispatched
    obtain late | responded := List.mem_append.mp mem
    · exact absurd late (release.no_loop _)
    · cases unmarked_operation operation _ responded
  | told _ _ _ _ operation _ release _ ih' =>
    obtain ⟨loop, depth, descriptor, ready, mem⟩ := dispatched
    simp only [List.mem_append, release.no_loop, List.mem_cons, reduceCtorEq, false_or] at mem
    obtain inside | responded := mem
    · exact (ih' ⟨loop, depth, descriptor, ready, inside⟩).grows
        ((Change.finish _ _).once.step (.quiet release)).grows
    · cases unmarked_operation operation _ responded
  | _ =>
    obtain ⟨loop, depth, descriptor, ready, mem⟩ := dispatched
    simp at mem

/-- How a cycle came to a dispatch of its own, and what became of that. -/
theorem Walk.at_dispatched (h : Walk host loop entries count events machine after)
    (split : events = late ++ .loop loop (.dispatched machine.snapshots.length id descriptor ready) :: early) :
    ∃ (before : List (PollEntry × Registration)) (entry : PollEntry) (registration : Registration)
      (rest : List (PollEntry × Registration)) (ran : Nat) (past others inner : List Event)
      (middle inside : Machine ω),
      entries = before ++ (entry, registration) :: rest ∧
      (registration.callback = id ∧ registration.descriptor = descriptor ∧ entry.returned = ready) ∧
      Walk host loop before ran past machine middle ∧
      Trace host (.reaction loop registration entry.returned) inner
        (middle.announced loop registration entry.returned) inside ∧
      early = retirement loop registration ++ past ∧
      late = others ++ .loop loop (.finished machine.snapshots.length id) :: inner := by
  induction h generalizing late early with
  | nil => simp at split
  | @cons entry registration rest ran count first others machine middle last h h' ih =>
    have same := (h.trace (List.mem_singleton.mpr rfl)).snapshots
    obtain ⟨between, inside, rfl⟩ | ⟨between, inside, rfl⟩ := split_append split
    · rw [← same] at inside
      obtain ⟨before, entry', registration', rest', ran', past, others', inner, middle', inside', rfl, is, walk,
        reaction, rfl, rfl⟩ := ih inside
      exact ⟨(entry, registration) :: before, entry', registration', rest', _, _, others', inner, middle',
        inside', rfl, is, .cons h walk, reaction, List.append_assoc .., by rw [same]⟩
    · cases h with
      | unready => simp at inside
      | busy =>
        have mem : Event.loop loop (.dispatched machine.snapshots.length id descriptor ready) ∈
            retirement loop registration := by simp [inside]
        simp at mem
      | @ran _ ended inner isReady idle reaction =>
        obtain ⟨_, rfl, rest'⟩ := cons_split (by simp) inside
        obtain ⟨_, deeper, -⟩ | ⟨between, own, rfl⟩ := split_append rest'
        · -- The cycles inside of the reaction are deeper than this one.
          obtain ⟨deep, -⟩ | ⟨_, place, _⟩ := reaction.dispatched
            (deeper ▸ List.mem_append_right _ List.mem_cons_self)
          · rw [snapshots_announced] at deep
            exact absurd deep (Nat.lt_irrefl _)
          · cases place
        · cases between with
          | nil =>
            obtain ⟨same, rfl⟩ := List.cons.inj own
            cases same
            exact ⟨[], entry, registration, rest, 0, [], others, inner, machine, ended, rfl, ⟨rfl, rfl, rfl⟩,
              .nil machine, reaction, (List.append_nil _).symm, by simp⟩
          | cons event between =>
            have mem : Event.loop loop (.dispatched machine.snapshots.length id descriptor ready) ∈
                retirement loop registration := by simp [(List.cons.inj own).2]
            simp at mem

def DispatchedDeeper (depth : Nat) (id : CallbackId) (events : List Event) : Prop :=
  ∃ loop deep descriptor ready, depth < deep ∧ .loop loop (.dispatched deep id descriptor ready) ∈ events

/-- What a dispatch of a cycle comes to, given the events before it in that cycle. One of a callback for a single
dispatch that a cycle inside has had is over at once. Any other one that has something to tell starts the code of
its callback, with at most calls before that, and a watcher is told its descriptor and what was reported. -/
structure Invoked (loop : LoopId) (depth : Nat) (id : CallbackId) (seen : Callback) (descriptor : Descriptor)
    (ready : Interest) (early late : List Event) : Prop where
  spent : seen.once = true → DispatchedDeeper depth id early →
    ∃ others, late = others ++ [.loop loop (.finished depth id)]
  starts : ¬ (seen.once = true ∧ DispatchedDeeper depth id early) → seen.operation.accepts = false →
    ∃ others code notice found calls, late = others ++ .callback id code notice found :: calls ∧
      (∀ event ∈ calls, event.isOutward = true) ∧
      (seen.operation = .watch → notice = .ready descriptor ready)

theorem Invoked.within {depth : Nat} {seen : Callback} (h : Invoked loop depth id seen descriptor ready early late)
    (before after : List Event) (unmarked : ∀ event ∈ before, event.marks = false) :
    Invoked loop depth id seen descriptor ready (early ++ before) (after ++ late) := by
  have deeper : DispatchedDeeper depth id (early ++ before) ↔ DispatchedDeeper depth id early := by
    constructor
    · rintro ⟨other, deep, descriptor, ready, deeper, mem⟩
      obtain here | there := List.mem_append.mp mem
      · exact ⟨other, deep, descriptor, ready, deeper, here⟩
      · cases unmarked _ there
    · rintro ⟨other, deep, descriptor, ready, deeper, mem⟩
      exact ⟨other, deep, descriptor, ready, deeper, List.mem_append_left _ mem⟩
  constructor
  case spent =>
    intro once dispatched
    obtain ⟨others, rfl⟩ := h.spent once (deeper.mp dispatched)
    exact ⟨after ++ others, (List.append_assoc ..).symm⟩
  case starts =>
    intro unspent tells
    rw [deeper] at unspent
    obtain ⟨others, code, notice, found, calls, rfl, outward, watched⟩ := h.starts unspent tells
    exact ⟨after ++ others, code, notice, found, calls, (List.append_assoc ..).symm, outward, watched⟩

/-- A callback that is spent does nothing. -/
theorem reaction_spent {seen : Callback} (h : Trace host (.reaction loop registration ready) events before after)
    (view : before.view? registration.callback = some seen) (spent : seen.spent = true) : events = [] := by
  have same {callback : Callback} (known : before.callback? registration.callback = some callback) :
      callback.spent = true := by
    rw [view?_of_callback? known] at view
    cases view
    exact spent
  cases h with
  | spent => rfl
  | overlooked known fresh => cases (same known).symm.trans fresh
  | told known fresh => cases (same known).symm.trans fresh

theorem Walk.invoked (h : Walk host loop entries count events machine after)
    (distinct : (entries.map (·.2.callback)).Nodup)
    (known : ∀ pair ∈ entries, ∃ seen, machine.view? pair.2.callback = some seen ∧ seen.spent = false)
    (split : events = late ++ .loop loop (.dispatched machine.snapshots.length id descriptor ready) :: early) :
    ∃ seen, machine.view? id = some seen ∧
      Invoked loop machine.snapshots.length id seen descriptor ready early late := by
  obtain ⟨earlier, entry, registration, rest, ran, past, others, inner, middle, inside, rfl, ⟨rfl, rfl, rfl⟩,
    walk, reaction, rfl, rfl⟩ := h.at_dispatched split
  obtain ⟨seen, view, fresh⟩ := known (entry, registration) (List.mem_append_right earlier List.mem_cons_self)
  refine ⟨seen, view, ?_⟩
  have trace : Trace host (.cycle loop (earlier.map (·.2))) past machine middle :=
    walk.trace fun pair mem => List.mem_map_of_mem mem
  have announced := view?_announced middle loop registration entry.returned registration.callback
  constructor
  case spent =>
    rintro once ⟨other, deep, descriptor, ready, -, mem⟩
    have dispatched : Dispatched past registration.callback :=
      ⟨other, deep, descriptor, ready, by simpa using mem⟩
    obtain ⟨now, view', spent⟩ := trace.had dispatched
    have once' : now.once = true := by
      obtain same | run := trace.changes.grows.callback _ _ view
      · cases view'.symm.trans same
        exact once
      · cases view'.symm.trans run
        exact once
    rw [reaction_spent reaction (announced.trans view') (spent once')]
    exact ⟨others, rfl⟩
  case starts =>
    intro unspent tells
    have current : ∃ now, middle.view? registration.callback = some now ∧ now.spent = false ∧
        now.operation = seen.operation := by
      obtain same | run := trace.changes.grows.callback _ _ view
      · exact ⟨seen, same, fresh, rfl⟩
      cases once : seen.once with
      | false => exact ⟨seen.run, run, once, rfl⟩
      | true =>
        obtain same | ⟨other, deep, descriptor, ready, mem⟩ | handles := trace.view? view
        · exact ⟨seen, same, fresh, rfl⟩
        · -- No other registration of this cycle has the callback, so it was a deeper one that dispatched it.
          obtain ⟨deeper, -⟩ | ⟨_, cycle, -, old, mem', same, -⟩ := trace.dispatched mem
          · exact absurd ⟨once, other, deep, descriptor, ready, deeper, by simp [mem]⟩ unspent
          · cases cycle
            obtain ⟨pair, listed, rfl⟩ := List.mem_map.mp mem'
            rw [List.map_append, List.map_cons, List.nodup_append] at distinct
            exact absurd same (distinct.2.2 _ (List.mem_map_of_mem listed) _ List.mem_cons_self)
        · exact absurd handles (Place.not_handles rfl)
    obtain ⟨now, view', fresh', operation⟩ := current
    rw [← operation] at tells ⊢
    obtain ⟨code, notice, found, responded, body, released, -, -, rfl, outward, -, -, -, watched⟩ :=
      reaction_told reaction (announced.trans view') fresh' tells
    exact ⟨others ++ .loop loop (.finished machine.snapshots.length registration.callback) ::
      (released ++ body), code, notice, found, responded, by simp,
      fun event mem => outward event (List.mem_append_left _ mem), watched⟩

/-- A callback that is being executed is passed over, and what is registered for it is left alone. -/
theorem dispatch_executing (named : entry.descriptor = registration.descriptor)
    (listing : Listing machine loop registration) (executing : registration.callback ∈ machine.executing) :
    dispatch host does loop entry registration machine = some (false, machine) := by
  have again : registration.once = false := Bool.eq_false_iff.mpr fun once => listing.idle once executing
  have same : machine.retiring loop registration = machine := by
    rw [retiring, again]
    rfl
  rw [dispatch_eq named, if_pos executing, same]
  split <;> rfl

structure Invokes (host : Host ω) (does : Action ω → Run ω Answer) (loop : LoopId)
    (timeout : Option Duration) (machine : Machine ω) (count : Nat) (after : Machine ω) : Prop where
  journal : after.journal = after.since machine ++ machine.journal
  -- One poll call for all that was found comes first.
  polls : (after.since machine).getLast? =
    some (.syscall (pollCall (machine.entries loop) timeout) (pollReply host machine loop timeout))
  -- Exactly what is ready and not being executed is dispatched, once each, in the order of the registrations.
  dispatches : dispatches loop (machine.snapshots.length + 1) (after.since machine) =
    ((readyOf (machine.entries loop) (pollReply host machine loop timeout)).filter
      fun pair => decide (pair.1.callback ∉ machine.executing)).map
        fun pair => (pair.1.callback, pair.1.descriptor, pair.2)
  returns : count = ((readyOf (machine.entries loop) (pollReply host machine loop timeout)).filter
    fun pair => decide (pair.1.callback ∉ machine.executing)).length
  -- To pass over what is being executed changes nothing.
  skips : ∀ earlier entry registration later ran middle,
    reportedTo (machine.entries loop) (pollReply host machine loop timeout) =
        earlier ++ (entry, registration) :: later →
      dispatchAll host does loop earlier (machine.polled host loop timeout) = some (ran, middle) →
      registration.callback ∈ machine.executing →
      dispatch host does loop entry registration middle = some (false, middle)
  invokes : ∀ late id descriptor ready early, after.since machine =
      late ++ .loop loop (.dispatched (machine.snapshots.length + 1) id descriptor ready) :: early →
    ∃ seen, machine.view? id = some seen ∧
      Invoked loop (machine.snapshots.length + 1) id seen descriptor ready early late

theorem Sound.skips {budget ran : Nat} {timeout : Option Duration}
    {earlier later : List (PollEntry × Registration)} {middle : Machine ω} (sound : machine.Sound)
    (nonempty : machine.entries loop ≠ [])
    (split : reportedTo (machine.entries loop) (pollReply host machine loop timeout) =
      earlier ++ (entry, registration) :: later)
    (walked : dispatchAll host (perform host budget) loop earlier (machine.polled host loop timeout) =
      some (ran, middle))
    (executing : registration.callback ∈ machine.executing) :
    dispatch host (perform host budget) loop entry registration middle = some (false, middle) := by
  have polling := changes_polled host nonempty timeout
  have mem {pair : PollEntry × Registration} (here : pair ∈ earlier ++ (entry, registration) :: later) :
      pair.2 ∈ machine.entries loop ∧ pair.1.descriptor = pair.2.descriptor := mem_reportedTo (split ▸ here)
  have coherent := sound.accounted.history.coherent
  obtain ⟨events, walk⟩ := dispatchAll_inv (runs_perform budget)
    (fun pair here => (mem (List.mem_append_left _ here)).2) (coherent.changes polling)
    (fun pair here => (coherent.found (mem (List.mem_append_left _ here)).1).changes polling) walked
  have trace : Trace host (.cycle loop (machine.entries loop)) events _ middle :=
    walk.trace fun pair here => (mem (List.mem_append_left _ here)).1
  obtain ⟨present, named⟩ := mem (List.mem_append_right earlier List.mem_cons_self)
  refine dispatch_executing named ?_ (trace.executing ▸ executing)
  exact (sound.accounted.history.listing present).changes (polling.trans trace.changes) trace.executing

theorem CycleParts.invoked {timeout : Option Duration} {released : List Event} {inside : Machine ω}
    (parts : CycleParts host loop timeout machine count after events released inside)
    (coherent : machine.Coherent)
    (split : after.since machine =
      late ++ .loop loop (.dispatched (machine.snapshots.length + 1) id descriptor ready) :: early) :
    ∃ seen, machine.view? id = some seen ∧
      Invoked loop (machine.snapshots.length + 1) id seen descriptor ready early late := by
  rw [parts.since] at split
  obtain ⟨_, late, -⟩ | ⟨last, rest, rfl⟩ := split_append split
  · exact absurd (late ▸ List.mem_append_right _ List.mem_cons_self) (parts.release.no_loop _)
  obtain ⟨first, inner, rfl⟩ | ⟨_, polled, -⟩ := split_append rest
  · have names : ((reportedTo (machine.entries loop) (pollReply host machine loop timeout)).map
        (·.2.callback)).Nodup := by
      have callbacks := coherent.nodup_callbacks loop
      rwa [← map_snd_reportedTo (machine.entries loop) (pollReply host machine loop timeout),
        List.map_map] at callbacks
    obtain ⟨seen, view, invoked⟩ := parts.walk.invoked names
      (fun pair mem => by
        obtain ⟨seen, view, -, fresh, -⟩ := coherent.known loop pair.2 (mem_reportedTo mem).1
        exact ⟨seen, view, fresh⟩) inner
    exact ⟨seen, view, invoked.within _ released (by simp [Event.marks])⟩
  · rw [List.singleton_eq_append_iff] at polled
    simp at polled

/-- Every cycle that is driven from a sound machine invokes what it should. -/
theorem Sound.invokes {budget : Nat} {timeout : Option Duration} (sound : machine.Sound)
    (nonempty : machine.entries loop ≠ [])
    (h : runOnce host (perform host budget) loop timeout machine = some (count, after)) :
    Invokes host (perform host budget) loop timeout machine count after := by
  have coherent := sound.accounted.history.coherent
  obtain ⟨events, inside, released, walk, release, last⟩ :=
    runOnce_inv (runs_perform budget) nonempty coherent h
  have parts : CycleParts host loop timeout machine count after events released inside :=
    ⟨nonempty, walk, release, last⟩
  constructor
  case journal =>
    rw [parts.since]
    exact parts.journal
  case polls =>
    rw [parts.since]
    simp
  case dispatches => exact parts.dispatches_eq.1
  case returns => exact parts.dispatches_eq.2
  case skips =>
    intro earlier entry registration later ran middle split walked executing
    exact sound.skips nonempty split walked executing
  case invokes => exact fun late id descriptor ready early split => parts.invoked coherent split

/-- No callback is entered twice, and every cycle invokes what it should, however deep in other cycles. -/
structure NeverReentered (host : Host ω) (machine : Machine ω) : Prop where
  exclusive : Along Exclusive machine.journal
  -- Between two starts of the code of a callback, the dispatch that the first one belongs to is over.
  apart : ∀ late between early id code notice found code' notice' found',
    machine.journal = late ++ .callback id code notice found ::
      (between ++ .callback id code' notice' found' :: early) →
    ∃ loop depth, .loop loop (.finished depth id) ∈ between
  -- Wherever code started, the callbacks being executed were those whose dispatches were underway.
  inside : ∀ late id code notice found early, machine.journal = late ++ .callback id code notice found :: early →
    ∃ middle : Machine ω, middle.Sound ∧ middle.journal = .callback id code notice found :: early
  -- So it is after each action of such code, wherever code starts in that action, and in between.
  keeps : ∀ before : Machine ω, before.Sound → ∀ budget action answer after,
    perform host budget action before = some (answer, after) → after.Governed before.journal.length []
  -- Whatever is done in such code, however deep, is done in a sound machine: an interpreter that refuses to act in
  -- any other one does the same.
  performs : ∀ before : Machine ω, before.Sound → ∀ budget action,
    performIn host Sound budget action before = perform host budget action before
  between : ∀ before : Machine ω, before.Sound → ∀ events after, Changes events before after →
    (∀ event ∈ events, event.marks = false) → after.executing = before.executing → after.Sound
  cycles : ∀ before : Machine ω, before.Sound → ∀ budget loop timeout count after,
    runOnce host (perform host budget) loop timeout before = some (count, after) →
      after.Sound ∧ ((before.entries loop = [] ∧ count = 0 ∧ after = before) ∨
        Invokes host (perform host budget) loop timeout before count after)

theorem reachable_neverReentered (h : Reachable host machine) : NeverReentered host machine := by
  have governed := h.governed
  constructor
  case exclusive => exact governed.poised.exclusive
  case apart =>
    intro late between early id code notice found code' notice' found' split
    exact finished_between governed.poised.accounted.launches governed.poised.exclusive split
  case inside =>
    intro late id code notice found early split
    have started := governed.inside
    rw [split] at started
    exact started.at_split (Nat.zero_le _)
  case keeps => exact fun before sound budget action answer after ran => sound.performed ran
  case performs => exact fun before sound budget action => agrees_performIn budget action before sound
  case between =>
    exact fun before sound events after changes none same => (sound.governed.unmarked changes none same).poised
  case cycles =>
    intro before sound budget loop timeout count after ran
    obtain ⟨events, trace⟩ := runs_runOnce (runs_perform budget) loop timeout _ _ _
      sound.accounted.history.coherent ran
    refine ⟨(trace.governed sound.governed trivial).poised, ?_⟩
    by_cases nonempty : before.entries loop = []
    · rw [runOnce_empty nonempty] at ran
      cases ran
      exact .inl ⟨nonempty, rfl, rfl⟩
    · exact .inr (sound.invokes nonempty ran)

/-- A cycle inside a cycle passes over the callback that drives it, and dispatches what comes after that; the
enclosing cycle goes on behind it. -/
theorem reachable_neverReentered_nested :
    ∃ machine, Reachable nestingHost machine ∧
      (dispatches 0 1 machine.journal).map (·.1) = [0, 1, 2] ∧
      (dispatches 0 2 machine.journal).map (·.1) = [2] ∧ NeverReentered nestingHost machine := by
  have ran : (performAll nestingHost 3 watchThree { outside := none }).map
      (fun machine => decide ((dispatches 0 1 machine.journal).map (·.1) = [0, 1, 2] ∧
        (dispatches 0 2 machine.journal).map (·.1) = [2])) = some true := by decide +kernel
  obtain ⟨machine, ran, seen⟩ := Option.map_eq_some_iff.mp ran
  have reachable := (Reachable.new none).performAll ran
  obtain ⟨outer, inner⟩ := of_decide_eq_true seen
  exact ⟨machine, reachable, outer, inner, reachable_neverReentered reachable⟩

end NetReactor.Machine
