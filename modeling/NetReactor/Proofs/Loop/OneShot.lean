import NetReactor.Proofs.Loop.InsertionOrder
import NetReactor.Proofs.Loop.Withdrawal
import NetReactor.Proofs.Machine.Invariant
/-!
Callbacks for a single dispatch, over whole runs with cycles nested to any depth. An enclosing cycle may still
have a registration on its list that a cycle inside has dispatched; the callback is spent by then. So its code
starts at most once, when it is registered nowhere any more, and a dispatch that takes a registration away
starts its code then and there.
-/
namespace NetReactor.Machine

variable {ω : Type} {host : Host ω} {place : Place} {events : List Event}
variable {before after machine middle : Machine ω} {loop : LoopId} {registration old : Registration}
variable {id : CallbackId} {descriptor : Descriptor}

def isStart (id : CallbackId) : Event → Bool
  | .callback other _ _ _ => other == id
  | _ => false

def startCount (id : CallbackId) (events : List Event) : Nat := events.countP (isStart id)

theorem exists_of_isStart {event : Event} (h : isStart id event = true) :
    ∃ code notice found, event = .callback id code notice found := by
  cases event with
  | callback other code notice found =>
    cases eq_of_beq h
    exact ⟨code, notice, found, rfl⟩
  | _ => cases h

def MadeLater (loop : LoopId) (registration later : Registration) (events : List Event) : Prop :=
  ∃ since earlier, events = since ++ .loop loop (.registered registration) :: earlier ∧
    .loop loop (.registered later) ∈ since

/-- What a history leaves registered for the descriptor of a registration that is gone was made later. -/
theorem madeLater_of_mem_replayed (made : .loop loop (.registered registration) ∈ events)
    (mem : old ∈ (replayed loop events Registry.empty).entries)
    (same : old.descriptor = registration.descriptor) (other : old ≠ registration) :
    MadeLater loop registration old events := by
  obtain ⟨since, earlier, rfl⟩ := List.append_of_mem made
  rw [replayed_append, replayed, if_pos rfl] at mem
  refine ⟨since, earlier, rfl, (mem_of_mem_replayed mem).resolve_left fun stood => ?_⟩
  obtain is | ⟨-, apart⟩ := Registry.mem_insert_iff.mp stood
  · exact other is
  · exact apart same

/-- How the code of a callback for a single dispatch starts, given the events before it and the loops that it
finds. It did not start before. A dispatch has just taken its registration away, and nothing else; at most calls
of its operation came between. What it finds registered for its descriptor was registered later. -/
structure Launch (loop : LoopId) (registration : Registration) (early : List Event)
    (found : List EventLoop) : Prop where
  first : ∀ code notice loops, .callback registration.callback code notice loops ∉ early
  dispatched : ∃ calls depth ready earlier,
    early = calls ++ .loop loop (.dispatched depth registration.callback registration.descriptor ready) ::
      .loop loop (.retired registration.descriptor registration.callback) :: earlier ∧
    (∀ event ∈ calls, event.isOutward = true) ∧
    (found.getD loop {}).registry = (replayed loop earlier Registry.empty).retire
      registration.descriptor registration.callback ∧
    ∀ other ∈ (replayed loop earlier Registry.empty).entries, other ≠ registration →
      other ∈ (found.getD loop {}).registry.entries
  absent : ∀ other, ∀ old ∈ (found.getD other {}).registry.entries,
    old.callback ≠ registration.callback
  later : ∀ old ∈ (found.getD loop {}).registry.entries, old.descriptor = registration.descriptor →
    MadeLater loop registration old early

/-- Whatever code starts for a registration for a single dispatch, starts as it should, and no code started
before its registration was made. -/
def Launches (early : List Event) : Event → Prop
  | .callback id _ _ found => ∀ loop registration, .loop loop (.registered registration) ∈ early →
    registration.callback = id → registration.once = true → Launch loop registration early found
  | .loop _ (.registered registration) =>
    ∀ code notice found, .callback registration.callback code notice found ∉ early
  | _ => True

structure Accounted (machine : Machine ω) : Prop where
  history : machine.History
  started : ∀ id code notice found, .callback id code notice found ∈ machine.journal →
    ∃ seen, machine.view? id = some seen ∧ seen.code = code ∧ (seen.once = true → seen.spent = true)
  launches : Along Launches machine.journal

theorem accounted_new (outside : ω) : Accounted { outside } where
  history := .new outside
  started _ _ _ _ mem := nomatch mem
  launches := trivial

namespace Accounted

theorem started_grows (h : before.Accounted) (grows : Grows before after) {code : CodeId}
    {notice : Notice} {found : List EventLoop}
    (mem : .callback id code notice found ∈ before.journal) :
    ∃ seen, after.view? id = some seen ∧ seen.code = code ∧
      (seen.once = true → seen.spent = true) := by
  obtain ⟨seen, view, is, spent⟩ := h.started id code notice found mem
  obtain same | run := grows.callback id seen view
  · exact ⟨seen, same, is, spent⟩
  · exact ⟨seen.run, run, is, fun once => once⟩

/-- Changes in which no code starts. -/
theorem silent (h : before.Accounted) (changes : Changes events before after)
    (none : ∀ id code notice found, .callback id code notice found ∉ events) : after.Accounted where
  history := h.history.changes changes
  started id code notice found mem := by
    rw [changes.journal] at mem
    exact h.started_grows changes.grows ((List.mem_append.mp mem).resolve_left (none id code notice found))
  launches := by
    rw [changes.journal]
    refine along_append.mpr ⟨along_of_split fun late event early split => ?_, h.launches⟩
    have mem : event ∈ events := by simp [split]
    unfold Launches
    split
    · exact absurd mem (none _ _ _ _)
    · intro code notice found started
      obtain inside | before := List.mem_append.mp started
      · exact none _ _ _ _ (split ▸ List.mem_append_right _ (List.mem_cons_of_mem _ inside))
      · obtain ⟨seen, view, -⟩ := h.started _ _ _ _ before
        exact absurd (lt_of_view? view) (Nat.not_lt_of_le (changes.registered mem).1)
    · trivial

/-- Code starts that is launched as it should be. -/
theorem told (h : machine.Accounted) {seen : Callback} (view : machine.view? id = some seen)
    (spent : seen.once = true → seen.spent = true) {notice : Notice}
    (launch : Launches machine.journal (.callback id seen.code notice machine.loops)) :
    (machine.told id seen.code notice).Accounted where
  history := h.history.changes (Change.tell machine id seen.code notice).once
  started other code notice' found mem := by
    cases List.mem_cons.mp mem with
    | inl own =>
      cases own
      exact ⟨seen, (view?_told ..).trans view, rfl, spent⟩
    | inr early => exact h.started_grows (grows_told machine id seen.code notice) early
  launches := ⟨launch, h.launches⟩

end Accounted

section
variable {ready : Interest} {callback : Callback} {notice : Notice} {responded : List Event}

/-- The operation of a callback for a single dispatch makes calls and nothing else. -/
theorem responded_outward (h : before.History) (known : before.callback? id = some callback)
    (once : callback.once = true) (fresh : callback.spent = false) {response : Option Notice}
    (responds : respond host loop id callback.operation descriptor ready (before.started id) =
      (response, middle))
    (operation : Trace host (.operation loop registration) responded (before.started id) middle) :
    ∀ event ∈ responded, event.isOutward = true := by
  have apt : callback.operation.accepts = false :=
    h.singles.apt id callback.uncounted (view?_of_callback? known) once fresh
  obtain ⟨events, quiet⟩ := quietly_respond host loop id descriptor ready apt (before.started id)
  rw [responds] at quiet
  have same : responded = events :=
    List.append_cancel_right (operation.changes.journal.symm.trans quiet.journal)
  exact same ▸ quiet.outward

theorem started_gone (gone : machine.Gone id) (operation : Trace host (.operation loop registration)
    responded (machine.started registration.callback) middle) : middle.Gone id := by
  intro other old mem
  refine gone other old ((operation.changes.entries mem).resolve_right fun made => ?_)
  cases operation_events operation rfl _ made with
  | inl outward => cases outward
  | inr same => cases same

/-- The registration of the callback that a reaction runs. -/
theorem once_of_based (h : before.Accounted) (based : (Place.reaction loop registration ready).Based before)
    (known : before.callback? registration.callback = some callback) :
    callback.once = registration.once := by
  obtain ⟨seen, view, once⟩ := (h.history.found based.1.made).known
  rw [view?_of_callback? known] at view
  cases view
  exact once

/-- The code of a callback for a single dispatch starts as it should. -/
theorem Telling.launches (h : Telling host before middle loop registration ready callback notice responded)
    (accounted : before.Accounted) :
    Launches middle.journal (.callback registration.callback callback.code notice middle.loops) := by
  obtain ⟨based, known, fresh, gone, response, operation⟩ := h
  intro other single made same once
  have begun := (Change.start known gone).once.trans operation.changes
  have history := accounted.history.changes begun
  have journal : middle.journal = responded ++ before.journal := by simpa using begun.journal
  obtain ⟨rfl, rfl⟩ := history.unique
    (journal ▸ List.mem_append_right _ based.1.made) made same
  have once' : callback.once = true := (once_of_based accounted based known).trans once
  have view := view?_of_callback? known
  obtain ⟨listing, depth, earlier, dispatched⟩ := based
  have absent := started_gone (gone once') operation
  have calls := responded_outward accounted.history known once' fresh response operation
  rw [retirement, if_pos once] at dispatched
  have registry : (middle.loopAt other).registry = (replayed other earlier Registry.empty).retire
      single.descriptor single.callback := by
    rw [history.tracked other (Nat.lt_of_lt_of_le listing.known begun.grows.loops), journal,
      replayed_append, replayed_outward calls, dispatched]
    simp [replayed, Registry.replay]
  constructor
  case first =>
    intro code notice' loops mem
    rw [journal] at mem
    obtain responded | started := List.mem_append.mp mem
    · exact operation_silent operation _ _ _ _ responded
    · obtain ⟨seen, view', -, spent⟩ := accounted.started _ _ _ _ started
      cases view.symm.trans view'
      cases fresh.symm.trans (spent once')
  case dispatched =>
    refine ⟨responded, depth, ready, earlier, by rw [journal, dispatched]; rfl, calls, registry,
      fun old mem apart => ?_⟩
    change old ∈ (middle.loopAt other).registry.entries
    rw [registry]
    refine Registry.mem_retire_of_ne mem fun callback => apart ?_
    have made' : .loop other (.registered old) ∈ middle.journal := by
      have made' := (mem_of_mem_replayed mem).resolve_left (by simp [Registry.empty])
      rw [journal, dispatched]
      simp [made']
    exact (history.unique made made' callback).2
  case absent => exact absent
  case later =>
    intro old mem stands
    refine madeLater_of_mem_replayed made ?_ stands fun is => absent other old mem (by rw [is])
    rw [← history.tracked other (Nat.lt_of_lt_of_le listing.known begun.grows.loops)]
    exact mem

end

/-- A callback whose result is there at once is spent, and it has no registration. -/
theorem Accounted.atOnce {callback : Callback} (h : machine.Accounted) (spent : callback.spent = true)
    (notice : Notice) : ((machine.withCallback callback).told machine.callbacks.length callback.code
      notice).Accounted := by
  have made := h.silent (Change.create spent).once (by simp)
  have view : (machine.withCallback callback).view? machine.callbacks.length =
      some callback.uncounted := (view?_withCallback ..).trans (if_pos rfl)
  refine made.told view (fun _ => spent) ?_
  intro loop registration mem same
  exact absurd (h.history.lt_callbacks mem) (by rw [same]; exact Nat.lt_irrefl _)

/-- Wherever code starts in a run, it starts as it should. -/
theorem Trace.accounted (h : Trace host place events before after) (accounted : before.Accounted)
    (based : place.Based before) : after.Accounted := by
  refine h.preserves Accounted (fun machine accounted => accounted.history)
    (fun accounted changes silent => accounted.silent changes silent)
    (fun notice accounted spent => accounted.atOnce spent notice) ?_ accounted based
  intro before middle loop registration ready callback notice calls accounted responded telling
  obtain ⟨seen, view, same, -, spent⟩ := telling.seen
  have told := @Accounted.told _ _ _ responded _ view spent notice
  rw [same] at told
  exact told (telling.launches accounted)

/-- What follows when a dispatch takes the registration of a callback away: the dispatch is announced, and if
there was such a registration then the code of the callback starts, with at most calls before that. -/
def Retires (loop : LoopId) (descriptor : Descriptor) (id : CallbackId) (early late : List Event) : Prop :=
  ∃ depth ready rest, late = rest ++ [.loop loop (.dispatched depth id descriptor ready)] ∧
    ∀ registration ∈ (replayed loop early Registry.empty).entries,
      registration.descriptor = descriptor → registration.callback = id →
      ∃ later code notice found calls, rest = later ++ .callback id code notice found :: calls ∧
        ∀ event ∈ calls, event.isOutward = true

theorem Retires.append {early late : List Event} (h : Retires loop descriptor id early late)
    (more : List Event) : Retires loop descriptor id early (more ++ late) := by
  obtain ⟨depth, ready, rest, rfl, starts⟩ := h
  refine ⟨depth, ready, more ++ rest, (List.append_assoc ..).symm, fun registration mem here is => ?_⟩
  obtain ⟨later, code, notice, found, calls, rfl, outward⟩ := starts registration mem here is
  exact ⟨more ++ later, code, notice, found, calls, (List.append_assoc ..).symm, outward⟩

/-- The dispatch of a registration for a single dispatch starts its code, unless its callback had that. -/
theorem retires_dispatch {ready : Interest} (history : machine.History)
    (listing : Listing machine loop registration) (once : registration.once = true)
    (h : Trace host (.reaction loop registration ready) events
      (machine.announced loop registration ready) after) (finished : Event) :
    Retires loop registration.descriptor registration.callback machine.journal
      (finished :: (events ++ [.loop loop (.dispatched machine.snapshots.length registration.callback
        registration.descriptor ready)])) := by
  refine ⟨_, _, finished :: events, rfl, fun old mem _ same => ?_⟩
  rw [← history.tracked loop listing.known] at mem
  obtain ⟨seen, view, single, fresh, -⟩ := history.coherent.known loop old mem
  have single : seen.once = true := by
    rw [single, (history.unique listing.made (history.registered mem) same).2, once]
  rw [same] at view
  have apt := history.singles.apt _ seen view single fresh
  obtain ⟨code, notice, found, calls, inner, released, -, -, rfl, outward, -⟩ :=
    reaction_told h ((view?_announced ..).trans view) fresh apt
  refine ⟨finished :: (released ++ inner), code, notice, found, calls, by simp, fun event mem => ?_⟩
  exact outward event (List.mem_append_left _ mem)

/-- Whatever a dispatch takes away is run by it: one that is being run already is not for a single dispatch. -/
theorem Trace.retires (h : Trace host place events before after) (history : before.History)
    (based : place.Based before) {early late : List Event}
    (split : events = late ++ .loop loop (.retired descriptor id) :: early) :
    Retires loop descriptor id (early ++ before.journal) late := by
  have mem : .loop loop (.retired descriptor id) ∈ events :=
    split ▸ List.mem_append_right late (List.mem_cons_self ..)
  induction h generalizing early late with
  | quiet h => exact absurd mem (h.no_loop _)
  | @seq _ first rest _ _ _ h _ ih ih' =>
    obtain ⟨between, inside, rfl⟩ | ⟨between, inside, rfl⟩ := split_append split
    · have retires := ih' (history.changes h.changes) (based.changes h.changes h.executing) inside
        (by simp [inside])
      rwa [h.changes.journal, ← List.append_assoc] at retires
    · exact (ih history based inside (by simp [inside])).append rest
  | @atOnce machine _ callback notice _ spent _ ih =>
    obtain ⟨between, inside, rfl⟩ | ⟨between, inside, -⟩ := split_append split
    · have retires := ih (history.changes (changes_atOnce machine spent notice)) trivial inside
        (by simp [inside])
      exact List.append_assoc _ _ _ ▸ retires
    · cases between <;> simp at inside
  | @run machine _ other _ _ ih =>
    exact ih (history.changes (Change.setRunning machine other true).once) trivial split mem
  | @cycle machine _ other _ _ _ ih =>
    have changes := changes_cycling machine other
    exact ih (history.changes changes)
      (fun registration mem => (history.listing mem).changes changes rfl) split mem
  | @skip machine other _ registration member busy =>
    exact absurd busy ((based registration member).idle (mem_retirement.mp mem).1)
  | @dispatch machine _ other _ registration ready events member _ h ih =>
    have changes := changes_announced machine other registration ready
    have listing := based registration member
    rw [← List.cons_append] at split
    obtain ⟨between, inner, rfl⟩ | ⟨between, own, rfl⟩ := split_append split
    · obtain ⟨_, rfl, inside⟩ := cons_split (by simp) inner
      have retires := ih (history.changes changes) ⟨listing.changes changes (executing_announced _ _ _ _),
        machine.snapshots.length, machine.journal, changes.journal⟩ inside (by simp [inside])
      rw [changes.journal, ← List.append_assoc] at retires
      exact retires.append [_]
    · obtain ⟨_, rfl, retired⟩ := cons_split (by simp) own
      have single := (mem_retirement.mp
        (retired ▸ List.mem_append_right _ (List.mem_cons_self ..))).1
      rw [retirement, if_pos single] at retired
      obtain ⟨rfl, same⟩ | ⟨-, none⟩ := List.singleton_eq_append_iff.mp retired
      · cases same
        simpa using retires_dispatch history listing single h
          (.loop loop (.finished machine.snapshots.length registration.callback))
      · cases none
  | overlooked _ _ _ _ operation release =>
    obtain late | early := List.mem_append.mp mem
    · exact absurd late (release.no_loop _)
    · cases operation_events operation rfl _ early with
      | inl outward => cases outward
      | inr same => cases same
  | @told machine middle _ _ _ registration _ callback notice _ inner _ known _ gone _ operation _ _ release
      _ ih' =>
    have begun := ((Change.start known gone).once.trans operation.changes).step
      (.tell middle registration.callback callback.code notice)
    obtain ⟨_, late, -⟩ | ⟨between, rest, rfl⟩ := split_append split
    · exact absurd (late ▸ List.mem_append_right _ (List.mem_cons_self ..)) (release.no_loop _)
    · obtain ⟨_, inside, rfl⟩ | ⟨_, responded, -⟩ := split_append rest
      · have retires := ih' (history.changes begun) trivial inside (by simp [inside])
        rw [begun.journal, ← List.append_assoc] at retires
        simpa using retires.append _
      · obtain ⟨_, -, responded⟩ := cons_split (by simp) responded
        cases operation_events operation rfl (.loop loop (.retired descriptor id)) (by simp [responded]) with
        | inl outward => cases outward
        | inr same => cases same
  | _ => simp at mem

theorem startCount_eq_zero (h : ∀ code notice found, .callback id code notice found ∉ events) :
    startCount id events = 0 := by
  refine List.countP_eq_zero.mpr fun event mem start => ?_
  obtain ⟨code, notice, found, rfl⟩ := exists_of_isStart start
  exact h code notice found mem

/-- The code of a callback for a single dispatch starts at most once, and only after its registration. -/
theorem startCount_le_one (h : Along Launches events)
    (made : .loop loop (.registered registration) ∈ events) (once : registration.once = true) :
    startCount registration.callback events ≤ 1 := by
  induction events with
  | nil => cases made
  | cons event events ih =>
    rw [startCount, List.countP_cons]
    obtain rfl | early := List.mem_cons.mp made
    · have none := startCount_eq_zero h.1
      rw [startCount] at none
      rw [none]
      split <;> simp
    · by_cases start : isStart registration.callback event = true
      · obtain ⟨code, notice, found, rfl⟩ := exists_of_isStart start
        have none := startCount_eq_zero (h.1 loop registration early rfl once).first
        rw [startCount] at none
        rw [none, if_pos start]
      · rw [if_neg start]
        exact ih h.2 early

structure OneShots (host : Host ω) (machine : Machine ω) : Prop where
  -- Adding one registers a callback that is new, for the given code.
  added : ∀ (before : Machine ω) perform budget loop descriptor interest code answer after,
    askLoop host perform budget loop (.add descriptor interest code true) before = some (answer, after) →
      (∃ later, (∀ event ∈ later, event.isOutward = true) ∧ after.journal = later ++ .loop loop
        (.registered ⟨descriptor, interest, before.callbacks.length, true⟩) :: before.journal) ∧
      ∃ callback, after.callback? before.callbacks.length = some callback ∧ callback.code = code
  atMostOnce : ∀ loop registration, .loop loop (.registered registration) ∈ machine.journal →
    registration.once = true → startCount registration.callback machine.journal ≤ 1
  started : ∀ loop registration, .loop loop (.registered registration) ∈ machine.journal →
    registration.once = true → ∀ late code notice found early,
      machine.journal = late ++ .callback registration.callback code notice found :: early →
      (∃ callback, machine.callback? registration.callback = some callback ∧ callback.code = code) ∧
        Launch loop registration early found
  retired : ∀ loop descriptor id late early,
    machine.journal = late ++ .loop loop (.retired descriptor id) :: early →
      Retires loop descriptor id early late

theorem reachable_oneShots (h : Reachable host machine) : OneShots host machine := by
  obtain ⟨outside, trace, -⟩ := h.trace
  have accounted := trace.accounted (accounted_new outside) trivial
  constructor
  case added =>
    intro before perform budget loop descriptor interest code answer after h
    cases h
    let callback : Callback := { operation := .watch, code, once := true }
    obtain ⟨later, released⟩ :=
      quietly_releaseOld host _ (before.enrolled loop descriptor interest callback)
    refine ⟨⟨later, released.outward, released.journal⟩, ?_⟩
    obtain ⟨current, known, same⟩ := callback?_of_view?
      ((released.callbacks _).trans ((view?_withCallback ..).trans (if_pos rfl)))
    exact ⟨current, known, congrArg Callback.code same⟩
  case atMostOnce =>
    exact fun loop registration made once => startCount_le_one accounted.launches made once
  case started =>
    intro loop registration made once late code notice found early split
    have launches := accounted.launches
    rw [split] at made launches
    constructor
    · obtain ⟨seen, view, same, -⟩ := accounted.started registration.callback code notice found
        (by simp [split])
      obtain ⟨callback, known, rfl⟩ := callback?_of_view? view
      exact ⟨callback, known, same⟩
    · obtain since | made := List.mem_append.mp made
      · obtain ⟨last, between, rfl⟩ := List.append_of_mem since
        rw [List.append_assoc] at launches
        exact absurd (by simp) (launches.at_split code notice found)
      · exact launches.at_split loop registration
          ((List.mem_cons.mp made).resolve_left nofun) rfl once
  case retired =>
    intro loop descriptor id late early split
    simpa using trace.retires (.new outside) trivial split

def watchOnce : List (Action (Option Role)) :=
  [.loop (.create 0 {}), .loop (.request 0 (.add 6 Interest.read 0 false)),
    .loop (.request 0 (.add 7 Interest.read 1 true)), .loop (.request 0 (.runOnce none))]

def retiredCount (events : List Event) : Nat :=
  events.countP fun
    | .loop _ (.retired ..) => true
    | _ => false

/-- The cycle inside runs what is for a single dispatch, and the enclosing one finds it on its list again. -/
theorem reachable_oneShots_nested :
    ∃ machine, Reachable nestingHost machine ∧ retiredCount machine.journal = 2 ∧
      startCount 1 machine.journal = 1 ∧ OneShots nestingHost machine := by
  have ran : (performAll nestingHost 3 watchOnce { outside := none }).map
      (fun machine => decide (retiredCount machine.journal = 2 ∧ startCount 1 machine.journal = 1)) =
        some true := by decide +kernel
  obtain ⟨machine, ran, counts⟩ := Option.map_eq_some_iff.mp ran
  have reachable := (Reachable.new none).performAll ran
  obtain ⟨retired, started⟩ := of_decide_eq_true counts
  exact ⟨machine, reachable, retired, started, reachable_oneShots reachable⟩

end NetReactor.Machine
