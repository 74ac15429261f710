import NetReactor.Proofs.Loop.Nesting
/-!
Callbacks are not entered twice. Whatever the code of callbacks does, and however deep it drives its loop, the
dispatches that are not over are of different callbacks, and code starts only for the last one of them. The same
is so wherever code starts, and so for every cycle that is driven from there.
-/
namespace NetReactor

def Event.holds (outer : List CallbackId) : Event → List CallbackId
  | .loop _ (.dispatched _ id ..) => id :: outer
  | .loop _ (.finished _ id) => outer.erase id
  | _ => outer

def Event.marks : Event → Bool
  | .callback .. | .loop _ (.dispatched ..) | .loop _ (.finished ..) => true
  | _ => false

theorem Event.marks_outward {event : Event} (h : event.isOutward = true) : event.marks = false := by
  cases event with
  | callback => cases h
  | loop => cases h
  | _ => rfl

theorem Event.holds_unmarked {outer : List CallbackId} {event : Event} (h : event.marks = false) :
    event.holds outer = outer := by
  cases event with
  | loop other event =>
    cases event with
    | dispatched => cases h
    | finished => cases h
    | _ => rfl
  | _ => rfl

namespace Machine

variable {ω : Type} {host : Host ω} {place : Place} {events late early : List Event}
variable {before after machine middle : Machine ω} {loop : LoopId} {registration : Registration}
variable {id : CallbackId} {announced : List CallbackId} {base : Nat}

/-- The callbacks whose dispatches are not over after some events, the latest first. -/
def underway (events : List Event) : List CallbackId := events.foldr (fun event outer => event.holds outer) []

theorem underway_cons (event : Event) : underway (event :: events) = event.holds (underway events) := rfl

theorem underway_unmarked (h : ∀ event ∈ late, event.marks = false) :
    underway (late ++ early) = underway early := by
  induction late with
  | nil => rfl
  | cons event late ih =>
    rw [List.cons_append, underway_cons, Event.holds_unmarked (h event List.mem_cons_self)]
    exact ih fun other mem => h other (List.mem_cons_of_mem _ mem)

/-- A dispatch that is over has an end. -/
theorem finished_of_not_underway (was : id ∈ underway early) (done : id ∉ underway (late ++ early)) :
    ∃ loop depth, .loop loop (.finished depth id) ∈ late := by
  induction late with
  | nil => exact absurd was done
  | cons event late ih =>
    by_cases still : id ∈ underway (late ++ early)
    · rw [List.cons_append, underway_cons] at done
      unfold Event.holds at done
      split at done
      · exact absurd (List.mem_cons_of_mem _ still) done
      · next loop depth other =>
        by_cases own : id = other
        · exact ⟨loop, depth, own ▸ List.mem_cons_self⟩
        · exact absurd ((List.mem_erase_of_ne own).mpr still) done
      · exact absurd still done
    · obtain ⟨loop, depth, mem⟩ := ih still
      exact ⟨loop, depth, List.mem_cons_of_mem _ mem⟩

/-- The last thing of note was the dispatch of a callback that was not underway. -/
def JustDispatched (id : CallbackId) (early : List Event) : Prop :=
  ∃ calls loop depth descriptor ready earlier,
    early = calls ++ .loop loop (.dispatched depth id descriptor ready) :: earlier ∧
      id ∉ underway earlier ∧ ∀ event ∈ calls, event.marks = false

structure Unheard (id : CallbackId) (early : List Event) : Prop where
  idle : id ∉ underway early
  silent : ∀ code notice found, .callback id code notice found ∉ early
  unregistered : ∀ loop registration, .loop loop (.registered registration) ∈ early →
    registration.callback ≠ id

/-- What may happen to callbacks, given the events before. One that is registered is dispatched when no dispatch
of it is underway, the last dispatch is over first, and code starts for a dispatch or for a callback of its own. -/
def Exclusive (early : List Event) : Event → Prop
  | .loop _ (.dispatched _ id ..) => id ∉ underway early ∧
    ∃ loop registration, .loop loop (.registered registration) ∈ early ∧ registration.callback = id
  | .loop _ (.finished _ id) => ∃ outer, underway early = id :: outer
  | .callback id .. => JustDispatched id early ∨ Unheard id early
  | _ => True

theorem exclusive_unmarked {event : Event} (h : event.marks = false) : Exclusive early event := by
  cases event with
  | callback => cases h
  | loop other event =>
    cases event with
    | dispatched => cases h
    | finished => cases h
    | _ => trivial
  | _ => trivial

/-- The callbacks being executed are those whose dispatches are underway, apart from a dispatch that was announced
and did not begin yet. -/
structure Poised (announced : List CallbackId) (machine : Machine ω) : Prop where
  accounted : machine.Accounted
  underway : underway machine.journal = announced ++ machine.executing
  exclusive : Along Exclusive machine.journal

abbrev Sound (machine : Machine ω) : Prop := Poised [] machine

theorem sound_new (outside : ω) : Sound { outside } where
  accounted := accounted_new outside
  underway := rfl
  exclusive := trivial

def StartsSound (ω : Type) (base : Nat) (early : List Event) : Event → Prop
  | .callback id code notice found => base ≤ early.length →
    ∃ machine : Machine ω, machine.Sound ∧ machine.journal = .callback id code notice found :: early
  | _ => True

structure Governed (base : Nat) (announced : List CallbackId) (machine : Machine ω) : Prop where
  poised : Poised announced machine
  inside : Along (StartsSound ω base) machine.journal

theorem Poised.governed (h : Poised announced machine) :
    Governed machine.journal.length announced machine := by
  refine ⟨h, along_of_split fun late event early split => ?_⟩
  cases event with
  | callback =>
    intro later
    rw [split, List.length_append, List.length_cons] at later
    omega
  | _ => trivial

theorem unmarked_retirement : ∀ event ∈ retirement loop registration, event.marks = false := by
  intro event mem
  rw [(mem_retirement.mp mem).2]
  rfl

namespace Governed

/-- What neither starts code nor is a dispatch. -/
theorem unmarked (h : before.Governed base announced) (changes : Changes events before after)
    (none : ∀ event ∈ events, event.marks = false) (same : after.executing = before.executing) :
    after.Governed base announced where
  poised := {
    accounted := h.poised.accounted.silent changes fun id code notice found mem => nomatch none _ mem
    underway := by rw [changes.journal, underway_unmarked none, same, h.poised.underway]
    exclusive := by
      rw [changes.journal]
      exact along_append.mpr
        ⟨along_of_forall fun event mem _ => exclusive_unmarked (none event mem), h.poised.exclusive⟩ }
  inside := by
    rw [changes.journal]
    refine along_append.mpr ⟨along_of_forall fun event mem _ => ?_, h.inside⟩
    cases event with
    | callback => cases none _ mem
    | _ => trivial

theorem quiet (h : before.Governed base announced) (quiet : Quiet events before after) :
    after.Governed base announced :=
  h.unmarked (Change.quiet quiet).once (fun event mem => Event.marks_outward (quiet.outward event mem))
    quiet.executing

theorem setRunning (h : machine.Governed base announced) (loop : LoopId) (running : Bool) :
    (machine.setRunning loop running).Governed base announced :=
  h.unmarked (Change.setRunning machine loop running).once (fun _ mem => nomatch mem) rfl

theorem setSnapshots (h : machine.Governed base announced) (snapshots : List (List CallbackId)) :
    { machine with snapshots }.Governed base announced :=
  h.unmarked (Change.setSnapshots machine snapshots).once (fun _ mem => nomatch mem) rfl

theorem cycling (h : machine.Governed base announced) (loop : LoopId) :
    (machine.cycling loop).Governed base announced :=
  h.unmarked (changes_cycling machine loop) (fun _ mem => nomatch mem) rfl

theorem retiring (h : machine.Governed base announced) (loop : LoopId) (registration : Registration) :
    (machine.retiring loop registration).Governed base announced :=
  h.unmarked (Change.retire machine loop registration).once unmarked_retirement (executing_retiring _ _ _)

theorem dispatched {depth : Nat} {descriptor : Descriptor} {ready : Interest} (h : machine.Governed base [])
    (made : ∃ other registration, .loop other (.registered registration) ∈ machine.journal ∧
      registration.callback = id) (idle : id ∉ machine.executing) :
    (machine.note (.loop loop (.dispatched depth id descriptor ready))).Governed base [id] where
  poised := {
    accounted := h.poised.accounted.silent (Change.dispatched machine loop depth id descriptor ready).once
      (by simp)
    underway := congrArg (id :: ·) h.poised.underway
    exclusive := ⟨⟨by rwa [h.poised.underway], made⟩, h.poised.exclusive⟩ }
  inside := ⟨trivial, h.inside⟩

theorem announce (h : machine.Governed base []) (listing : Listing machine loop registration)
    (idle : registration.callback ∉ machine.executing) (ready : Interest) :
    Governed base [registration.callback] (machine.announced loop registration ready) := by
  refine (h.retiring loop registration).dispatched ⟨loop, registration, ?_, rfl⟩ ?_
  · rw [journal_retiring]
    exact List.mem_append_right _ listing.made
  · rwa [executing_retiring]

theorem finished {depth : Nat} (h : machine.Governed base [id]) :
    (machine.note (.loop loop (.finished depth id))).Governed base [] where
  poised := {
    accounted := h.poised.accounted.silent (Change.finished machine loop depth id).once (by simp)
    underway := by
      change (Machine.underway machine.journal).erase id = machine.executing
      rw [h.poised.underway]
      exact List.erase_cons_head _ _
    exclusive := ⟨⟨machine.executing, h.poised.underway⟩, h.poised.exclusive⟩ }
  inside := ⟨trivial, h.inside⟩

theorem started {callback : Callback} (h : machine.Governed base [id])
    (known : machine.callback? id = some callback)
    (gone : callback.once = true → machine.Gone id) : (machine.started id).Governed base [] where
  poised := {
    accounted := h.poised.accounted.silent (Change.start known gone).once (by simp)
    underway := h.poised.underway
    exclusive := h.poised.exclusive }
  inside := h.inside

theorem ended {outer : List CallbackId} (h : machine.Governed base []) (own : machine.executing = id :: outer) :
    (machine.ended id).Governed base [id] where
  poised := {
    accounted := h.poised.accounted.silent (Change.finish machine id).once (by simp)
    underway := by
      have rest : (machine.ended id).executing = outer := by
        rw [Machine.ended, own]
        exact List.erase_cons_head _ _
      rw [rest]
      exact h.poised.underway.trans own
    exclusive := h.poised.exclusive }
  inside := h.inside

/-- Code that starts as it should finds a sound machine. -/
theorem told {seen : Callback} {notice : Notice} (h : machine.Governed base [])
    (view : machine.view? id = some seen) (spent : seen.once = true → seen.spent = true)
    (launch : Launches machine.journal (.callback id seen.code notice machine.loops))
    (exclusive : Exclusive machine.journal (.callback id seen.code notice machine.loops)) :
    (machine.told id seen.code notice).Governed base [] := by
  have poised : (machine.told id seen.code notice).Sound := {
    accounted := h.poised.accounted.told view spent launch
    underway := h.poised.underway
    exclusive := ⟨exclusive, h.poised.exclusive⟩ }
  exact ⟨poised, fun _ => ⟨_, poised, rfl⟩, h.inside⟩

/-- Code with a result that was there at once runs under a callback that nothing knows. -/
theorem atOnce {callback : Callback} (h : machine.Governed base []) (spent : callback.spent = true)
    (notice : Notice) : ((machine.withCallback callback).told machine.callbacks.length callback.code
      notice).Governed base [] := by
  have unheard : Unheard machine.callbacks.length machine.journal := {
    idle := by
      rw [h.poised.underway]
      exact fun mem => Nat.lt_irrefl _ (h.poised.accounted.history.coherent.executing _ mem)
    silent := fun code notice found mem => by
      obtain ⟨seen, view, -⟩ := h.poised.accounted.started _ _ _ _ mem
      exact Nat.lt_irrefl _ (lt_of_view? view)
    unregistered := fun loop registration mem same =>
      Nat.lt_irrefl _ (same ▸ h.poised.accounted.history.lt_callbacks mem) }
  have poised : ((machine.withCallback callback).told machine.callbacks.length callback.code notice).Sound := {
    accounted := h.poised.accounted.atOnce spent notice
    underway := h.poised.underway
    exclusive := ⟨.inr unheard, h.poised.exclusive⟩ }
  exact ⟨poised, fun _ => ⟨_, poised, rfl⟩, h.inside⟩

end Governed

theorem unmarked_operation (h : Trace host (.operation loop registration) events before after) :
    ∀ event ∈ events, event.marks = false := by
  intro event mem
  obtain outward | rfl := operation_events h rfl event mem
  · exact Event.marks_outward outward
  · rfl

/-- A dispatch that is answered was the last thing of note. -/
theorem Telling.justDispatched {ready : Interest} {callback : Callback} {notice : Notice}
    (h : Telling host before middle loop registration ready callback notice events)
    (exclusive : Along Exclusive before.journal) : JustDispatched registration.callback middle.journal := by
  obtain ⟨-, depth, earlier, journal⟩ := h.based
  have law := exclusive
  rw [journal] at law
  refine ⟨events, loop, depth, registration.descriptor, ready, _, ?_, law.1.1, unmarked_operation h.operation⟩
  rw [h.journal, journal]

/-- The code that answers a dispatch starts as it should. -/
theorem Telling.governed {ready : Interest} {callback : Callback} {notice : Notice}
    (h : Telling host before middle loop registration ready callback notice events)
    (governed : before.Governed base [registration.callback]) (responded : middle.Governed base []) :
    (middle.told registration.callback callback.code notice).Governed base [] := by
  obtain ⟨seen, view, same, -, spent⟩ := h.seen
  have launches := h.launches governed.poised.accounted
  have just := h.justDispatched governed.poised.exclusive
  rw [← same] at launches ⊢
  exact responded.told view spent launches (.inl just)

def Place.own : Place → List CallbackId
  | .stretch _ => []
  | .reaction _ registration _ => [registration.callback]

/-- Whatever happens in a run keeps a machine as it should be. -/
theorem Trace.governed (h : Trace host place events before after) (governed : before.Governed base place.own)
    (based : place.Based before) : after.Governed base place.own := by
  induction h with
  | quiet h => exact governed.quiet h
  | poll current nonempty timeout reply outside =>
    exact governed.unmarked (Change.poll current nonempty timeout reply outside).once (by simp [Event.marks]) rfl
  | seq h _ ih ih' => exact ih' (ih governed based) (based.changes h.changes h.executing)
  | addLoop machine settings =>
    exact governed.unmarked (Change.addLoop machine settings).once (by simp [Event.marks]) rfl
  | register loop descriptor interest fresh fits apt =>
    exact governed.unmarked (Change.register loop descriptor interest fresh fits apt).once
      (by simp [Event.marks]) rfl
  | remove machine loop descriptor =>
    exact governed.unmarked (Change.remove machine loop descriptor).once (by simp [Event.marks]) rfl
  | atOnce spent _ ih => exact ih (governed.atOnce spent _) trivial
  | stop machine loop =>
    exact governed.unmarked ((Change.setRunning machine loop false).once.step (.stopped _ loop))
      (by simp [Event.marks]) rfl
  | @run _ _ loop _ _ ih => exact (ih (governed.setRunning loop true) trivial).setRunning loop false
  | @cycle machine after loop _ _ _ ih =>
    have listed : (Place.cycle loop (machine.entries loop)).Based (machine.cycling loop) :=
      fun registration mem =>
        (governed.poised.accounted.history.listing mem).changes (changes_cycling machine loop) rfl
    exact (ih (governed.cycling loop) listed).setSnapshots machine.snapshots
  | @skip _ loop _ registration _ _ => exact governed.retiring loop registration
  | @dispatch machine after loop _ registration ready events member idle _ ih =>
    have changes := changes_announced machine loop registration ready
    have listing := based registration member
    exact (ih (governed.announce listing idle ready) ⟨listing.changes changes
      (executing_announced _ _ _ _), machine.snapshots.length, machine.journal, changes.journal⟩).finished
  | withdraw machine loop registration =>
    exact governed.unmarked (Change.withdraw machine loop _ _).once (by simp [Event.marks]) rfl
  | spent => exact governed
  | @overlooked machine middle _ _ registration _ _ _ _ known _ gone _ operation _ release ih =>
    have responded := ih (governed.started known gone) trivial
    exact (responded.ended operation.executing).quiet release
  | @told machine middle inside _ _ registration _ callback _ _ _ _ known fresh gone response operation
      code _ release ih ih' =>
    have telling : Telling host machine middle _ registration _ callback _ _ :=
      ⟨based, known, fresh, gone, response, operation⟩
    have begun := telling.governed governed (ih (governed.started known gone) trivial)
    exact ((ih' begun trivial).ended (code.executing.trans operation.executing)).quiet release

/-- Everything that led to a machine between two actions of a program is as it should be. -/
theorem Reachable.governed (h : Reachable host machine) : machine.Governed 0 [] := by
  obtain ⟨outside, trace, -⟩ := h.trace
  exact trace.governed ⟨sound_new outside, trivial⟩ trivial

/-- The actions of a program leave a sound machine sound, and so does the code that they start. -/
theorem Sound.performed {budget : Nat} {action : Action ω} {answer : Answer} (h : machine.Sound)
    (ran : perform host budget action machine = some (answer, after)) :
    after.Governed machine.journal.length [] := by
  obtain ⟨events, trace⟩ := runs_perform budget action machine answer after h.accounted.history.coherent ran
  exact trace.governed h.governed trivial

theorem JustDispatched.underway (h : JustDispatched id events) : id ∈ underway events := by
  obtain ⟨calls, loop, depth, descriptor, ready, earlier, rfl, -, unmarked⟩ := h
  rw [underway_unmarked unmarked]
  exact List.mem_cons_self

/-- Between two starts of the code of a callback the first dispatch came to its end. -/
theorem finished_between {between : List Event} {code code' : CodeId} {notice notice' : Notice}
    {found found' : List EventLoop} (launches : Along Launches events) (exclusive : Along Exclusive events)
    (split : events = late ++ .callback id code notice found ::
      (between ++ .callback id code' notice' found' :: early)) :
    ∃ loop depth, .loop loop (.finished depth id) ∈ between := by
  subst split
  obtain ⟨second, exclusive⟩ := (along_append.mp exclusive).2
  cases second with
  | inr unheard => exact absurd (List.mem_append_right between List.mem_cons_self) (unheard.silent _ _ _)
  | inl dispatched =>
    obtain ⟨calls, loop, depth, descriptor, ready, earlier, same, idle, unmarked⟩ := dispatched
    obtain ⟨rest, rfl, -⟩ | ⟨rest, inner, rfl⟩ := split_append same.symm
    · cases unmarked _ (List.mem_append_right between List.mem_cons_self)
    obtain ⟨inner', rfl, rfl⟩ := cons_split (by simp) inner
    have first : Exclusive early (.callback id code' notice' found') := exclusive.at_split
    cases first with
    | inl started =>
      have was : id ∈ underway (.callback id code' notice' found' :: early) := started.underway
      obtain ⟨loop, depth, mem⟩ := finished_of_not_underway was idle
      exact ⟨loop, depth, by simp [mem]⟩
    | inr unheard =>
      -- A callback that ran at once is never registered, so it is not dispatched either.
      have law : Exclusive _ (.loop loop (.dispatched depth id descriptor ready)) :=
        (List.append_assoc .. ▸ exclusive).at_split
      obtain ⟨other, registration, mem, rfl⟩ := law.2
      obtain after | before := List.mem_append.mp mem
      · obtain ⟨late', early', rfl⟩ := List.append_of_mem after
        have whole : Along Launches ((calls ++ .loop loop (.dispatched depth registration.callback
            descriptor ready) :: late') ++ .loop other (.registered registration) ::
              (early' ++ .callback registration.callback code' notice' found' :: early)) := by
          simpa using (along_append.mp launches).2.2
        exact absurd (List.mem_append_right early' List.mem_cons_self) (whole.at_split _ _ _)
      · exact absurd rfl (unheard.unregistered other registration
          ((List.mem_cons.mp before).resolve_left nofun))

end Machine
end NetReactor
