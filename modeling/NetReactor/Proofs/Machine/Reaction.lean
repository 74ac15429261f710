import NetReactor.Proofs.Machine.Coherence
import NetReactor.Proofs.Machine.Within
/-!
One dispatch as a trace. Whatever a program may do inside is an argument here, as in the definitions: all that
is needed of it is that it has traces itself.
-/
namespace NetReactor.Machine

variable {ω α β : Type} {host : Host ω} {stretch : Stretch}

def Runs (host : Host ω) (stretch : Stretch) (action : Run ω α) : Prop :=
  ∀ machine result after, machine.Coherent → action machine = some (result, after) →
    ∃ events, Trace host (.stretch stretch) events machine after

def Does (host : Host ω) (stretch : Stretch) (action : Step ω α) : Prop :=
  ∀ machine, machine.Coherent → ∃ events, Trace host (.stretch stretch) events machine (action machine).2

def Traced (host : Host ω) (stretch : Stretch) (before after : Machine ω) : Prop :=
  before.Coherent → ∃ events, Trace host (.stretch stretch) events before after

instance : IsPreorder (Machine ω) (Traced host stretch) where
  refl machine _ := ⟨[], .quiet (.refl machine)⟩
  trans _ _ _ := by
    intro h h' coherent
    obtain ⟨early, he⟩ := h coherent
    obtain ⟨late, hl⟩ := h' (coherent.changes he.changes)
    exact ⟨late ++ early, .seq he hl⟩

theorem traced_of_quieted : Subrelation Quieted (Traced host stretch) := by
  rintro before after ⟨events, quiet⟩ _
  exact ⟨events, .quiet quiet⟩

theorem run_bind_eq (action : Run ω α) (next : α → Run ω β) (machine : Machine ω) :
    (action >>= next) machine = (action machine).bind fun done => next done.1 done.2 := rfl

theorem run_bind {action : Run ω α} {next : α → Run ω β} {machine after : Machine ω} {result : β}
    (h : (action >>= next) machine = some (result, after)) :
    ∃ first middle, action machine = some (first, middle) ∧ next first middle = some (result, after) := by
  rw [run_bind_eq] at h
  obtain ⟨⟨first, middle⟩, ha, hn⟩ := Option.bind_eq_some_iff.mp h
  exact ⟨first, middle, ha, hn⟩

theorem run_pure (a : α) (machine : Machine ω) : (pure a : Run ω α) machine = some (a, machine) := rfl

theorem run_get (next : Machine ω → Run ω β) (machine : Machine ω) :
    (get >>= next) machine = next machine machine := rfl

theorem run_modify (change : Machine ω → Machine ω) (next : PUnit → Run ω β) (machine : Machine ω) :
    ((modify change : Run ω PUnit) >>= next) machine = next () (change machine) := rfl

theorem run_set (stored : Machine ω) (next : PUnit → Run ω β) (machine : Machine ω) :
    ((set stored : Run ω PUnit) >>= next) machine = next () stored := rfl

theorem run_lift (action : Step ω α) (next : α → Run ω β) (machine : Machine ω) :
    ((liftM action : Run ω α) >>= next) machine = next (action machine).1 (action machine).2 := rfl

namespace Does

theorem of_within {action : Step ω α} (h : Within (Traced host stretch) action) : Does host stretch action := h

theorem quiet {action : Step ω α} (h : Quietly action) : Does host stretch action :=
  .of_within (h.within traced_of_quieted)

end Does

namespace Runs

theorem quiet {action : Run ω α} (h : QuietRun action) : Runs host stretch action := by
  intro machine result after _ hr
  obtain ⟨events, quiet⟩ := h machine result after hr
  exact ⟨events, .quiet quiet⟩

theorem pure (a : α) : Runs host stretch (pure a : Run ω α) := .quiet (.pure a)

theorem lift {action : Step ω α} (h : Does host stretch action) :
    Runs host stretch (liftM action : Run ω α) := by
  intro machine result after coherent hr
  have last : (action machine).2 = after := congrArg Prod.snd (Option.some.inj hr)
  exact last ▸ h machine coherent

theorem bind {action : Run ω α} {next : α → Run ω β}
    (h : Runs host stretch action) (hn : ∀ a, Runs host stretch (next a)) :
    Runs host stretch (action >>= next) := by
  intro machine result after coherent hr
  obtain ⟨a, middle, ha, hb⟩ := run_bind hr
  obtain ⟨early, he⟩ := h machine a middle coherent ha
  obtain ⟨late, hl⟩ := hn a middle result after (coherent.changes he.changes) hb
  exact ⟨late ++ early, .seq he hl⟩

end Runs

theorem does_unregister (loop : LoopId) (descriptor : Descriptor) :
    Does host .code (unregister host loop descriptor) :=
  .of_within (within_takeAway traced_of_quieted fun machine _ => ⟨_, .remove machine loop descriptor⟩)

theorem does_withdraw (loop : LoopId) (registration : Registration) :
    Does host (.operation loop registration)
      (withdraw host loop registration.descriptor registration.callback) :=
  .of_within (within_takeAway traced_of_quieted fun machine _ => ⟨_, .withdraw machine loop registration⟩)

theorem does_respond (host : Host ω) (loop : LoopId) (registration : Registration) (operation : Operation)
    (ready : Interest) :
    Does host (.operation loop registration) (respond host loop registration.callback operation
      registration.descriptor ready) :=
  .of_within (within_respond traced_of_quieted fun _ => does_withdraw loop registration)

/-- A reaction is what the operation tells, and then the code with it. -/
theorem react_eq (perform : Action ω → Run ω Answer) (loop : LoopId) (id : CallbackId)
    (operation : Operation) (descriptor : Descriptor) (ready : Interest) :
    react host perform loop id operation descriptor ready = (do
      match ← (respond host loop id operation descriptor ready : Step ω _) with
      | some notice => runCode host perform id notice
      | none => pure () : Run ω Unit) := by
  cases operation with
  | accept socket keep =>
    funext machine
    unfold react respond
    dsimp only
    rw [run_lift, run_lift]
    change _ = (match (acceptResult host loop id socket keep descriptor ready machine).1.map
        Notice.accepted with
      | some notice => runCode host perform id notice
      | none => pure ()) (acceptResult host loop id socket keep descriptor ready machine).2
    cases (acceptResult host loop id socket keep descriptor ready machine).1 <;> rfl
  | _ => rfl

section
variable {perform : Action ω → Run ω Answer} (code : ∀ action, Runs host .code (perform action))
include code

theorem runs_program (program : Program ω) : Runs host .code (runProgram perform program) := by
  induction program with
  | done => exact .pure _
  | perform label action next ih =>
    refine .bind (code action) fun answer => .bind ?_ fun _ => ih answer
    intro machine result after _ h
    cases h
    exact ⟨_, .quiet (Quiet.note machine rfl rfl)⟩

omit code in
/-- The code of a callback runs from the moment it is told something. -/
theorem runCode_eq {machine : Machine ω} {id : CallbackId} {callback : Callback} {notice : Notice}
    (known : machine.callback? id = some callback) :
    runCode host perform id notice machine =
      runProgram perform (host.code callback.code callback.calls notice machine.outside)
        (machine.told id callback.code notice) := by
  rw [runCode, run_get, known]
  rfl

theorem runCode_told {machine after : Machine ω} {id : CallbackId} {callback : Callback}
    {notice : Notice} {result : Unit} (coherent : machine.Coherent)
    (known : machine.callback? id = some callback)
    (h : runCode host perform id notice machine = some (result, after)) :
    ∃ events, Trace host .code events (machine.told id callback.code notice) after := by
  rw [runCode_eq known] at h
  exact runs_program code _ _ _ _ (coherent.change (.tell machine id callback.code notice)) h

theorem runs_atOnce (operation : Operation) (number : CodeId) (notice : Notice) :
    Runs host .code (runAtOnce host perform operation number notice) := by
  intro machine result after coherent h
  let callback : Callback := { operation, code := number, once := true, spent := true }
  have known : (machine.withCallback callback).callback? machine.callbacks.length = some callback := by
    simp [callback?, withCallback]
  obtain ⟨events, trace⟩ :=
    runCode_told code (coherent.change (.create rfl)) known h
  exact ⟨_, .atOnce rfl trace⟩

omit code in
theorem fire_eq {machine : Machine ω} {loop : LoopId} {id : CallbackId} {descriptor : Descriptor}
    {ready : Interest} {callback : Callback} (present : machine.callback? id = some callback) :
    fire host perform loop id descriptor ready machine =
      if callback.spent then some ((), machine)
      else (react host perform loop id callback.operation descriptor ready (machine.started id)).map
        fun run => releaseCallback host id (run.2.ended id) := by
  rw [fire, run_get, present]
  dsimp only
  cases callback.spent with
  | true => rfl
  | false =>
    rw [Bool.not_false, if_pos rfl, if_neg Bool.false_ne_true, run_modify]
    change ((react host perform loop id callback.operation descriptor ready (machine.started id)).bind
      fun run => some (releaseCallback host id (run.2.ended id))) = _
    exact (Option.map_eq_bind ..).symm

/-- A callback that a dispatch runs. If it is for a single dispatch it must be registered nowhere. -/
theorem fire_reaction {machine after : Machine ω} {loop : LoopId} {registration : Registration}
    {ready : Interest} {result : Unit} (coherent : machine.Coherent)
    (gone : registration.once = true → machine.Gone registration.callback)
    (known : ∃ seen, machine.view? registration.callback = some seen ∧ seen.once = registration.once)
    (h : fire host perform loop registration.callback registration.descriptor ready machine =
      some (result, after)) :
    ∃ events, Trace host (.reaction loop registration ready) events machine after := by
  obtain ⟨seen, view, once⟩ := known
  obtain ⟨callback, present, rfl⟩ := callback?_of_view? view
  have gone : callback.once = true → machine.Gone registration.callback :=
    fun single => gone (once.symm.trans single)
  rw [fire_eq present] at h
  cases fresh : callback.spent with
  | true =>
    rw [fresh, if_pos rfl] at h
    cases h
    exact ⟨[], .spent present fresh⟩
  | false =>
    rw [fresh, if_neg Bool.false_ne_true, react_eq] at h
    obtain ⟨⟨⟨⟩, inside⟩, reacted, ended⟩ := Option.map_eq_some_iff.mp h
    have start := coherent.change (.start present gone)
    obtain ⟨responded, operation⟩ := does_respond host loop registration callback.operation
      ready (machine.started registration.callback) start
    obtain ⟨released, release⟩ := quietly_releaseCallback host registration.callback
      (inside.ended registration.callback)
    have lets : (releaseCallback host registration.callback (inside.ended registration.callback)).2 =
        after := congrArg Prod.snd ended
    rw [lets] at release
    rw [run_lift] at reacted
    generalize response : respond host loop registration.callback callback.operation
      registration.descriptor ready (machine.started registration.callback) = answer
      at operation reacted
    obtain ⟨notice, middle⟩ := answer
    cases notice with
    | none =>
      cases reacted
      exact ⟨_, @Trace.overlooked _ _ _ _ _ _ _ _ _ _ _ present fresh gone response operation lets release⟩
    | some notice =>
      have grows := (grows_started machine registration.callback).trans operation.changes.grows
      obtain ⟨current, known, code'⟩ := grows.code present
      obtain ⟨events, inner⟩ := runCode_told code (start.changes operation.changes) known reacted
      rw [code'] at inner
      exact ⟨_, @Trace.told _ _ _ _ _ _ _ _ _ _ _ _ _ _ present fresh gone response operation inner lets
        release⟩

end

end NetReactor.Machine
