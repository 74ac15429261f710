import NetReactor.Machine.Perform
import NetReactor.Proofs.Machine.Cycle
/-!
Every action of a program has a trace, by induction on its budget. With it the invariant of machines holds of
all that programs bring about.
-/
namespace NetReactor.Machine

variable {ω α : Type} {host : Host ω}

theorem does_register {machine : Machine ω} {loop : LoopId} {descriptor : Descriptor}
    {interest : Interest} {callback : Callback} (fresh : callback.spent = false)
    (fits : machine.Fits callback.operation descriptor)
    (apt : callback.once = true → callback.operation.accepts = false) :
    ∃ events, Trace host .code events machine
      (register host loop descriptor interest callback machine).2 := by
  obtain ⟨events, released⟩ := quietly_releaseOld host _ (machine.enrolled loop descriptor interest callback)
  exact ⟨_, .seq (.register loop descriptor interest fresh fits apt) (.quiet released)⟩

theorem does_releaseLoop (loop : LoopId) : Does host .code (releaseLoop host loop) :=
  .of_within (within_releaseLoop (does_unregister loop))

theorem does_storeLoop (name : Nat) (loop : LoopId) : Does host .code (storeLoop host name loop) :=
  .of_within (within_storeLoop traced_of_quieted does_unregister name)

theorem runs_usingLoop (loop : LoopId) {action : Run ω α} (h : Runs host .code action) :
    Runs host .code (usingLoop host loop action) := by
  refine .bind (.quiet (.modify fun _ => ?_)) fun _ => .bind h fun _ =>
    .bind (.quiet (.modify fun _ => ?_)) fun _ =>
      .bind (.lift (does_releaseLoop loop)) fun _ => .pure _
  · exact .of_same rfl rfl rfl rfl rfl rfl
  · exact .of_same rfl rfl rfl rfl rfl rfl

theorem runs_usingSocket (socket : SocketId) {action : Run ω α} (h : Runs host .code action) :
    Runs host .code (usingSocket host socket action) := by
  refine .bind (.quiet (.modify fun _ => ?_)) fun _ => .bind h fun _ =>
    .bind (.quiet (.modify fun _ => ?_)) fun _ =>
      .bind (.lift (.quiet (quietly_releaseSocket host socket))) fun _ => .pure _
  · exact .of_same rfl rfl rfl rfl rfl rfl
  · exact .of_same rfl rfl rfl rfl rfl rfl

section
variable {perform : Action ω → Run ω Answer} (code : ∀ action, Runs host .code (perform action))
include code

theorem runs_askLoop (budget : Nat) (loop : LoopId) (request : LoopRequest) :
    Runs host .code (askLoop host perform budget loop request) := by
  refine .bind (.quiet .get) fun machine => ?_
  cases request with
  | add descriptor interest number once =>
    refine .bind (.lift fun machine _ => ?_) fun _ => .pure _
    exact does_register rfl (fun socket needed => nomatch needed) fun _ => rfl
  | remove descriptor => exact .bind (.lift (does_unregister loop descriptor)) fun _ => .pure _
  | runOnce timeout => exact .bind (runs_runOnce code loop timeout) fun _ => .pure _
  | run timeout => exact .bind (runs_run code loop timeout budget) fun _ => .pure _
  | runDefault => exact .bind (runs_run code loop _ budget) fun _ => .pure _
  | stop =>
    refine .bind ?_ fun _ => .pure _
    intro machine result after _ h
    cases h
    exact ⟨_, .stop machine loop⟩
  | _ => exact .pure _

theorem runs_loopAction (budget : Nat) (action : LoopAction) :
    Runs host .code (loopAction host perform budget action) := by
  intro machine result after coherent h
  rw [loopAction, run_get] at h
  have changed {handled : Machine ω} {rest : Run ω Answer} (h : rest handled = some (result, after))
      (same : Quiet [] machine handled) (hr : Runs host .code rest) :
      ∃ events, Trace host .code events machine after := by
    obtain ⟨events, trace⟩ := hr handled result after (coherent.change (.quiet same)) h
    exact ⟨_, .seq (.quiet same) trace⟩
  have here {rest : Run ω Answer} (hr : Runs host .code rest)
      (h : rest machine = some (result, after)) := hr machine result after coherent h
  cases action with
  | create name settings =>
    have add : Does host .code (addLoop settings.build) := fun machine _ => ⟨_, .addLoop machine settings⟩
    exact here (.bind (.lift add) fun loop =>
      .bind (.lift (does_storeLoop name loop)) fun _ => .pure _) h
  | clone name other =>
    dsimp only at h
    cases handle : machine.loopHandles.get? name <;> rw [handle] at h
    · exact here (.pure _) h
    · exact here (.bind (.lift (does_storeLoop other _)) fun _ => .pure _) h
  | drop name =>
    dsimp only at h
    cases handle : machine.loopHandles.get? name <;> rw [handle] at h
    · exact here (.pure _) h
    · dsimp only at h
      rw [run_set] at h
      exact changed h (.of_same rfl rfl rfl rfl rfl rfl)
        (.bind (.lift (does_releaseLoop _)) fun _ => .pure _)
  | weaken weak name =>
    dsimp only at h
    cases handle : machine.loopHandles.get? name <;> rw [handle] at h
    · exact here (.pure _) h
    · dsimp only at h
      rw [run_set] at h
      exact changed h (.of_same rfl rfl rfl rfl rfl rfl) (.pure _)
  | upgrade weak keep =>
    dsimp only at h
    cases alive : machine.upgraded? weak <;> cases keep <;> rw [alive] at h
    · exact here (.pure _) h
    · exact here (.pure _) h
    · exact here (.pure _) h
    · exact here (.bind (.lift (does_storeLoop _ _)) fun _ => .pure _) h
  | weakRemove weak descriptor =>
    dsimp only at h
    cases alive : machine.upgraded? weak <;> rw [alive] at h
    · exact here (.pure _) h
    · exact here (.bind (.lift (does_unregister _ descriptor)) fun _ => .pure _) h
  | weakText weak => exact here (.pure _) h
  | request name request =>
    dsimp only at h
    cases handle : machine.loopHandles.get? name <;> rw [handle] at h
    · exact here (.pure _) h
    · exact here (runs_usingLoop _ (runs_askLoop code budget _ request)) h

omit code in
/-- A background operation is put into the place of its open socket. -/
theorem await_trace {machine : Machine ω} (host : Host ω) (loop : LoopId) {socket : SocketId}
    (interest : Interest) (once : Bool) {operation : Operation} (number : CodeId)
    (needed : operation.socket? = some socket)
    (isOpen : (machine.socketAt socket).isOpen = true)
    (apt : once = true → operation.accepts = false) :
    ∃ events, Trace host .code events machine
      (await host loop socket interest once operation number machine).2 := by
  refine does_register rfl (fun other same => ?_) apt
  cases needed.symm.trans same
  exact ⟨isOpen, rfl⟩

omit code in
theorem isOpen_of_connecting {machine middle : Machine ω} {socket : SocketId} {address : Address}
    (h : onSocket socket (·.connect (kernel host) address) machine = (.error .wouldBlock, middle)) :
    (middle.socketAt socket).isOpen = true := by
  have h : (machine.socketAt socket).connect (kernel host) address machine =
      (.error .wouldBlock, middle) := h
  unfold Socket.connect Socket.call at h
  cases isOpen : (machine.socketAt socket).isOpen with
  | true =>
    rw [isOpen] at h
    cases congrArg Prod.snd h
    exact isOpen
  | false =>
    rw [isOpen] at h
    cases congrArg Prod.fst h

theorem runs_startAsync (loop : LoopId) (socket : SocketId) (request : AsyncRequest) :
    Runs host .code (startAsync host perform loop socket request) := by
  intro machine result after coherent h
  rw [startAsync, run_get] at h
  have waiting {interest : Interest} {once : Bool} {operation : Operation} {number : CodeId}
      {loud : Run ω Unit} (needed : operation.socket? = some socket) (hl : Runs host .code loud)
      (h : (if (machine.socketAt socket).isOpen = true then
        (await host loop socket interest once operation number : Step ω Unit) else loud : Run ω Unit)
          machine = some (result, after)) (apt : once = true → operation.accepts = false) :
      ∃ events, Trace host .code events machine after := by
    split at h
    · next isOpen =>
      obtain ⟨events, trace⟩ := await_trace host loop interest once number needed isOpen apt
      have last : (await host loop socket interest once operation number machine).2 = after :=
        congrArg Prod.snd (Option.some.inj h)
      exact ⟨events, last ▸ trace⟩
    · exact hl machine result after coherent h
  cases request with
  | connect address number =>
    dsimp only at h
    rw [run_lift] at h
    have quiet : Quietly (onSocket socket (·.connect (kernel host) address)) :=
      quietly_onSocket socket fun _ => quietly_call host _ _ fun _ _ => rfl
    obtain ⟨early, connected⟩ := quiet machine
    generalize connecting : onSocket socket (·.connect (kernel host) address) machine = answer
      at h connected
    obtain ⟨answer, middle⟩ := answer
    have loud (h : runAtOnce host perform (.connect socket) number (.connected answer) middle =
        some (result, after)) : ∃ events, Trace host .code events machine after := by
      obtain ⟨late, trace⟩ := runs_atOnce code _ _ _ middle result after
        (coherent.change (.quiet connected)) h
      exact ⟨_, .seq (.quiet connected) trace⟩
    cases answer with
    | ok done => exact loud h
    | error failure =>
      cases failure with
      | wouldBlock =>
        obtain ⟨late, trace⟩ := await_trace host loop Interest.write true number
          (show (Operation.connect socket).socket? = some socket from rfl)
          (isOpen_of_connecting connecting) fun _ => rfl
        cases congrArg Prod.snd (Option.some.inj h)
        exact ⟨_, .seq (.quiet connected) trace⟩
      | _ => exact loud h
  | accept keep number => exact waiting rfl (runs_atOnce code _ _ _) h fun single => nomatch single
  | send data number => exact waiting rfl (runs_atOnce code _ _ _) h fun _ => rfl
  | recv buffer number => exact waiting rfl (runs_atOnce code _ _ _) h fun _ => rfl
  | cancel =>
    exact Runs.bind (.quiet .get) (fun _ => .lift (does_unregister loop _)) machine result after
      coherent h

omit code in
/-- Sockets answer quietly, unless they are to do something in the background. -/
theorem quiet_socketAction {action : SocketAction}
    (h : ∀ name loop request, action ≠ .async name loop request) :
    QuietRun (socketAction host perform action) := by
  cases action with
  | create name family asynchronous =>
    refine .bind (.lift (quietly_create host family)) fun created => ?_
    cases created with
    | error failure => exact .pure _
    | ok socket =>
      refine .bind (.lift (quietly_addSocket socket)) fun id => ?_
      cases asynchronous with
      | true => exact .lift (quietly_becomeAsync host name id)
      | false => exact .bind (.lift (quietly_storeSocket host _ _)) fun _ => .pure _
  | adopt name descriptor =>
    refine .bind (.lift (quietly_addSocket _)) fun id => .bind (fun machine _ _ h => ?_) fun _ =>
      .bind (.lift (quietly_storeSocket host _ _)) fun _ => .pure _
    cases h
    exact ⟨_, .note machine rfl rfl⟩
  | giveUp name =>
    refine .bind (.lift (quietly_takeSocket name _)) fun taken => ?_
    cases taken with
    | none => exact .pure _
    | some handle =>
      refine .bind .get fun machine => .bind (fun machine _ _ h => ?_) fun _ => .pure _
      cases h
      exact ⟨_, (Quiet.note machine rfl rfl).shutting (.inl ⟨_, rfl, List.mem_cons_self ..⟩)⟩
  | makeAsync name source =>
    refine .bind (.lift (quietly_takeSocket source _)) fun taken => ?_
    cases taken with
    | none => exact .pure _
    | some handle => exact .lift (quietly_becomeAsync host name handle.id)
  | drop name =>
    refine .bind (.lift (quietly_takeSocket name _)) fun taken => ?_
    cases taken with
    | none => exact .pure _
    | some handle => exact .bind (.lift (quietly_releaseSocket host handle.id)) fun _ => .pure _
  | request name request =>
    refine .bind .get fun machine => ?_
    split
    · exact .pure _
    · exact .lift (quietly_askSocket host _ request)
  | async name loop request => exact absurd rfl (h name loop request)
  | familyOf address => exact .pure _

theorem runs_socketAction (action : SocketAction) :
    Runs host .code (socketAction host perform action) := by
  cases action with
  | async name loop request =>
    refine .bind (.quiet .get) fun machine => .bind (.quiet .get) fun machine => ?_
    split
    · exact runs_usingSocket _ (runs_usingLoop _
        (.bind (runs_startAsync code _ _ request) fun _ => .pure _))
    · exact .pure _
  | _ => exact .quiet (quiet_socketAction (by simp))

theorem runs_act (budget : Nat) (action : Action ω) : Runs host .code (act host perform budget action) := by
  cases action with
  | loop action => exact runs_loopAction code budget action
  | socket action => exact runs_socketAction code action
  | session action => exact .quiet (quiet_sessionAction host budget action)
  | outside change =>
    refine .bind (.quiet (.modify fun _ => ?_)) fun _ => .pure _
    exact .of_same rfl rfl rfl rfl rfl rfl

end

/-- Every action of a program is a stretch of a run. -/
theorem runs_perform (budget : Nat) (action : Action ω) : Runs host .code (perform host budget action) := by
  induction budget generalizing action with
  | zero => exact .quiet .exhausted
  | succ budget ih => exact runs_act ih budget action

inductive Reachable (host : Host ω) : Machine ω → Prop
  | new (outside : ω) : Reachable host { outside }
  | perform {machine after : Machine ω} {budget : Nat} {action : Action ω} {answer : Answer}
    (h : Reachable host machine) (hp : perform host budget action machine = some (answer, after)) :
    Reachable host after

/-- All that led to a machine, as one stretch of code. -/
theorem Reachable.trace {machine : Machine ω} (h : Reachable host machine) :
    ∃ outside, Trace host .code machine.journal { outside } machine ∧ machine.Coherent := by
  induction h with
  | new outside => exact ⟨outside, .quiet (.refl _), coherent_new outside⟩
  | @perform machine after budget action answer _ hp ih =>
    obtain ⟨outside, early, coherent⟩ := ih
    obtain ⟨events, late⟩ := runs_perform budget action machine answer after coherent hp
    rw [late.changes.journal]
    exact ⟨outside, .seq early late, coherent.changes late.changes⟩

/-- Between its actions a program finds the machine coherent, and no callback or cycle still running. -/
theorem Reachable.coherent {machine : Machine ω} (h : Reachable host machine) :
    machine.Coherent ∧ machine.executing = [] ∧ machine.snapshots = [] := by
  induction h with
  | new outside => exact ⟨coherent_new outside, rfl, rfl⟩
  | @perform machine after budget action answer _ hp ih =>
    obtain ⟨coherent, idle, empty⟩ := ih
    obtain ⟨events, trace⟩ := runs_perform budget action machine answer after coherent hp
    exact ⟨coherent.changes trace.changes, trace.executing.trans idle, trace.snapshots.trans empty⟩

def performAll (host : Host ω) (budget : Nat) : List (Action ω) → Machine ω → Option (Machine ω)
  | [], machine => some machine
  | action :: rest, machine =>
    (perform host budget action machine).bind fun done => performAll host budget rest done.2

theorem Reachable.performAll {budget : Nat} {actions : List (Action ω)} {machine after : Machine ω}
    (h : Reachable host machine) (ran : performAll host budget actions machine = some after) :
    Reachable host after := by
  induction actions generalizing machine with
  | nil =>
    cases ran
    exact h
  | cons action rest ih =>
    obtain ⟨⟨answer, middle⟩, performed, ran⟩ := Option.bind_eq_some_iff.mp ran
    exact ih (h.perform performed) ran

inductive Onward (host : Host ω) (start : Machine ω) : Machine ω → Prop
  | refl : Onward host start start
  | perform {machine after : Machine ω} {budget : Nat} {action : Action ω} {answer : Answer}
    (h : Onward host start machine) (hp : perform host budget action machine = some (answer, after)) :
    Onward host start after

theorem Onward.trace {before after : Machine ω} (h : Onward host before after) (coherent : before.Coherent) :
    ∃ events, Trace host .code events before after := by
  induction h with
  | refl => exact ⟨[], .quiet (.refl before)⟩
  | @perform machine after budget action answer _ hp ih =>
    obtain ⟨early, trace⟩ := ih
    obtain ⟨late, more⟩ := runs_perform budget action machine answer after (coherent.changes trace.changes) hp
    exact ⟨_, .seq trace more⟩

end NetReactor.Machine
