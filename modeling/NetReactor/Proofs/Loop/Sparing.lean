import NetReactor.Proofs.Loop.Steady
import NetReactor.Proofs.Machine.Actions
/-!
Programs that do not run a given loop. An interpreter that refuses such runs, at any depth, does what the
interpreter does, as far as it comes; and whatever it does, the loop is kept running until it is stopped. Where only
the interpreter itself comes to an end, a run inside has left the loop not running.
-/
namespace NetReactor

def LoopRequest.isRun : LoopRequest → Bool
  | .run _ | .runDefault => true
  | _ => false

namespace Machine

variable {ω α β : Type} {host : Host ω} {loop other : LoopId} {budget : Nat} {machine : Machine ω}

def runsLoop (machine : Machine ω) (loop : LoopId) : Action ω → Bool
  | .loop (.request name request) => request.isRun && machine.loopHandles.get? name == some loop
  | _ => false

/-- Performs the actions of programs that do not run the loop; for any other program it gives nothing. -/
def performBut (host : Host ω) (loop : LoopId) : (budget : Nat) → Action ω → Run ω Answer
  | 0, _ => Budgeted.exhausted
  | budget + 1, action => do
    if (← get).runsLoop loop action then Budgeted.exhausted
    else act host (performBut host loop budget) budget action

def SparesAt (loop : LoopId) (machine : Machine ω) (guarded actual : Run ω α) : Prop :=
  ∀ result after, guarded machine = some (result, after) →
    actual machine = some (result, after) ∧ ∃ events, Steady loop events machine after

def Spares (loop : LoopId) (guarded actual : Run ω α) : Prop :=
  ∀ machine, loop < machine.loops.length → SparesAt loop machine guarded actual

inductive Shadow (loop : LoopId) (machine : Machine ω) :
    Option (α × Machine ω) → Option (α × Machine ω) → Prop
  | same {result : α} {after : Machine ω} {events : List Event} (steady : Steady loop events machine after) :
    Shadow loop machine (some (result, after)) (some (result, after))
  | refused {result : α} {after : Machine ω} (loops : machine.loops.length ≤ after.loops.length)
    (idle : after.isRunning loop = false) : Shadow loop machine none (some (result, after))
  | neither : Shadow loop machine none none

def Shadows (loop : LoopId) (guarded actual : Run ω α) : Prop :=
  ∀ machine, loop < machine.loops.length → Shadow loop machine (guarded machine) (actual machine)

namespace Shadow

variable {restricted free : Option (α × Machine ω)}

theorem loops (h : Shadow loop machine restricted free) {result : α} (ran : free = some (result, after)) :
    machine.loops.length ≤ after.loops.length := by
  cases h with
  | same steady => cases ran; exact steady.loops
  | refused loops _ => cases ran; exact loops
  | neither => cases ran

/-- Nothing but a run of the loop makes it running, and such a run is over when it comes to an end. -/
theorem idle (h : Shadow loop machine restricted free) (idle : machine.isRunning loop = false) {result : α}
    (ran : free = some (result, after)) : after.isRunning loop = false := by
  cases h with
  | same steady =>
    cases ran
    exact Bool.eq_false_iff.mpr fun running => Bool.eq_false_iff.mp idle (steady.running.mp running).1
  | refused _ idle => cases ran; exact idle
  | neither => cases ran

/-- What comes after a refusal is not seen, and the loop stays as the inner run left it. -/
theorem refuse (loops : machine.loops.length ≤ middle.loops.length) (idle : middle.isRunning loop = false)
    (h : Shadow loop middle restricted free) : Shadow loop machine none free := by
  cases ran : free with
  | none => exact .neither
  | some done =>
    obtain ⟨result, after⟩ := done
    exact .refused (Nat.le_trans loops (h.loops ran)) (h.idle idle ran)

theorem after (begun : Steady loop events machine middle) (h : Shadow loop middle restricted free) :
    Shadow loop machine restricted free := by
  cases h with
  | same steady => exact .same (begun.trans steady)
  | refused loops idle => exact .refused (Nat.le_trans begun.loops loops) idle
  | neither => exact .neither

theorem bind {next follow : α × Machine ω → Option (β × Machine ω)} (h : Shadow loop machine restricted free)
    (known : loop < machine.loops.length)
    (hn : ∀ a middle, loop < middle.loops.length → Shadow loop middle (next (a, middle)) (follow (a, middle))) :
    Shadow loop machine (restricted.bind next) (free.bind follow) := by
  cases h with
  | same steady => exact .after steady (hn _ _ (Nat.lt_of_lt_of_le known steady.loops))
  | refused loops idle => exact .refuse loops idle (hn _ _ (Nat.lt_of_lt_of_le known loops))
  | neither => exact .neither

theorem map {finish : α × Machine ω → β × Machine ω} (h : Shadow loop machine restricted free)
    (known : loop < machine.loops.length)
    (hf : ∀ a middle, ∃ events, Steady loop events middle (finish (a, middle)).2) :
    Shadow loop machine (restricted.map finish) (free.map finish) := by
  rw [Option.map_eq_bind, Option.map_eq_bind]
  refine h.bind known fun a middle _ => ?_
  obtain ⟨events, steady⟩ := hf a middle
  exact .same steady

end Shadow

namespace Shadows

theorem spares {guarded actual : Run ω α} (h : Shadows loop guarded actual) : Spares loop guarded actual := by
  intro machine known result after ran
  have shadow := h machine known
  rw [ran] at shadow
  generalize ran' : actual machine = free at shadow
  cases shadow with
  | same steady => exact ⟨rfl, _, steady⟩

theorem idle {guarded actual : Run ω α} (h : Shadows loop guarded actual) (known : loop < machine.loops.length)
    (refused : guarded machine = none) {result : α} (ran : actual machine = some (result, after)) :
    after.isRunning loop = false := by
  have shadow := h machine known
  rw [refused, ran] at shadow
  cases shadow with
  | refused _ idle => exact idle

theorem quiet {action : Run ω α} (h : QuietRun action) : Shadows loop action action := by
  intro machine _
  cases ran : action machine with
  | none => exact .neither
  | some done =>
    obtain ⟨events, quiet⟩ := h machine done.1 done.2 ran
    exact .same quiet.steady

theorem pure (a : α) : Shadows loop (pure a : Run ω α) (Pure.pure a) := .quiet (.pure a)

theorem exhausted : Shadows loop (Budgeted.exhausted : Run ω α) Budgeted.exhausted :=
  fun _ _ => .neither

theorem lift {action : Step ω α} (h : Keeps loop action) :
    Shadows loop (liftM action : Run ω α) (liftM action) := by
  intro machine known
  obtain ⟨events, steady⟩ := h machine known
  exact .same steady

theorem modify {change : Machine ω → Machine ω} (h : ∀ machine, Steady loop [] machine (change machine)) :
    Shadows loop (modify change : Run ω PUnit) (MonadStateOf.modifyGet fun s => (PUnit.unit, change s)) :=
  fun machine _ => .same (h machine)

theorem bind {guarded actual : Run ω α} {next follow : α → Run ω β} (h : Shadows loop guarded actual)
    (hn : ∀ a, Shadows loop (next a) (follow a)) : Shadows loop (guarded >>= next) (actual >>= follow) :=
  fun machine known => (h machine known).bind known fun a middle => hn a middle

theorem get {next follow : Machine ω → Run ω α}
    (h : ∀ machine, loop < machine.loops.length →
      Shadow loop machine (next machine machine) (follow machine machine)) :
    Shadows loop (get >>= next) (MonadState.get >>= follow) :=
  h

theorem usingLoop {guarded actual : Run ω α} (h : Shadows loop guarded actual) :
    Shadows loop (usingLoop host other guarded) (usingLoop host other actual) := by
  refine .bind (.modify fun _ => .of_same rfl rfl) fun _ => .bind h fun answer =>
    .bind (.modify fun _ => .of_same rfl rfl) fun _ => .bind (.lift keeps_releaseLoop) fun _ => .pure _

theorem usingSocket (socket : SocketId) {guarded actual : Run ω α} (h : Shadows loop guarded actual) :
    Shadows loop (usingSocket host socket guarded) (usingSocket host socket actual) := by
  refine .bind (.modify fun _ => .of_same rfl rfl) fun _ => .bind h fun answer =>
    .bind (.modify fun _ => .of_same rfl rfl) fun _ =>
      .bind (.lift (.quiet (quietly_releaseSocket host socket))) fun _ => .pure _

end Shadows

section
variable {guarded actual : Action ω → Run ω Answer} (code : ∀ action, Shadows loop (guarded action) (actual action))
include code

theorem shadows_program (program : Program ω) :
    Shadows loop (runProgram guarded program) (runProgram actual program) := by
  induction program with
  | done => exact .pure _
  | perform label action next ih =>
    refine .bind (code action) fun answer => .bind (fun machine _ => ?_) fun _ => ih answer
    exact .same (Quiet.note machine rfl rfl).steady

theorem shadows_runCode (id : CallbackId) (notice : Notice) :
    Shadows loop (runCode host guarded id notice) (runCode host actual id notice) := by
  intro machine known
  cases present : machine.callback? id with
  | none =>
    rw [runCode, run_get, runCode, run_get, present]
    exact Shadows.pure () machine known
  | some callback =>
    have told : Steady loop _ machine (machine.told id callback.code notice) := steady_told ..
    rw [runCode_eq present, runCode_eq present]
    exact .after told (shadows_program code _ _ (Nat.lt_of_lt_of_le known told.loops))

theorem shadows_atOnce (operation : Operation) (number : CodeId) (notice : Notice) :
    Shadows loop (runAtOnce host guarded operation number notice)
      (runAtOnce host actual operation number notice) := by
  refine .bind (.lift fun machine _ => ?_) fun id => shadows_runCode code id notice
  exact ⟨[], .of_same rfl rfl⟩

theorem shadows_react (id : CallbackId) (operation : Operation) (descriptor : Descriptor)
    (ready : Interest) : Shadows loop (react host guarded other id operation descriptor ready)
      (react host actual other id operation descriptor ready) := by
  rw [react_eq, react_eq]
  refine .bind (.lift (keeps_respond id operation descriptor ready)) fun response => ?_
  cases response with
  | none => exact .pure _
  | some notice => exact shadows_runCode code id notice

theorem shadows_fire (id : CallbackId) (descriptor : Descriptor) (ready : Interest) :
    Shadows loop (fire host guarded other id descriptor ready)
      (fire host actual other id descriptor ready) := by
  intro machine known
  cases present : machine.callback? id with
  | none =>
    rw [fire, run_get, fire, run_get, present]
    exact Shadows.pure () machine known
  | some callback =>
    rw [fire_eq present, fire_eq present]
    split
    · exact .same (.refl _)
    · have begun : Steady loop [] machine (machine.started id) := .of_same rfl rfl
      refine Shadow.map (.after begun (shadows_react code _ _ _ _ _ known)) known fun _ inside => ?_
      have finish : Steady loop [] inside (inside.ended id) := .of_same rfl rfl
      obtain ⟨released, release⟩ := quietly_releaseCallback host id (inside.ended id)
      exact ⟨released, finish.later release.steady⟩

theorem shadows_dispatch {entry : PollEntry} {registration : Registration}
    (named : entry.descriptor = registration.descriptor) :
    Shadows loop (dispatch host guarded other entry registration)
      (dispatch host actual other entry registration) := by
  intro machine known
  rw [dispatch_eq named, dispatch_eq named]
  split
  · exact .same (.refl _)
  · split
    · exact .same (steady_retiring machine registration)
    · have begun : Steady loop _ machine (machine.announced other registration entry.returned) :=
        steady_announced ..
      have there := Nat.lt_of_lt_of_le known begun.loops
      refine Shadow.map (.after begun (shadows_fire code _ _ _ _ there)) known fun _ inside => ?_
      exact ⟨_, steady_note inside (by simp)⟩

theorem shadows_dispatchAll {entries : List (PollEntry × Registration)}
    (named : ∀ pair ∈ entries, pair.1.descriptor = pair.2.descriptor) :
    Shadows loop (dispatchAll host guarded other entries) (dispatchAll host actual other entries) := by
  induction entries with
  | nil => exact .pure _
  | cons pair rest ih =>
    have others := ih fun other mem => named other (List.mem_cons_of_mem _ mem)
    exact .bind (shadows_dispatch code (named pair (List.mem_cons_self ..))) fun ran =>
      .bind others fun count => .pure _

omit code in
theorem steady_polled (host : Host ω) (machine : Machine ω) (other : LoopId) (timeout : Option Duration) :
    Steady loop [.syscall (pollCall (machine.entries other) timeout) (pollReply host machine other timeout)]
      machine (machine.polled host other timeout) := by
  have buffered : Steady loop [] machine (machine.setBuffer other []) := (quiet_setBuffer ..).steady
  refine buffered.later (.of_silent rfl (Nat.le_refl _) rfl (by simp) fun event mem early => ?_)
  cases List.mem_singleton.mp mem
  trivial

theorem shadows_runOnce (timeout : Option Duration) :
    Shadows loop (runOnce host guarded other timeout) (runOnce host actual other timeout) := by
  intro machine known
  by_cases nonempty : machine.entries other = []
  · rw [runOnce_empty nonempty, runOnce_empty nonempty]
    exact .same (.refl _)
  · rw [runOnce_eq nonempty, runOnce_eq nonempty]
    have polling : Steady loop _ machine (machine.polled host other timeout) := steady_polled ..
    have there := Nat.lt_of_lt_of_le known polling.loops
    refine Shadow.map (.after polling (shadows_dispatchAll code (fun pair mem => (mem_reportedTo mem).2) _ there))
      known fun count inside => ?_
    have buffered : Quiet [] inside (inside.setBuffer other
        (reportedEntries (machine.entries other) (pollReply host machine other timeout))) :=
      quiet_setBuffer ..
    obtain ⟨-, released, quiet⟩ := quiet_releaseSnapshot host
      ((machine.entries other).map (·.callback)) (inside.setBuffer other
        (reportedEntries (machine.entries other) (pollReply host machine other timeout)))
    have release : Steady loop released inside _ := buffered.steady.later quiet.steady
    exact ⟨released, { release with }⟩

theorem shadows_cycles (timeout : Option Duration) (budget : Nat) :
    Shadows loop (cycles host guarded other timeout budget) (cycles host actual other timeout budget) := by
  induction budget with
  | zero => exact .exhausted
  | succ budget ih =>
    refine .get fun machine known => ?_
    split
    · exact Shadows.bind (shadows_runOnce code timeout) (fun _ => ih) machine known
    · exact Shadows.pure _ machine known

omit code in
theorem run_eq {perform : Action ω → Run ω Answer} {timeout : Option Duration} {limit : Nat} :
    run host perform loop timeout limit machine =
      (cycles host perform loop timeout limit (machine.setRunning loop true)).map fun done =>
        ((), done.2.setRunning loop false) := by
  rw [run, run_modify, Option.map_eq_bind]
  rfl

/-- A run of another loop. -/
theorem shadows_run (apart : other ≠ loop) (timeout : Option Duration) (budget : Nat) :
    Shadows loop (run host guarded other timeout budget) (run host actual other timeout budget) := by
  have flag (running : Bool) (machine : Machine ω) :
      Steady loop [] machine (machine.setRunning other running) :=
    steady_updateLoop machine fun same => absurd same apart
  exact .bind (.modify (flag true)) fun _ => .bind (shadows_cycles code timeout budget) fun _ =>
    .modify (flag false)

/-- A run of the loop itself, which leaves it not running. -/
theorem shadows_runAgain (timeout : Option Duration) (budget : Nat) :
    Shadows loop Budgeted.exhausted (run host actual loop timeout budget) := by
  intro machine known
  rw [run_eq]
  have begun := (grows_setRunning machine loop true).loops
  have cycled : Shadow loop _ (cycles host guarded loop timeout budget _)
      (cycles host actual loop timeout budget (machine.setRunning loop true)) :=
    shadows_cycles code timeout budget _ (Nat.lt_of_lt_of_le known begun)
  cases ran : cycles host actual loop timeout budget (machine.setRunning loop true) with
  | none => exact .neither
  | some done =>
    obtain ⟨⟨⟩, last⟩ := done
    have ended := (grows_setRunning last loop false).loops
    exact .refused (Nat.le_trans begun (Nat.le_trans (cycled.loops ran) ended))
      (isRunning_setRunning_false last loop)

theorem shadows_askLoop {request : LoopRequest} (idle : other = loop → request.isRun = false) :
    Shadows loop (askLoop host guarded budget other request) (askLoop host actual budget other request) := by
  have apart (again : request.isRun = true) : other ≠ loop := fun same => by
    rw [idle same] at again
    cases again
  refine .get fun machine known => ?_
  cases request with
  | add descriptor interest number once =>
    exact Shadows.bind (.lift (keeps_register descriptor interest _)) (fun _ => .pure _) machine known
  | remove descriptor =>
    exact Shadows.bind (.lift (keeps_unregister _ descriptor)) (fun _ => .pure _) machine known
  | runOnce timeout =>
    exact Shadows.bind (shadows_runOnce code timeout) (fun _ => .pure _) machine known
  | run timeout =>
    exact Shadows.bind (shadows_run code (apart rfl) timeout budget) (fun _ => .pure _) machine known
  | runDefault =>
    exact Shadows.bind (shadows_run code (apart rfl) _ budget) (fun _ => .pure _) machine known
  | stop => exact .same (steady_stop machine known)
  | _ => exact Shadows.pure _ machine known

/-- What is asked of the loop is that it be run. -/
theorem shadows_askRun {request : LoopRequest} (again : request.isRun = true) :
    Shadows loop Budgeted.exhausted (askLoop host actual budget loop request) := by
  have ran (timeout : Option Duration) :
      Shadows loop (Budgeted.exhausted >>= fun _ : Unit => pure Answer.nothing)
        (run host actual loop timeout budget >>= fun _ => pure Answer.nothing) :=
    .bind (shadows_runAgain code timeout budget) fun _ => .pure _
  intro machine known
  cases request with
  | run timeout => exact ran timeout machine known
  | runDefault => exact ran (machine.loopAt loop).defaultTimeout machine known
  | _ => cases again

theorem shadow_loopAction {action : LoopAction} (known : loop < machine.loops.length)
    (idle : machine.runsLoop loop (.loop action : Action ω) = false) :
    Shadow loop machine (loopAction host guarded budget action machine)
      (loopAction host actual budget action machine) := by
  unfold loopAction
  rw [run_get, run_get]
  cases action with
  | create name settings =>
    have add : Keeps loop (addLoop settings.build : Step ω LoopId) :=
      fun machine known => ⟨_, steady_withLoop machine settings known⟩
    exact Shadows.bind (.lift add) (fun _ => .bind (.lift (keeps_storeLoop name)) fun _ => .pure _)
      machine known
  | clone name other =>
    dsimp only
    cases machine.loopHandles.get? name with
    | none => exact Shadows.pure _ machine known
    | some _ => exact Shadows.bind (.lift (keeps_storeLoop other)) (fun _ => .pure _) machine known
  | drop name =>
    dsimp only
    cases machine.loopHandles.get? name with
    | none => exact Shadows.pure _ machine known
    | some _ =>
      have dropped : Steady loop [] machine
          { machine with loopHandles := machine.loopHandles.without name } := .of_same rfl rfl
      exact .after dropped (Shadows.bind (.lift keeps_releaseLoop) (fun _ => .pure _) _ known)
  | weaken weak name =>
    dsimp only
    cases machine.loopHandles.get? name with
    | none => exact Shadows.pure _ machine known
    | some _ => exact .same (.of_same rfl rfl)
  | upgrade weak keep =>
    dsimp only
    cases machine.upgraded? weak with
    | none => exact Shadows.pure _ machine known
    | some _ =>
      cases keep with
      | none => exact Shadows.pure _ machine known
      | some name => exact Shadows.bind (.lift (keeps_storeLoop name)) (fun _ => .pure _) machine known
  | weakRemove weak descriptor =>
    dsimp only
    cases machine.upgraded? weak with
    | none => exact Shadows.pure _ machine known
    | some _ =>
      exact Shadows.bind (.lift (keeps_unregister _ descriptor)) (fun _ => .pure _) machine known
  | weakText weak => exact Shadows.pure _ machine known
  | request name request =>
    dsimp only
    cases handle : machine.loopHandles.get? name with
    | none => exact Shadows.pure _ machine known
    | some other =>
      refine Shadows.usingLoop (shadows_askLoop code fun same => ?_) machine known
      simpa [runsLoop, handle, same] using idle

/-- An action that runs the loop is refused whole. -/
theorem shadow_again {action : Action ω} (known : loop < machine.loops.length)
    (again : machine.runsLoop loop action = true) :
    Shadow loop machine none (act host actual budget action machine) := by
  cases action with
  | loop action =>
    cases action with
    | request name request =>
      obtain ⟨asked, handle⟩ : request.isRun = true ∧ machine.loopHandles.get? name = some loop := by
        simpa [runsLoop] using again
      have ran : Shadows loop (usingLoop host loop Budgeted.exhausted)
          (usingLoop host loop (askLoop host actual budget loop request)) :=
        .usingLoop (shadows_askRun code asked)
      rw [act, loopAction, run_get]
      dsimp only
      rw [handle]
      exact ran machine known
    | _ => cases again
  | _ => cases again

theorem shadows_startAsync (socket : SocketId) (request : AsyncRequest) :
    Shadows loop (startAsync host guarded other socket request)
      (startAsync host actual other socket request) := by
  have waits (interest : Interest) (once : Bool) (operation : Operation) (number : CodeId) :
      Keeps loop (await host other socket interest once operation number) :=
    .bind .get fun machine => keeps_register _ interest _
  refine .get fun machine known => ?_
  cases request with
  | connect address number =>
    have quiet : Quietly (onSocket socket (·.connect (kernel host) address)) :=
      quietly_onSocket socket fun _ => quietly_call host _ _ fun _ _ => rfl
    refine Shadows.bind (.lift (.quiet quiet)) (fun connected => ?_) machine known
    cases connected with
    | ok done => exact shadows_atOnce code _ _ _
    | error failure =>
      cases failure with
      | wouldBlock => exact .lift (waits _ _ _ _)
      | _ => exact shadows_atOnce code _ _ _
  | accept keep number =>
    dsimp only
    split
    · exact Shadows.lift (waits _ _ _ _) machine known
    · exact shadows_atOnce code _ _ _ machine known
  | send data number =>
    dsimp only
    split
    · exact Shadows.lift (waits _ _ _ _) machine known
    · exact shadows_atOnce code _ _ _ machine known
  | recv buffer number =>
    dsimp only
    split
    · exact Shadows.lift (waits _ _ _ _) machine known
    · exact shadows_atOnce code _ _ _ machine known
  | cancel =>
    exact Shadows.get (fun _ => Shadows.lift (keeps_unregister _ _) _) machine known

theorem shadows_socketAction (action : SocketAction) :
    Shadows loop (socketAction host guarded action) (socketAction host actual action) := by
  cases action with
  | async name handle request =>
    refine .get fun first known => Shadows.get (fun machine known => ?_) first known
    cases (first.socketHandles.get? name).filter (·.asynchronous) with
    | none => exact Shadows.pure _ machine known
    | some socket =>
      cases machine.loopHandles.get? handle with
      | none => exact Shadows.pure _ machine known
      | some other =>
        exact Shadows.usingSocket _ (.usingLoop
          (.bind (shadows_startAsync code _ request) fun _ => .pure _)) machine known
  | _ => exact .quiet (quiet_socketAction (by simp))

theorem shadow_act {action : Action ω} (known : loop < machine.loops.length)
    (idle : machine.runsLoop loop action = false) :
    Shadow loop machine (act host guarded budget action machine) (act host actual budget action machine) := by
  cases action with
  | loop action => exact shadow_loopAction code known idle
  | socket action => exact shadows_socketAction code action machine known
  | session action => exact Shadows.quiet (quiet_sessionAction host budget action) machine known
  | outside change => exact .same (.of_same rfl rfl)

end

/-- A program that runs the loop leaves it not running; any other keeps it running until it stops it. -/
theorem shadows_perform (budget : Nat) (action : Action ω) :
    Shadows loop (performBut host loop budget action) (perform host budget action) := by
  induction budget generalizing action with
  | zero => exact .exhausted
  | succ budget ih =>
    intro machine known
    rw [performBut, run_get, perform]
    split
    · next again => exact shadow_again ih known again
    · next idle => exact shadow_act ih known (Bool.eq_false_iff.mpr idle)

/-- Programs that do not run a loop keep it running until they stop it. -/
theorem spares_perform (budget : Nat) (action : Action ω) :
    Spares loop (performBut host loop budget action) (perform host budget action) :=
  (shadows_perform budget action).spares

/-- What restricted programs do are stretches of runs too. -/
theorem runs_performBut (budget : Nat) (action : Action ω) :
    Runs host .code (performBut host loop budget action) := by
  induction budget generalizing action with
  | zero => exact .quiet .exhausted
  | succ budget ih =>
    refine .bind (.quiet .get) fun machine => ?_
    split
    · exact .quiet .exhausted
    · exact runs_act ih budget action

end Machine
end NetReactor
