import NetReactor.Proofs.Loop.Reentry
/-!
Where the actions of programs are performed. An interpreter that refuses to act in a machine that is not sound does
what the interpreter does, at any depth: wherever code runs, it finds a sound machine.
-/
namespace NetReactor.Machine

variable {ω α β : Type} {host : Host ω} {machine after : Machine ω} {loop : LoopId} {events : List Event}
variable {registration : Registration} {entry : PollEntry} {base budget : Nat}

open Classical in
/-- Performs actions in machines of one kind only; in any other it gives nothing. -/
noncomputable def performIn (host : Host ω) (kind : Machine ω → Prop) : (budget : Nat) → Action ω → Run ω Answer
  | 0, _ => Budgeted.exhausted
  | budget + 1, action => do
    if kind (← get) then act host (performIn host kind budget) budget action else Budgeted.exhausted

theorem Sound.quiet (h : machine.Sound) (quiet : Quiet events machine after) : after.Sound :=
  (h.governed.quiet quiet).poised

theorem Sound.ran {action : Run ω α} {result : α} (h : machine.Sound) (runs : Runs host .code action)
    (ran : action machine = some (result, after)) : after.Sound := by
  obtain ⟨events, trace⟩ := runs machine result after h.accounted.history.coherent ran
  exact (trace.governed h.governed trivial).poised

def Agrees (confined free : Run ω α) : Prop := ∀ machine, machine.Sound → confined machine = free machine

namespace Agrees

variable {confined free : Run ω α}

theorem bind {next follow : α → Run ω β} (h : Agrees confined free) (runs : Runs host .code free)
    (hn : ∀ a, Agrees (next a) (follow a)) : Agrees (confined >>= next) (free >>= follow) := by
  intro machine sound
  rw [run_bind_eq, run_bind_eq, h machine sound]
  cases ran : free machine with
  | none => rfl
  | some done => exact hn done.1 done.2 (sound.ran runs ran)

theorem andThen (h : Agrees confined free) (next : α → Run ω β) : Agrees (confined >>= next) (free >>= next) := by
  intro machine sound
  rw [run_bind_eq, run_bind_eq, h machine sound]

theorem usingLoop (h : Agrees confined free) :
    Agrees (Machine.usingLoop host loop confined) (Machine.usingLoop host loop free) := by
  intro machine sound
  rw [Machine.usingLoop, Machine.usingLoop, run_modify, run_modify]
  exact h.andThen _ _ (sound.quiet (.of_same rfl rfl rfl rfl rfl rfl))

theorem usingSocket (socket : SocketId) (h : Agrees confined free) :
    Agrees (Machine.usingSocket host socket confined) (Machine.usingSocket host socket free) := by
  intro machine sound
  rw [Machine.usingSocket, Machine.usingSocket, run_modify, run_modify]
  exact h.andThen _ _ (sound.quiet (.of_same rfl rfl rfl rfl rfl rfl))

end Agrees

section
variable {confined free : Action ω → Run ω Answer} (code : ∀ action, Agrees (confined action) (free action))
variable (runs : ∀ action, Runs host .code (free action))
include code runs

theorem agrees_program (program : Program ω) : Agrees (runProgram confined program) (runProgram free program) := by
  induction program with
  | done => exact fun _ _ => rfl
  | perform label action next ih =>
    exact .bind (code action) (runs action) fun answer machine sound =>
      ih answer _ (sound.quiet (Quiet.note machine rfl rfl))

/-- The code of a callback does the same if it starts in a sound machine. -/
theorem agrees_runCode {id : CallbackId} {callback : Callback} {notice : Notice}
    (known : machine.callback? id = some callback) (told : (machine.told id callback.code notice).Sound) :
    runCode host confined id notice machine = runCode host free id notice machine := by
  rw [runCode_eq known, runCode_eq known]
  exact agrees_program code runs _ _ told

theorem agrees_atOnce (operation : Operation) (number : CodeId) (notice : Notice) :
    Agrees (runAtOnce host confined operation number notice) (runAtOnce host free operation number notice) := by
  intro machine sound
  let callback : Callback := { operation, code := number, once := true, spent := true }
  have known : (machine.withCallback callback).callback? machine.callbacks.length = some callback := by
    simp [callback?, withCallback]
  exact agrees_runCode code runs known (sound.governed.atOnce rfl notice).poised

/-- What a dispatch runs. Between the dispatch and the code a callback is underway that is not executing, so it is
the start of the code that has to be sound. -/
theorem agrees_fire {ready : Interest} (governed : machine.Governed base [registration.callback])
    (based : (Place.reaction loop registration ready).Based machine) (found : machine.Found loop registration)
    (gone : registration.once = true → machine.Gone registration.callback) :
    fire host confined loop registration.callback registration.descriptor ready machine =
      fire host free loop registration.callback registration.descriptor ready machine := by
  obtain ⟨seen, view, once⟩ := found.known
  obtain ⟨callback, known, rfl⟩ := callback?_of_view? view
  have gone : callback.once = true → machine.Gone registration.callback :=
    fun single => gone (once.symm.trans single)
  rw [fire_eq known, fire_eq known]
  cases fresh : callback.spent with
  | true => rfl
  | false =>
    have started := governed.started known gone
    obtain ⟨responded, operation⟩ := does_respond host loop registration callback.operation ready
      (machine.started registration.callback) started.poised.accounted.history.coherent
    rw [if_neg Bool.false_ne_true, if_neg Bool.false_ne_true, react_eq, react_eq, run_lift, run_lift]
    generalize response : respond host loop registration.callback callback.operation registration.descriptor
      ready (machine.started registration.callback) = answer at operation
    obtain ⟨notice, middle⟩ := answer
    cases notice with
    | none => rfl
    | some notice =>
      have telling : Telling host machine middle loop registration ready callback notice responded :=
        ⟨based, known, fresh, gone, response, operation⟩
      have told := telling.governed governed (operation.governed started trivial)
      have grows := (grows_started machine registration.callback).trans operation.changes.grows
      obtain ⟨current, present, same⟩ := grows.code known
      rw [← same] at told
      exact congrArg (Option.map _) (agrees_runCode code runs present told.poised)

theorem agrees_dispatch (named : entry.descriptor = registration.descriptor) (sound : machine.Sound)
    (found : machine.Found loop registration) (listing : Listing machine loop registration) :
    dispatch host confined loop entry registration machine = dispatch host free loop entry registration machine := by
  rw [dispatch_eq named, dispatch_eq named]
  split
  · rfl
  · split
    · rfl
    · next idle =>
      have changes := changes_announced machine loop registration entry.returned
      have announced := sound.governed.announce listing idle entry.returned
      have based : (Place.reaction loop registration entry.returned).Based
          (machine.announced loop registration entry.returned) :=
        ⟨listing.changes changes (executing_announced _ _ _ _), machine.snapshots.length, machine.journal,
          changes.journal⟩
      rw [agrees_fire code runs announced based (found.changes changes) found.gone]

/-- The registrations of a cycle were found before its first dispatch, and each dispatch leaves a sound machine. -/
theorem agrees_dispatchAll {entries : List (PollEntry × Registration)}
    (named : ∀ pair ∈ entries, pair.1.descriptor = pair.2.descriptor) (sound : machine.Sound)
    (found : ∀ pair ∈ entries, machine.Found loop pair.2)
    (listing : ∀ pair ∈ entries, Listing machine loop pair.2) :
    dispatchAll host confined loop entries machine = dispatchAll host free loop entries machine := by
  induction entries generalizing machine with
  | nil => rfl
  | cons pair rest ih =>
    have here := List.mem_cons_self (a := pair) (l := rest)
    rw [dispatchAll_cons, dispatchAll_cons,
      agrees_dispatch code runs (named pair here) sound (found pair here) (listing pair here)]
    cases ran : dispatch host free loop pair.1 pair.2 machine with
    | none => rw [Option.bind_none, Option.bind_none]
    | some done =>
      obtain ⟨yes, middle⟩ := done
      obtain ⟨events, dispatched⟩ := dispatch_inv runs (named pair here) sound.accounted.history.coherent
        (found pair here) ran
      have trace : Trace host (.cycle loop [pair.2]) events machine middle :=
        dispatched.trace (List.mem_singleton.mpr rfl)
      have after := trace.governed sound.governed fun registration mem =>
        List.mem_singleton.mp mem ▸ listing pair here
      rw [Option.bind_some, Option.bind_some,
        ih (fun other mem => named other (List.mem_cons_of_mem _ mem)) after.poised
        (fun other mem => (found other (List.mem_cons_of_mem _ mem)).changes trace.changes)
        fun other mem => (listing other (List.mem_cons_of_mem _ mem)).changes trace.changes trace.executing]

theorem agrees_runOnce (loop : LoopId) (timeout : Option Duration) :
    Agrees (runOnce host confined loop timeout) (runOnce host free loop timeout) := by
  intro machine sound
  by_cases nonempty : machine.entries loop = []
  · rw [runOnce_empty nonempty, runOnce_empty nonempty]
  · have polling := changes_polled host nonempty timeout
    have poll : Trace host (.cycle loop []) _ _ _ := trace_polled nonempty timeout []
    have polled := poll.governed (sound.governed.cycling loop) fun _ mem => nomatch mem
    have history := sound.accounted.history
    rw [runOnce_eq nonempty, runOnce_eq nonempty, agrees_dispatchAll code runs
      (fun pair mem => (mem_reportedTo mem).2) polled.poised
      (fun pair mem => (history.coherent.found (mem_reportedTo mem).1).changes polling)
      fun pair mem => (history.listing (mem_reportedTo mem).1).changes polling rfl]

theorem agrees_cycles (loop : LoopId) (timeout : Option Duration) (budget : Nat) :
    Agrees (cycles host confined loop timeout budget) (cycles host free loop timeout budget) := by
  induction budget with
  | zero => exact fun _ _ => rfl
  | succ budget ih =>
    intro machine sound
    rw [cycles, run_get, cycles, run_get]
    split
    · exact Agrees.bind (agrees_runOnce code runs loop timeout) (runs_runOnce runs loop timeout) (fun _ => ih)
        machine sound
    · rfl

theorem agrees_run (loop : LoopId) (timeout : Option Duration) (budget : Nat) :
    Agrees (run host confined loop timeout budget) (run host free loop timeout budget) := by
  intro machine sound
  rw [run, run, run_modify, run_modify]
  exact (agrees_cycles code runs loop timeout budget).andThen _ _ (sound.governed.setRunning loop true).poised

theorem agrees_askLoop (budget : Nat) (loop : LoopId) (request : LoopRequest) :
    Agrees (askLoop host confined budget loop request) (askLoop host free budget loop request) := by
  intro machine sound
  rw [askLoop, run_get, askLoop, run_get]
  cases request with
  | runOnce timeout => exact (agrees_runOnce code runs loop timeout).andThen _ machine sound
  | run timeout => exact (agrees_run code runs loop timeout budget).andThen _ machine sound
  | runDefault => exact (agrees_run code runs loop _ budget).andThen _ machine sound
  | _ => rfl

theorem agrees_loopAction (budget : Nat) (action : LoopAction) :
    Agrees (loopAction host confined budget action) (loopAction host free budget action) := by
  intro machine sound
  cases action with
  | request name request =>
    rw [loopAction, run_get, loopAction, run_get]
    dsimp only
    cases machine.loopHandles.get? name with
    | none => rfl
    | some loop => exact (agrees_askLoop code runs budget loop request).usingLoop machine sound
  | _ => rfl

theorem agrees_startAsync (loop : LoopId) (socket : SocketId) (request : AsyncRequest) :
    Agrees (startAsync host confined loop socket request) (startAsync host free loop socket request) := by
  intro machine sound
  have unlessOpen (waits : Run ω Unit) (operation : Operation) (number : CodeId) (notice : Notice) :
      (if (machine.socketAt socket).isOpen then waits
        else runAtOnce host confined operation number notice : Run ω Unit) machine =
      (if (machine.socketAt socket).isOpen then waits
        else runAtOnce host free operation number notice : Run ω Unit) machine := by
    split
    · rfl
    · exact agrees_atOnce code runs operation number notice machine sound
  rw [startAsync, run_get, startAsync, run_get]
  cases request with
  | connect address number =>
    have quietly : Quietly (onSocket socket (·.connect (kernel host) address)) :=
      quietly_onSocket socket fun _ => quietly_call host _ _ fun _ _ => rfl
    obtain ⟨events, quiet⟩ := quietly machine
    dsimp only
    rw [run_lift, run_lift]
    cases (onSocket socket (·.connect (kernel host) address) machine).1 with
    | ok done => exact agrees_atOnce code runs _ _ _ _ (sound.quiet quiet)
    | error failure =>
      cases failure with
      | wouldBlock => rfl
      | _ => exact agrees_atOnce code runs _ _ _ _ (sound.quiet quiet)
  | accept keep number => exact unlessOpen _ _ _ _
  | send data number => exact unlessOpen _ _ _ _
  | recv buffer number => exact unlessOpen _ _ _ _
  | cancel => rfl

theorem agrees_socketAction (action : SocketAction) :
    Agrees (socketAction host confined action) (socketAction host free action) := by
  intro machine sound
  cases action with
  | async name handle request =>
    rw [socketAction, socketAction, run_get, run_get, run_get, run_get]
    cases (machine.socketHandles.get? name).filter (·.asynchronous) with
    | none => rfl
    | some socket =>
      cases machine.loopHandles.get? handle with
      | none => rfl
      | some loop =>
        exact Agrees.usingSocket _ (.usingLoop ((agrees_startAsync code runs loop _ request).andThen _)) machine sound
  | _ => rfl

theorem agrees_act (budget : Nat) (action : Action ω) :
    Agrees (act host confined budget action) (act host free budget action) := by
  cases action with
  | loop action => exact agrees_loopAction code runs budget action
  | socket action => exact agrees_socketAction code runs action
  | _ => exact fun _ _ => rfl

end

/-- All actions of a program that starts in a sound machine are performed in sound machines, however deep. -/
theorem agrees_performIn (budget : Nat) (action : Action ω) :
    Agrees (performIn host Sound budget action) (perform host budget action) := by
  induction budget generalizing action with
  | zero => exact fun _ _ => rfl
  | succ budget ih =>
    intro machine sound
    rw [performIn, run_get, if_pos sound, perform]
    exact agrees_act ih (runs_perform budget) budget action machine sound

end NetReactor.Machine
