import NetReactor.Proofs.Machine.Actions
import NetReactor.Proofs.Ownership.Using
/-!
Every action keeps custody, whatever goes on around it and whatever the code of callbacks does inside it.
-/
namespace NetReactor.Machine

variable {ω : Type} {host : Host ω} {scene : Scene} {machine : Machine ω}

theorem passes_storeLoop (name : Nat) (loop : LoopId) :
    Passes (Custody scene {}) (storeLoop host name loop) fun _ => Custody scene {} :=
  fun _ h => h.storedLoop host rfl rfl name loop

theorem Custody.withLoop (h : Custody scene {} machine) (settings : LoopSettings) :
    Custody scene {} (machine.withLoop settings) :=
  h.same (h.books.one rfl rfl rfl) rfl rfl rfl rfl rfl (fun _ => rfl) fun other =>
    congrArg Registry.entries (registry_withLoop machine settings other)

/-- A name is taken away from a loop, which is stray then if that was its last one. -/
theorem Custody.unnamedLoop (h : Custody scene {} machine) (host : Host ω) {name : Nat} {loop : LoopId}
    (there : machine.loopHandles.get? name = some loop) :
    Custody scene {}
      (releaseLoop host loop { machine with loopHandles := machine.loopHandles.without name }).2 := by
  have names := h.loopNames.without name
  have dropped := h.loops rfl machine.busyLoops names (some loop) fun other keeps => by
    rw [keepsLoop_iff names]
    obtain busy | ⟨known, other'⟩ := (keepsLoop_iff h.loopNames).mp keeps
    · exact .inl (.inl busy)
    · by_cases own : name = known
      · subst own
        exact .inr (there.symm.trans other')
      · exact .inl (.inr ⟨known, by rw [Table.get?_without, if_neg own, other']⟩)
  exact (dropped.reframe h.scene).releasedLoop host rfl rfl

section
variable {perform : Action ω → Run ω Answer}
variable (code : ∀ scene action, Leads (Custody scene {}) (perform action) fun _ => Custody scene {})
include code

theorem leads_askLoop {loop : LoopId} (busy : loop ∈ scene.busyLoops) (budget : Nat) (request : LoopRequest) :
    Leads (Custody scene {}) (askLoop host perform budget loop request) fun _ => Custody scene {} := by
  refine .bind .get fun machine => .weaken ?_ fun _ h => h.1
  have finished {a : Answer} : Leads (Custody scene {}) (pure a : Run ω Answer) fun _ => Custody scene {} :=
    .pure fun _ h => h
  cases request with
  | add descriptor interest number once =>
    have watches (socket : SocketId) (works : Operation.watch.socket? = some socket) :
        socket ∈ scene.busySockets := nomatch works
    exact .bind (.lift fun _ h => h.registered host busy descriptor interest watches) fun _ => finished
  | remove descriptor => exact .bind (.lift (passes_takeAway loop descriptor _)) fun _ => finished
  | runOnce timeout => exact .bind (leads_runOnce code scene loop timeout) fun _ => finished
  | run timeout => exact .bind (leads_run code scene loop timeout budget) fun _ => finished
  | runDefault => exact .bind (leads_run code scene loop _ budget) fun _ => finished
  | stop => exact .bind (.modify fun _ h => (h.running loop false).idle rfl) fun _ => finished
  | _ => exact finished

theorem leads_loopAction (budget : Nat) (action : LoopAction) :
    Leads (Custody scene {}) (loopAction host perform budget action) fun _ => Custody scene {} := by
  refine .bind .get fun machine => ?_
  have finished {a : Answer} : Leads (Custody scene {}) (pure a : Run ω Answer) fun _ => Custody scene {} :=
    .pure fun _ h => h
  have here {rest : Run ω Answer} (h : Leads (Custody scene {}) rest fun _ => Custody scene {}) :
      Leads (fun now => Custody scene {} now ∧ now = machine) rest fun _ => Custody scene {} :=
    h.weaken fun _ h => h.1
  cases action with
  | create name settings =>
    exact here (.bind (.lift fun _ h => h.withLoop settings) fun loop =>
      .bind (.lift (passes_storeLoop name loop)) fun _ => finished)
  | clone name other =>
    dsimp only
    split
    · exact here finished
    · exact here (.bind (.lift (passes_storeLoop other _)) fun _ => finished)
  | drop name =>
    dsimp only
    split
    · exact here finished
    · next loop there =>
      rintro _ result after ⟨h, rfl⟩ ran
      cases ran
      exact h.unnamedLoop host there
  | weaken weak name =>
    dsimp only
    split
    · exact here finished
    · next loop there =>
      rintro _ result after ⟨h, rfl⟩ ran
      cases ran
      exact h.same (h.books.same rfl rfl) rfl rfl rfl rfl rfl (fun _ => rfl) fun _ => rfl
  | upgrade weak keep =>
    dsimp only
    split
    · exact here finished
    · exact here finished
    · exact here (.bind (.lift (passes_storeLoop _ _)) fun _ => finished)
  | weakRemove weak descriptor =>
    dsimp only
    split
    · exact here finished
    · exact here (.bind (.lift (passes_takeAway _ descriptor _)) fun _ => finished)
  | weakText weak => exact here finished
  | request name request =>
    dsimp only
    split
    · exact here finished
    · exact here (leads_usingLoop (leads_askLoop code (List.mem_cons_self ..) budget request))

end

theorem passes_askSocket (handle : SocketHandle) (request : SocketRequest) :
    Passes (Custody scene {}) (askSocket host handle request) fun _ => Custody scene {} := by
  have calling {α : Type} {call : Socket → Step ω α} {next : α → Step ω Answer}
      (calls : ∀ socket, CallsOn socket (call socket))
      (rest : ∀ a, ∃ answer, next a = pure answer) :
      Passes (Custody scene {}) (onSocket handle.id call >>= next) fun _ => Custody scene {} := by
    refine .bind (passes_calls (within_onSocket handle.id calls)) fun a => ?_
    obtain ⟨answer, last⟩ := rest a
    rw [last]
    exact .pure fun _ h => h
  cases request with
  | accept keep =>
    have accepting : Passes (Custody scene {}) (onSocket handle.id (·.accept (kernel host)))
        fun result => Custody scene { loose := result.toOption.map (·.1.descriptor) } :=
      fun _ h => h.accepted host handle.id
    refine .bind accepting fun result => ?_
    cases result with
    | error failure => exact .pure fun _ h => h
    | ok pair =>
      exact .bind (passes_addSocket pair.1) fun socket =>
        .bind (passes_storeSocket keep socket false) fun _ => .pure fun _ h => h
  | recv buffer => exact calling (fun _ => callsOn_recv host buffer) fun _ => ⟨_, rfl⟩
  | close => exact .bind (fun _ h => (h.closed host true (.inl rfl)).1) fun _ => .pure fun _ h => h
  | setNonblocking on => exact calling (fun _ => callsOn_setNonblocking host on) fun _ => ⟨_, rfl⟩
  | setTimeout timeout => exact calling (fun _ => callsOn_setTimeout host timeout) fun _ => ⟨_, rfl⟩
  | view => exact .bind .get fun _ => .pure fun _ h => h.1
  | _ => exact calling (fun _ => callsOn_call host _ (fun _ => rfl) fun _ => rfl) fun _ => ⟨_, rfl⟩

/-- A socket that refuses to become asynchronous is kept by nothing and is closed. -/
theorem passes_becomeAsync (name : String) (id : SocketId) :
    Passes (Custody scene { hand := some id }) (becomeAsync host name id) fun _ => Custody scene {} := by
  refine .bind (passes_calls (within_onSocket id fun _ => callsOn_setNonblocking host true)) fun result => ?_
  cases result with
  | error failure =>
    exact .bind (fun _ h => (h.putDown rfl).released host rfl) fun _ => .pure fun _ h => h
  | ok done => exact .bind (passes_storeSocket name id true) fun _ => .pure fun _ h => h

theorem passes_dropSocket (name : String) :
    Passes (Custody scene {}) (takeSocket name fun _ => true : Step ω (Option SocketHandle))
      fun taken => Custody scene { doubt := taken.map (·.id) } := by
  intro machine h
  rw [takeSocket_eq]
  cases found : (machine.socketHandles.get? name).filter fun _ => true with
  | none => exact h
  | some handle => exact h.unnamed rfl (Option.filter_eq_some_iff.mp found).1

section
variable {perform : Action ω → Run ω Answer}
variable (code : ∀ scene action, Leads (Custody scene {}) (perform action) fun _ => Custody scene {})
include code

theorem leads_atOnce {operation : Operation}
    (works : ∀ socket, operation.socket? = some socket → socket ∈ scene.busySockets) (number : CodeId)
    (notice : Notice) :
    Leads (Custody scene {}) (runAtOnce host perform operation number notice) fun _ => Custody scene {} :=
  .bind (.lift fun _ h => h.enlisted works) fun id => leads_runCode code scene id notice

/-- A background operation works with its socket only. -/
theorem leads_startAsync {loop : LoopId} {socket : SocketId} (busyLoop : loop ∈ scene.busyLoops)
    (busySocket : socket ∈ scene.busySockets) (request : AsyncRequest) :
    Leads (Custody scene {}) (startAsync host perform loop socket request) fun _ => Custody scene {} := by
  refine .bind .get fun machine => .weaken ?_ fun _ h => h.1
  have works {operation : Operation} (own : operation.socket? = some socket) (other : SocketId)
      (same : operation.socket? = some other) : other ∈ scene.busySockets := by
    cases own.symm.trans same
    exact busySocket
  have waits {operation : Operation} (own : operation.socket? = some socket) (interest : Interest)
      (once : Bool) (number : CodeId) :
      Leads (Custody scene {})
        ((await host loop socket interest once operation number : Step ω Unit) : Run ω Unit)
        fun _ => Custody scene {} :=
    .lift fun _ h => h.registered host busyLoop _ interest (works own)
  have starts {operation : Operation} (own : operation.socket? = some socket) (isOpen : Bool)
      (interest : Interest) (once : Bool) (number : CodeId) (notice : Notice) :
      Leads (Custody scene {})
        (if isOpen then (await host loop socket interest once operation number : Step ω Unit)
          else runAtOnce host perform operation number notice : Run ω Unit) fun _ => Custody scene {} := by
    split
    · exact waits own interest once number
    · exact leads_atOnce code (works own) number notice
  cases request with
  | connect address number =>
    refine .bind (.lift (passes_calls (within_onSocket socket fun _ =>
      callsOn_call host _ (fun _ => rfl) fun _ => rfl))) fun result => ?_
    split
    · exact waits rfl Interest.write true number
    · exact leads_atOnce code (works rfl) number _
  | accept keep number => exact starts rfl _ _ _ number _
  | send data number => exact starts rfl _ _ _ number _
  | recv buffer number => exact starts rfl _ _ _ number _
  | cancel =>
    exact .bind .get fun machine => .weaken (.lift (passes_takeAway loop _ _)) fun _ h => h.1

theorem leads_socketAction (scene : Scene) (action : SocketAction) :
    Leads (Custody scene {}) (socketAction host perform action) fun _ => Custody scene {} := by
  have finished {a : Answer} : Leads (Custody scene {}) (pure a : Run ω Answer) fun _ => Custody scene {} :=
    .pure fun _ h => h
  cases action with
  | create name family asynchronous =>
    refine .bind (.lift (passes_create family)) fun result => ?_
    cases result with
    | error failure => exact finished
    | ok socket =>
      refine .bind (.lift (passes_addSocket socket)) fun id => ?_
      cases asynchronous with
      | true => exact .lift (passes_becomeAsync name id)
      | false => exact .bind (.lift (passes_storeSocket name id false)) fun _ => finished
  | adopt name descriptor =>
    intro machine result after h ran
    cases ran
    exact (h.adopted descriptor).storedSocket host rfl rfl name false
  | giveUp name =>
    refine .bind (.lift (passes_takeSocket name)) fun taken => ?_
    cases taken with
    | none => exact finished
    | some handle =>
      intro machine result after h ran
      cases ran
      exact h.gaveUp
  | makeAsync name source =>
    refine .bind (.lift (passes_takeSocket source)) fun taken => ?_
    cases taken with
    | none => exact finished
    | some handle => exact .lift (passes_becomeAsync name handle.id)
  | drop name =>
    refine .bind (.lift (passes_dropSocket name)) fun taken => ?_
    cases taken with
    | none => exact finished
    | some handle => exact .bind (.lift fun _ h => h.released host rfl) fun _ => finished
  | request name request =>
    refine .bind .get fun machine => .weaken ?_ fun _ h => h.1
    split
    · exact finished
    · exact .lift (passes_askSocket _ request)
  | async name loop request =>
    refine .bind .get fun machine => .bind .get fun same => ?_
    cases found : (machine.socketHandles.get? name).filter (·.asynchronous) with
    | none => exact finished.weaken fun _ h => h.1.1
    | some handle =>
      cases same.loopHandles.get? loop with
      | none => exact finished.weaken fun _ h => h.1.1
      | some loop =>
        have there : machine.socketHandles.get? name = some ⟨handle.id, true⟩ := by
          obtain ⟨there, shared⟩ := Option.filter_eq_some_iff.mp found
          rw [there, ← show handle.asynchronous = true from shared]
        refine .weaken (leads_usingSocket name (leads_usingLoop ?_)) fun _ h => ⟨h.1.1, h.1.2 ▸ there⟩
        exact .bind (leads_startAsync code (List.mem_cons_self ..) (List.mem_cons_self ..) request) fun _ =>
          .pure fun _ h => h
  | familyOf address => exact finished

theorem leads_act (scene : Scene) (budget : Nat) (action : Action ω) :
    Leads (Custody scene {}) (act host perform budget action) fun _ => Custody scene {} := by
  cases action with
  | loop action => exact leads_loopAction code budget action
  | socket action => exact leads_socketAction code scene action
  | session action => exact leads_sessionAction budget action
  | outside change =>
    refine .bind (.modify fun _ h => ?_) fun _ => .pure fun _ h => h
    exact h.calls (calls_outer (modify change) _)

end

theorem leads_perform (budget : Nat) (scene : Scene) (action : Action ω) :
    Leads (Custody scene {}) (perform host budget action) fun _ => Custody scene {} := by
  induction budget generalizing scene action with
  | zero => exact .exhausted
  | succ budget ih => exact leads_act ih scene budget action

/-- Between its actions a program finds nothing on its way, and nothing going on. -/
theorem Reachable.custody (h : Reachable host machine) : Custody {} {} machine := by
  induction h with
  | new outside => exact custody_new outside
  | perform _ performed ih => exact leads_perform _ _ _ _ _ _ ih performed

end NetReactor.Machine
