import NetReactor.Proofs.Machine.Actions
import NetReactor.Proofs.Session.Explaining
/-!
Laws of single events. What a program asks for, to any depth, puts down calls that no callback sees, events of loops,
poll calls, and the starts of code. A law that allows these holds of all that happens, on every machine and for every
kernel. The results that code is told are explained: none of them is an unknown failure.
-/
namespace NetReactor

def Notice.IsExplained : Notice → Prop
  | .ready .. => True
  | .connected result => Explained result
  | .accepted result => Explained result
  | .sent result => Explained result
  | .received result _ => Explained result

structure Allows (law : Event → Prop) : Prop where
  outward : ∀ event, event.isOutward = true → event.isPoll = false → law event
  looped : ∀ id event, law (.loop id event)
  polled : ∀ watches timeout reply, law (.syscall (.poll watches (Duration.pollTimeout timeout)) reply)
  told : ∀ id code notice found, notice.IsExplained → law (.callback id code notice found)

namespace RunsWithin

variable {σ α β : Type} {kind : σ → σ → Prop}

theorem get [IsPreorder σ kind] : RunsWithin kind (get : Budgeted σ σ) := by
  intro state result after ran
  cases ran
  exact refl_of kind _

theorem modify {change : σ → σ} (h : ∀ state, kind state (change state)) :
    RunsWithin kind (MonadStateOf.modifyGet fun state => (PUnit.unit, change state) : Budgeted σ PUnit) := by
  intro state result after ran
  cases ran
  exact h state

/-- What follows a computation may use a property of its results. -/
theorem lift_bind [IsPreorder σ kind] {first : StateM σ α} {property : α → Prop} {next : α → Budgeted σ β}
    (within : Within kind first) (yields : Session.Yields first property)
    (hn : ∀ a, property a → RunsWithin kind (next a)) : RunsWithin kind ((liftM first : Budgeted σ α) >>= next) :=
  fun state result after ran => trans_of kind (within state) (hn _ (yields state) _ result after ran)

end RunsWithin

namespace Machine

variable {ω α β : Type} {host : Host ω} {loop : LoopId} {law : Event → Prop} {before after machine : Machine ω}

def Obeys (law : Event → Prop) (before after : Machine ω) : Prop :=
  ∃ events, after.journal = events ++ before.journal ∧ ∀ event ∈ events, law event

namespace Obeys

/-- Nothing happened. -/
theorem of_same (journal : after.journal = before.journal) : Obeys law before after :=
  ⟨[], journal, fun _ mem => absurd mem List.not_mem_nil⟩

theorem note (machine : Machine ω) {event : Event} (lawful : law event) : Obeys law machine (machine.note event) :=
  ⟨[event], rfl, fun _ mem => List.mem_singleton.mp mem ▸ lawful⟩

theorem trans {first middle last : Machine ω} (h : Obeys law first middle) (h' : Obeys law middle last) :
    Obeys law first last := by
  obtain ⟨early, journal, lawful⟩ := h
  obtain ⟨late, journal', lawful'⟩ := h'
  refine ⟨late ++ early, by rw [journal', journal, List.append_assoc], fun event mem => ?_⟩
  exact (List.mem_append.mp mem).elim (lawful' event) (lawful event)

end Obeys

instance : IsPreorder (Machine ω) (Obeys law) where
  refl _ := .of_same rfl
  trans _ _ _ := .trans

theorem explains_socketTransport (host : Host ω) (id : SocketId) (asked : Bool) :
    (socketTransport host id asked).Explains where
  send data machine := ((Socket.reports (kernel host) (machine.socketAt id) machine).send data).explained
  recv buffer machine := ((Socket.reports (kernel host) (machine.socketAt id) machine).recv buffer).explained

theorem explained_connect (host : Host ω) (id : SocketId) (address : Address) :
    Session.Yields (onSocket id (·.connect (kernel host) address)) Explained :=
  fun machine => ((Socket.reports (kernel host) (machine.socketAt id) machine).connect address).explained

theorem explained_connectResult (host : Host ω) (id : SocketId) (ready : Interest) :
    Session.Yields (connectResult host id ready) Explained := by
  unfold connectResult
  split
  · refine .bind (.any _) fun machine _ => .bind (.any _) fun answer _ => ?_
    split
    · exact .pure (.error (Error.orElse_ne_unknown (by decide) _))
    · exact .pure (.error (by decide))
    · exact .pure (.error (by decide))
  · exact .pure (.ok ())

theorem explained_sendResult (host : Host ω) (id : SocketId) (data : Bytes) (ready : Interest) :
    Session.Yields (sendResult host id data ready) Explained := by
  unfold sendResult
  split
  · exact .pure (.error (by decide))
  · exact (explains_socketTransport host id false).send data

theorem explained_recvResult (host : Host ω) (id : SocketId) (buffer : Bytes) (ready : Interest) :
    Session.Yields (recvResult host id buffer ready) fun answer => Explained answer.1 := by
  unfold recvResult
  split
  · exact .pure (.error (by decide))
  · exact (explains_socketTransport host id false).recv buffer

theorem explained_accept (host : Host ω) (socket : Socket) :
    Session.Yields (socket.accept (kernel host)) Explained := by
  intro machine unknown
  have listed := (Socket.reports (kernel host) socket machine).accept.only _ unknown
  exact absurd listed (by decide)

theorem explained_acceptResult (host : Host ω) (loop : LoopId) (id : CallbackId) (socket : SocketId)
    (keep : Option String) (descriptor : Descriptor) (ready : Interest) :
    Session.Yields (acceptResult host loop id socket keep descriptor ready) fun answer =>
      ∀ result ∈ answer, Explained result := by
  have one {result : Outcome (SocketId × Address)} (explained : Explained result) :
      ∀ other ∈ some result, Explained other := fun _ mem => Option.mem_some.mp mem ▸ explained
  unfold acceptResult
  split
  · exact .bind (.any _) fun _ _ => .pure (one (.error (by decide)))
  · refine .bind (.any _) fun machine _ => .bind (explained_accept host _) fun result explained => ?_
    split
    · exact .bind (.any _) fun _ _ => .pure (one (.ok _))
    · exact .pure fun _ mem => absurd mem (Option.not_mem_none _)
    · exact .bind (.any _) fun _ _ => .pure (one (.error (explained.failure rfl)))

/-- Whatever was reported for a descriptor and whatever the kernel answers then, what is told is explained. -/
theorem explained_respond (host : Host ω) (loop : LoopId) (id : CallbackId) (operation : Operation)
    (descriptor : Descriptor) (ready : Interest) :
    Session.Yields (respond host loop id operation descriptor ready) fun told =>
      ∀ notice ∈ told, notice.IsExplained := by
  have one {notice : Notice} (explained : notice.IsExplained) : ∀ other ∈ some notice, other.IsExplained :=
    fun _ mem => Option.mem_some.mp mem ▸ explained
  cases operation with
  | watch => exact .pure (one trivial)
  | connect socket =>
    exact .bind (explained_connectResult host socket ready) fun result explained => .pure (one explained)
  | accept socket keep =>
    refine .bind (explained_acceptResult host loop id socket keep descriptor ready) fun answer explained => ?_
    cases answer with
    | none => exact .pure fun _ mem => absurd mem (Option.not_mem_none _)
    | some result => exact .pure (one (explained result rfl))
  | send socket data =>
    exact .bind (explained_sendResult host socket data ready) fun result explained => .pure (one explained)
  | recv socket buffer =>
    exact .bind (explained_recvResult host socket buffer ready) fun answer explained => .pure (one explained)

section
variable (allows : Allows law)
include allows

theorem obeys_of_quieted : Subrelation Quieted (Obeys law : Machine ω → Machine ω → Prop) := by
  rintro before after ⟨events, quiet⟩
  exact ⟨events, quiet.journal, fun event mem => allows.outward event (quiet.outward event mem)
    (quiet.unpolled event mem)⟩

theorem QuietRun.obeys {action : Run ω α} (quiet : QuietRun action) : RunsWithin (Obeys law) action :=
  fun machine result after ran => obeys_of_quieted allows (quiet machine result after ran)

theorem Quietly.obeys {action : Step ω α} (quiet : Quietly action) : Within (Obeys law) action :=
  quiet.within (obeys_of_quieted allows)

theorem obeys_updateRegistry (machine : Machine ω) (loop : LoopId) (event : LoopEvent)
    (change : Registry → Registry) : Obeys law machine (machine.updateRegistry loop event change) :=
  .note (machine.updateLoop loop fun state => { state with registry := change state.registry })
    (allows.looped loop event)

theorem obeys_register (descriptor : Descriptor) (interest : Interest) (callback : Callback) :
    Within (Obeys law) (register host loop descriptor interest callback) := by
  have add : Within (Obeys law) (addCallback callback : Step ω CallbackId) := fun _ => .of_same rfl
  exact .bind add fun id => .bind .get fun machine =>
    .bind (fun machine => obeys_updateRegistry allows machine loop _ _) fun _ =>
      (quietly_releaseOld host _).obeys allows

theorem obeys_takeAway (descriptor : Descriptor) (event : LoopEvent) :
    Within (Obeys law) (takeAway host loop descriptor event) :=
  within_takeAway (obeys_of_quieted allows) fun machine => obeys_updateRegistry allows machine loop event _

theorem obeys_releaseLoop (loop : LoopId) : Within (Obeys law) (releaseLoop host loop) :=
  within_releaseLoop fun _ => obeys_takeAway allows _ _

theorem obeys_storeLoop (name : Nat) : Within (Obeys law) (storeLoop host name loop) :=
  within_storeLoop (obeys_of_quieted allows) (fun _ _ => obeys_takeAway allows _ _) name

theorem obeys_respond (id : CallbackId) (operation : Operation) (descriptor : Descriptor) (ready : Interest) :
    Within (Obeys law) (respond host loop id operation descriptor ready) :=
  within_respond (obeys_of_quieted allows) fun _ => obeys_takeAway allows _ _

theorem obeys_usingLoop {action : Run ω α} (within : RunsWithin (Obeys law) action) :
    RunsWithin (Obeys law) (usingLoop host loop action) :=
  .bind (.modify fun _ => .of_same rfl) fun _ => .bind within fun _ => .bind (.modify fun _ => .of_same rfl) fun _ =>
    .bind (.lift (obeys_releaseLoop allows loop)) fun _ => .pure _

theorem obeys_usingSocket (socket : SocketId) {action : Run ω α} (within : RunsWithin (Obeys law) action) :
    RunsWithin (Obeys law) (usingSocket host socket action) :=
  .bind (.modify fun _ => .of_same rfl) fun _ => .bind within fun _ => .bind (.modify fun _ => .of_same rfl) fun _ =>
    .bind (.lift ((quietly_releaseSocket host socket).obeys allows)) fun _ => .pure _

theorem obeys_poll (entries : List PollEntry) (timeout : Option Duration) :
    Within (Obeys law) (poll (kernel host) entries timeout) := by
  unfold poll
  split
  · exact .pure _
  · refine .bind (fun machine => .note _ (allows.polled _ timeout _)) fun reply => ?_
    dsimp only
    split <;> exact .pure _

section
variable {perform : Action ω → Run ω Answer} (code : ∀ action, RunsWithin (Obeys law) (perform action))
include code

theorem obeys_program (program : Program ω) : RunsWithin (Obeys law) (runProgram perform program) := by
  induction program with
  | done => exact .pure _
  | perform label action next ih =>
    refine .bind (code action) fun answer => .bind (.modify fun machine => ?_) fun _ => ih answer
    exact .note machine (allows.outward _ rfl rfl)

theorem obeys_runCode (id : CallbackId) {notice : Notice} (explained : notice.IsExplained) :
    RunsWithin (Obeys law) (runCode host perform id notice) := by
  refine .bind .get fun machine => ?_
  split
  · exact .pure _
  · refine .bind (.modify fun machine => .note machine (allows.told _ _ _ _ explained)) fun _ =>
      .bind (.modify fun _ => .of_same rfl) fun _ => .bind .get fun _ => obeys_program allows code _

theorem obeys_atOnce (operation : Operation) (number : CodeId) {notice : Notice} (explained : notice.IsExplained) :
    RunsWithin (Obeys law) (runAtOnce host perform operation number notice) :=
  .bind (.lift fun _ => .of_same rfl) fun id => obeys_runCode allows code id explained

theorem obeys_react (id : CallbackId) (operation : Operation) (descriptor : Descriptor) (ready : Interest) :
    RunsWithin (Obeys law) (react host perform loop id operation descriptor ready) := by
  rw [react_eq]
  have explains := explained_respond host loop id operation descriptor ready
  refine .lift_bind (obeys_respond allows id operation descriptor ready) explains fun told explained => ?_
  cases told with
  | none => exact .pure _
  | some notice => exact obeys_runCode allows code id (explained notice rfl)

theorem obeys_fire (id : CallbackId) (descriptor : Descriptor) (ready : Interest) :
    RunsWithin (Obeys law) (fire host perform loop id descriptor ready) := by
  refine .bind .get fun machine => ?_
  split
  · exact .pure _
  · split
    · exact .bind (.modify fun _ => .of_same rfl) fun _ => .bind (obeys_react allows code _ _ _ _) fun _ =>
        .bind (.modify fun _ => .of_same rfl) fun _ => .lift ((quietly_releaseCallback host id).obeys allows)
    · exact .pure _

theorem obeys_dispatch (entry : PollEntry) (registration : Registration) :
    RunsWithin (Obeys law) (dispatch host perform loop entry registration) := by
  unfold dispatch
  split
  · exact .pure _
  -- what follows is the same whether or not the registration was retired first
  · have rest : RunsWithin (Obeys law) (do
        let machine ← get
        if machine.executing.contains registration.callback then return false
        else
          let depth := machine.snapshots.length
          modify (·.note (.loop loop (.dispatched depth registration.callback entry.descriptor entry.returned)))
          fire host perform loop registration.callback entry.descriptor entry.returned
          modify (·.note (.loop loop (.finished depth registration.callback)))
          return true : Run ω Bool) := by
      refine .bind .get fun machine => ?_
      split
      · exact .pure _
      · exact .bind (.modify fun machine => .note machine (allows.looped _ _)) fun _ =>
          .bind (obeys_fire allows code _ _ _) fun _ =>
            .bind (.modify fun machine => .note machine (allows.looped _ _)) fun _ => .pure _
    dsimp only
    split
    · exact .bind (.modify fun machine => obeys_updateRegistry allows machine loop _ _) fun _ => rest
    · exact rest

theorem obeys_dispatchAll (entries : List (PollEntry × Registration)) :
    RunsWithin (Obeys law) (dispatchAll host perform loop entries) := by
  induction entries with
  | nil => exact .pure _
  | cons pair rest ih =>
    exact .bind (obeys_dispatch allows code pair.1 pair.2) fun _ => .bind ih fun _ => .pure _

omit code in
theorem obeys_releaseSnapshot (ids : List CallbackId) :
    Within (Obeys law) (releaseSnapshot host ids) := by
  intro machine
  obtain ⟨-, events, quiet⟩ := quiet_releaseSnapshot host ids machine
  have lawful : Obeys law machine _ := obeys_of_quieted allows ⟨events, quiet⟩
  exact lawful

theorem obeys_runOnce (timeout : Option Duration) :
    RunsWithin (Obeys law) (runOnce host perform loop timeout) := by
  refine .bind .get fun machine => ?_
  dsimp only
  split
  · exact .pure _
  · refine .bind (.modify fun _ => .of_same rfl) fun _ => .bind (.lift (obeys_poll allows _ timeout)) fun polled => ?_
    have ended (buffer : List PollEntry) (ids : List CallbackId) (count : Nat) : RunsWithin (Obeys law) (do
        modify (·.setBuffer loop buffer)
        releaseSnapshot host ids
        return count : Run ω Nat) :=
      .bind (.modify fun _ => .of_same rfl) fun _ => .bind (.lift (obeys_releaseSnapshot allows ids)) fun _ => .pure _
    split
    · exact .bind (obeys_dispatchAll allows code _) fun count => ended _ _ count
    · exact .bind (.pure 0) fun count => ended _ _ count
    · exact .bind (.pure 0) fun count => ended _ _ count

theorem obeys_cycles (timeout : Option Duration) (budget : Nat) :
    RunsWithin (Obeys law) (cycles host perform loop timeout budget) := by
  induction budget with
  | zero => exact .exhausted
  | succ budget ih =>
    refine .bind .get fun machine => ?_
    split
    · exact .bind (obeys_runOnce allows code timeout) fun _ => ih
    · exact .pure _

theorem obeys_run (timeout : Option Duration) (budget : Nat) :
    RunsWithin (Obeys law) (run host perform loop timeout budget) :=
  .bind (.modify fun _ => .of_same rfl) fun _ => .bind (obeys_cycles allows code timeout budget) fun _ =>
    .modify fun _ => .of_same rfl

theorem obeys_askLoop (budget : Nat) (request : LoopRequest) :
    RunsWithin (Obeys law) (askLoop host perform budget loop request) := by
  refine .bind .get fun machine => ?_
  cases request with
  | add descriptor interest number once =>
    exact .bind (.lift (obeys_register allows descriptor interest _)) fun _ => .pure _
  | remove descriptor => exact .bind (.lift (obeys_takeAway allows descriptor _)) fun _ => .pure _
  | runOnce timeout => exact .bind (obeys_runOnce allows code timeout) fun _ => .pure _
  | run timeout => exact .bind (obeys_run allows code timeout budget) fun _ => .pure _
  | runDefault => exact .bind (obeys_run allows code _ budget) fun _ => .pure _
  | stop =>
    have noted (machine : Machine ω) := Obeys.note (machine.setRunning loop false) (allows.looped loop .stopped)
    exact .bind (.modify noted) fun _ => .pure _
  | _ => exact .pure _

theorem obeys_loopAction (budget : Nat) (action : LoopAction) :
    RunsWithin (Obeys law) (loopAction host perform budget action) := by
  -- the handles of the machine at the beginning are stored back whole, so that machine is kept in sight
  intro machine result after ran
  rw [loopAction, run_get] at ran
  revert result after
  cases action with
  | create name settings =>
    have add : Within (Obeys law) (addLoop settings.build : Step ω LoopId) := fun machine =>
      .note { machine with loops := machine.loops ++ [settings.build] } (allows.looped _ _)
    exact RunsWithin.bind (.lift add) (fun _ => .bind (.lift (obeys_storeLoop allows name)) fun _ => .pure _) machine
  | clone name other =>
    dsimp only
    cases machine.loopHandles.get? name with
    | none => exact RunsWithin.pure _ machine
    | some loop => exact RunsWithin.bind (.lift (obeys_storeLoop allows other)) (fun _ => .pure _) machine
  | drop name =>
    dsimp only
    cases machine.loopHandles.get? name with
    | none => exact RunsWithin.pure _ machine
    | some loop =>
      intro result after ran
      dsimp only at ran
      rw [run_set] at ran
      have dropped : Obeys law machine { machine with loopHandles := machine.loopHandles.without name } :=
        .of_same rfl
      have released := RunsWithin.bind (.lift (obeys_releaseLoop allows loop)) (fun _ => .pure _) _ result after ran
      exact dropped.trans released
  | weaken weak name =>
    dsimp only
    cases machine.loopHandles.get? name with
    | none => exact RunsWithin.pure _ machine
    | some loop =>
      intro result after ran
      cases ran
      exact .of_same rfl
  | upgrade weak keep =>
    dsimp only
    cases machine.upgraded? weak with
    | none => exact RunsWithin.pure _ machine
    | some loop =>
      cases keep with
      | none => exact RunsWithin.pure _ machine
      | some name => exact RunsWithin.bind (.lift (obeys_storeLoop allows name)) (fun _ => .pure _) machine
  | weakRemove weak descriptor =>
    dsimp only
    cases machine.upgraded? weak with
    | none => exact RunsWithin.pure _ machine
    | some loop => exact RunsWithin.bind (.lift (obeys_takeAway allows descriptor _)) (fun _ => .pure _) machine
  | weakText weak => exact RunsWithin.pure _ machine
  | request name request =>
    dsimp only
    cases machine.loopHandles.get? name with
    | none => exact RunsWithin.pure _ machine
    | some loop => exact obeys_usingLoop allows (obeys_askLoop allows code budget request) machine

theorem obeys_startAsync (socket : SocketId) (request : AsyncRequest) :
    RunsWithin (Obeys law) (startAsync host perform loop socket request) := by
  have waits (interest : Interest) (once : Bool) (operation : Operation) (number : CodeId) :
      Within (Obeys law) (await host loop socket interest once operation number) :=
    .bind .get fun machine => obeys_register allows _ interest _
  refine .bind .get fun machine => ?_
  cases request with
  | connect address number =>
    have quiet : Quietly (onSocket socket (·.connect (kernel host) address)) :=
      quietly_onSocket socket fun _ => quietly_call host _ _ fun _ _ => rfl
    refine .lift_bind (quiet.obeys allows) (explained_connect host socket address) fun connected explained => ?_
    split
    · exact .lift (waits _ _ _ _)
    · exact obeys_atOnce allows code _ _ explained
  | accept keep number =>
    dsimp only
    split
    · exact .lift (waits _ _ _ _)
    · exact obeys_atOnce allows code _ _ (.error (by decide))
  | send data number =>
    dsimp only
    split
    · exact .lift (waits _ _ _ _)
    · exact obeys_atOnce allows code _ _ (.error (by decide))
  | recv buffer number =>
    dsimp only
    split
    · exact .lift (waits _ _ _ _)
    · exact obeys_atOnce allows code _ _ (.error (by decide))
  | cancel => exact .bind .get fun machine => .lift (obeys_takeAway allows _ _)

theorem obeys_socketAction (action : SocketAction) : RunsWithin (Obeys law) (socketAction host perform action) := by
  cases action with
  | async name handle request =>
    refine .bind .get fun first => .bind .get fun second => ?_
    split
    · exact obeys_usingSocket allows _ (obeys_usingLoop allows
        (.bind (obeys_startAsync allows code _ request) fun _ => .pure _))
    · exact .pure _
  | _ => exact (quiet_socketAction (by simp)).obeys allows

theorem obeys_act (budget : Nat) (action : Action ω) : RunsWithin (Obeys law) (act host perform budget action) := by
  cases action with
  | loop action => exact obeys_loopAction allows code budget action
  | socket action => exact obeys_socketAction allows code action
  | session action => exact (quiet_sessionAction host budget action).obeys allows
  | outside change => exact .bind (.modify fun _ => .of_same rfl) fun _ => .pure _

end

/-- Whatever a program asks for, all that happens obeys a law that allows it. -/
theorem obeys_perform (budget : Nat) (action : Action ω) : RunsWithin (Obeys law) (perform host budget action) := by
  induction budget generalizing action with
  | zero => exact .exhausted
  | succ budget ih => exact obeys_act allows ih budget action

end

end Machine
end NetReactor
