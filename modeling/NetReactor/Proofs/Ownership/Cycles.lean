import NetReactor.Proofs.Machine.Cycle
import NetReactor.Proofs.Ownership.Sessions
/-!
Cycles and callbacks keep custody. A callback that runs keeps its socket until it has returned, and a cycle
keeps the callbacks that it found until it is over. Whatever code may do inside is an argument here.
-/
namespace NetReactor.Machine

variable {ω : Type} {host : Host ω} {scene : Scene} {transit : Transit} {machine : Machine ω}
variable {id : CallbackId} {loop : LoopId}

namespace Custody

/-- Counting what a callback does. -/
theorem counted (h : Custody scene transit machine) (id : CallbackId) {change : Callback → Callback}
    (counts : ∀ callback, (change callback).uncounted = callback.uncounted) :
    Custody scene transit (machine.updateCallback id change) :=
  h.same (h.books.same rfl rfl) rfl rfl rfl rfl rfl (quiet_updateCallback machine id counts).callbacks
    fun _ => rfl

/-- Something happened that is no concern of descriptors. -/
theorem idle (h : Custody scene transit machine) {event : Event} (idle : event.isIdle = true) :
    Custody scene transit (machine.note event) :=
  h.noted (h.books.one idle rfl rfl)

theorem holds_started {hand : Option SocketId} {holder : Holder} {socket : SocketId} :
    (machine.started id).Holds hand holder socket ↔ machine.Holds hand holder socket := by
  cases holder with
  | callback number =>
    simp only [Holds, view?_started]
    split
    · cases machine.view? number <;> simp [Callback.run]
    · rfl
  | _ => rfl

theorem started (h : Custody scene transit machine) (id : CallbackId) :
    Custody { scene with executing := id :: scene.executing } transit (machine.started id) :=
  { h with
    scene := congrArg (fun scene : Scene => { scene with executing := id :: scene.executing }) h.scene
    books := h.books.same rfl rfl
    known := fun holder other holds => h.known holder other (holds_started.mp holds)
    alone := fun holder third other alone mine theirs =>
      h.alone holder third other alone (holds_started.mp mine) (holds_started.mp theirs)
    kept := fun other isOpen => by
      refine (h.kept other isOpen).imp_left ?_
      rintro ⟨holder, holds, active⟩
      refine ⟨holder, holds_started.mpr holds, ?_⟩
      cases holder with
      | callback number =>
        by_cases own : id = number
        · exact .inl (own ▸ List.mem_cons_self ..)
        · obtain executing | ⟨seen, reached⟩ := active
          · exact .inl (List.mem_cons_of_mem _ executing)
          · refine .inr ⟨?_, reached⟩
            rw [view?_started, if_neg own]
            exact seen
      | _ => trivial }

/-- A callback has returned, and its socket is in doubt. -/
theorem ended (h : Custody { scene with executing := id :: scene.executing } {} machine) :
    Custody scene { doubt := machine.socketOf? id } (machine.ended id) := by
  have executing : machine.executing = id :: scene.executing := congrArg Scene.executing h.scene
  have returned := h.around rfl (machine.executing.erase id) machine.snapshots (machine.socketOf? id)
    fun number active => by
      obtain running | waits := active
      · by_cases own : number = id
        · exact .inr (by rw [own])
        · exact .inl (.inl ((List.mem_erase_of_ne own).mpr running))
      · exact .inl (.inr waits)
  have back : (machine.ended id).scene = { machine.scene with executing := machine.executing.erase id } := rfl
  refine returned.reframe (back.trans ?_)
  rw [h.scene, executing, List.erase_cons_head]

/-- A cycle still keeps the callback of a registration that it takes away. -/
theorem retiring (h : Custody scene transit machine) (loop : LoopId) (sure : transit.doubt = none)
    {registration : Registration} {found : List CallbackId} (running : found ∈ scene.snapshots)
    (member : registration.callback ∈ found) :
    Custody scene transit (machine.retiring loop registration) := by
  unfold Machine.retiring
  split
  · have snapshots : machine.snapshots = scene.snapshots := congrArg Scene.snapshots h.scene
    have retired : Custody scene { transit with doubt := none } (machine.updateRegistry loop
        (.retired registration.descriptor registration.callback)
        (·.retire registration.descriptor registration.callback)) := by
      refine h.withdrawn sure (fun other old mem => ?_) fun other old mem => .inl ?_
      · exact (mem_entries_updateRegistry mem).elim id fun mem => Registry.mem_of_mem_retire mem.2
      · by_cases own : old.callback = registration.callback
        · exact .inr ⟨found, snapshots ▸ running, own ▸ member⟩
        · refine .inl ⟨other, old, ?_, rfl⟩
          rw [entries, registry_updateRegistry]
          split
          · exact Registry.mem_retire_of_ne mem own
          · exact mem
    exact Transit.undoubted sure ▸ retired
  · exact h

theorem buffered (h : Custody scene transit machine) (loop : LoopId) (buffer : List PollEntry) :
    Custody scene transit (machine.setBuffer loop buffer) :=
  h.same (h.books.same rfl rfl) rfl rfl rfl rfl rfl (fun _ => rfl) fun other =>
    congrArg Registry.entries ((quiet_setBuffer machine loop buffer).registry other)

theorem running (h : Custody scene transit machine) (loop : LoopId) (on : Bool) :
    Custody scene transit (machine.setRunning loop on) :=
  h.same (h.books.same rfl rfl) rfl rfl rfl rfl rfl (fun _ => rfl) fun other =>
    entries_setRunning machine loop other on

/-- A cycle keeps the callbacks that it found. -/
theorem cycling (h : Custody scene {} machine) (loop : LoopId) :
    Custody { scene with snapshots := (machine.entries loop).map (·.callback) :: scene.snapshots } {}
      (machine.cycling loop) := by
  have begun := (h.buffered loop []).around rfl machine.executing
    ((machine.entries loop).map (·.callback) :: machine.snapshots) none fun number active => .inl <| by
      refine active.imp_right (And.imp_right (Or.imp_right ?_))
      rintro ⟨found, mem, here⟩
      exact ⟨found, List.mem_cons_of_mem _ mem, here⟩
  refine begun.reframe ?_
  rw [← h.scene]
  rfl

end Custody

theorem passes_calls {α : Type} {action : Step ω α} (h : Within Calls action) :
    Passes (Custody scene transit) action fun _ => Custody scene transit :=
  fun machine custody => custody.calls (h machine)

theorem passes_takeAway (loop : LoopId) (descriptor : Descriptor) (event : LoopEvent) :
    Passes (Custody scene {}) (takeAway host loop descriptor event) fun _ => Custody scene {} :=
  fun _ h => h.takenAway host rfl descriptor event

theorem passes_placeAccepted (id : CallbackId) (keep : Option String) (client : Socket) :
    Passes (Custody scene { loose := some client.descriptor }) (placeAccepted host id keep client)
      fun _ => Custody scene {} := by
  refine .bind (passes_addSocket client) fun socket => .bind .get fun machine => ?_
  dsimp only
  split
  · refine .bind (.modify fun _ h => h.1.counted id fun _ => rfl) fun _ => ?_
    exact .bind (passes_storeSocket _ socket false) fun _ => .pure fun _ h => h
  · refine .bind (fun machine h => ?_) fun _ => .pure fun _ h => h
    obtain ⟨closed, shut⟩ := h.1.closed host false (.inr (h.1.keeps_hand rfl))
    exact closed.putAway rfl (by rw [shut]; rfl)

theorem passes_acceptResult (loop : LoopId) (id : CallbackId) (socket : SocketId) (keep : Option String)
    (descriptor : Descriptor) (ready : Interest) :
    Passes (Custody scene {}) (acceptResult host loop id socket keep descriptor ready)
      fun _ => Custody scene {} := by
  unfold acceptResult
  split
  · exact .bind (passes_takeAway loop descriptor _) fun _ => .pure fun _ h => h
  · refine .bind .get fun machine => ?_
    have accepting : Passes (fun now => Custody scene {} now ∧ now = machine)
        ((machine.socketAt socket).accept (kernel host))
        fun result => Custody scene { loose := result.toOption.map (·.1.descriptor) } := by
      rintro _ ⟨h, rfl⟩
      exact h.accepted host socket
    refine .bind accepting fun result => ?_
    split
    · exact .bind (passes_placeAccepted id keep _) fun _ => .pure fun _ h => h
    · exact .pure fun _ h => h
    · exact .bind (passes_takeAway loop descriptor _) fun _ => .pure fun _ h => h

theorem passes_respond (loop : LoopId) (id : CallbackId) (operation : Operation) (descriptor : Descriptor)
    (ready : Interest) : Passes (Custody scene {}) (respond host loop id operation descriptor ready)
      fun _ => Custody scene {} := by
  cases operation with
  | watch => exact .pure fun _ h => h
  | connect socket => exact .bind (passes_calls (within_connectResult host _ _)) fun _ => .pure fun _ h => h
  | accept socket keep => exact .bind (passes_acceptResult loop id _ _ _ _) fun _ => .pure fun _ h => h
  | send socket data => exact .bind (passes_calls (within_sendResult host _ _ _)) fun _ => .pure fun _ h => h
  | recv socket buffer =>
    exact .bind (passes_calls (within_recvResult host _ _ _)) fun _ => .pure fun _ h => h

section
variable {perform : Action ω → Run ω Answer}
variable (code : ∀ scene action, Leads (Custody scene {}) (perform action) fun _ => Custody scene {})
include code

theorem leads_program (scene : Scene) (program : Program ω) :
    Leads (Custody scene {}) (runProgram perform program) fun _ => Custody scene {} := by
  induction program with
  | done => exact .pure fun _ h => h
  | perform label action next ih =>
    exact .bind (code scene action) fun answer =>
      .bind (.modify fun _ h => h.idle rfl) fun _ => ih answer

theorem leads_runCode (scene : Scene) (id : CallbackId) (notice : Notice) :
    Leads (Custody scene {}) (runCode host perform id notice) fun _ => Custody scene {} := by
  refine .bind .get fun machine => ?_
  cases machine.callback? id with
  | none => exact .pure fun _ h => h.1
  | some callback =>
    refine .bind (.modify fun _ h => h.1.idle rfl) fun _ => ?_
    refine .bind (.modify fun _ h => h.counted id fun _ => rfl) fun _ => .bind .get fun _ => ?_
    exact (leads_program code scene _).weaken fun _ h => h.1

theorem leads_react (scene : Scene) (loop : LoopId) (id : CallbackId) (operation : Operation)
    (descriptor : Descriptor) (ready : Interest) :
    Leads (Custody scene {}) (react host perform loop id operation descriptor ready)
      fun _ => Custody scene {} := by
  rw [react_eq]
  refine .bind (.lift (passes_respond loop id operation descriptor ready)) fun notice => ?_
  cases notice with
  | none => exact .pure fun _ h => h
  | some notice => exact leads_runCode code scene id notice

theorem leads_fire (scene : Scene) (loop : LoopId) (id : CallbackId) (descriptor : Descriptor)
    (ready : Interest) : Leads (Custody scene {}) (fire host perform loop id descriptor ready)
      fun _ => Custody scene {} := by
  refine .bind .get fun machine => ?_
  cases machine.callback? id with
  | none => exact .pure fun _ h => h.1
  | some callback =>
    dsimp only
    split
    · refine .bind (.modify fun _ h => h.1.started id) fun _ => ?_
      refine .bind (leads_react code _ loop id _ descriptor ready) fun _ => ?_
      have returned : Leads (Custody { scene with executing := id :: scene.executing } {})
          (modify fun machine : Machine ω =>
            { machine with executing := machine.executing.erase id } : Run ω PUnit)
          fun _ machine => Custody scene { doubt := machine.socketOf? id } machine :=
        .modify fun _ h => h.ended
      exact .bind returned fun _ => .lift fun machine h => h.releasedCallback host id rfl
    · exact .pure fun _ h => h.1

theorem leads_dispatch {found : List CallbackId} {entry : PollEntry} {registration : Registration}
    (loop : LoopId) (named : entry.descriptor = registration.descriptor) (running : found ∈ scene.snapshots)
    (member : registration.callback ∈ found) :
    Leads (Custody scene {}) (dispatch host perform loop entry registration) fun _ => Custody scene {} := by
  intro machine ran after h run
  rw [dispatch_eq named] at run
  split at run
  · cases run
    exact h
  · have retired := h.retiring loop rfl running member
    split at run
    · cases run
      exact retired
    · obtain ⟨⟨⟨⟩, inside⟩, fired, ended⟩ := Option.map_eq_some_iff.mp run
      have begun : Custody scene {} (machine.announced loop registration entry.returned) := retired.idle rfl
      cases ended
      exact (leads_fire code scene loop _ _ _ _ _ _ begun fired).idle rfl

theorem leads_dispatchAll {found : List CallbackId} {entries : List (PollEntry × Registration)}
    (loop : LoopId) (running : found ∈ scene.snapshots)
    (all : ∀ pair ∈ entries, pair.1.descriptor = pair.2.descriptor ∧ pair.2.callback ∈ found) :
    Leads (Custody scene {}) (dispatchAll host perform loop entries) fun _ => Custody scene {} := by
  induction entries with
  | nil => exact .pure fun _ h => h
  | cons pair rest ih =>
    obtain ⟨named, member⟩ := all pair (List.mem_cons_self ..)
    exact .bind (leads_dispatch code loop named running member) fun _ =>
      .bind (ih fun other mem => all other (List.mem_cons_of_mem _ mem)) fun _ => .pure fun _ h => h

theorem leads_runOnce (scene : Scene) (loop : LoopId) (timeout : Option Duration) :
    Leads (Custody scene {}) (runOnce host perform loop timeout) fun _ => Custody scene {} := by
  intro machine count after h run
  by_cases nonempty : machine.entries loop = []
  · rw [runOnce_empty nonempty] at run
    cases run
    exact h
  · rw [runOnce_eq nonempty] at run
    obtain ⟨⟨ran, inside⟩, dispatched, ended⟩ := Option.map_eq_some_iff.mp run
    have cycling := h.cycling loop
    have idle : (Event.syscall (pollCall (machine.entries loop) timeout)
        (pollReply host machine loop timeout)).isIdle = true := rfl
    have polled : Custody _ {} (machine.polled host loop timeout) :=
      cycling.noted (cycling.books.one idle rfl rfl)
    have dispatching := leads_dispatchAll code loop (List.mem_cons_self ..) (fun pair mem => ?_) _ _ _
      polled dispatched
    · cases ended
      exact (dispatching.buffered loop _).releasedSnapshot host rfl
    · obtain ⟨there, named⟩ := mem_reportedTo mem
      exact ⟨named, List.mem_map_of_mem there⟩

theorem leads_cycles (scene : Scene) (loop : LoopId) (timeout : Option Duration) (budget : Nat) :
    Leads (Custody scene {}) (cycles host perform loop timeout budget) fun _ => Custody scene {} := by
  induction budget with
  | zero => exact .exhausted
  | succ budget ih =>
    refine .bind .get fun machine => ?_
    split
    · exact .bind ((leads_runOnce code scene loop timeout).weaken fun _ h => h.1) fun _ => ih
    · exact .pure fun _ h => h.1

theorem leads_run (scene : Scene) (loop : LoopId) (timeout : Option Duration) (budget : Nat) :
    Leads (Custody scene {}) (run host perform loop timeout budget) fun _ => Custody scene {} := by
  exact .bind (.modify fun _ h => h.running loop true) fun _ =>
    .bind (leads_cycles code scene loop timeout budget) fun _ => .modify fun _ h => h.running loop false

end
end NetReactor.Machine
