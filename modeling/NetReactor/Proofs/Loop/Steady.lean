import NetReactor.Proofs.Machine.Reaction
import NetReactor.Proofs.Machine.Replay
/-!
Whether a loop is running, told by the journal: what was running runs on until a stop, and the code of every
callback finds it so. This fails only when the loop is run while it is running, since the end of the inner run
is no stop; such runs are left out here.
-/
namespace NetReactor.Machine

variable {ω α β : Type} {host : Host ω} {loop other : LoopId} {events early late : List Event}
variable {before after first middle last : Machine ω}

def isRunning (machine : Machine ω) (loop : LoopId) : Bool := (machine.loopAt loop).running

def Finds (loop : LoopId) (running : Bool) (early : List Event) : Event → Prop
  | .callback _ _ _ found =>
    (found.getD loop {}).running = true ↔ running = true ∧ .loop loop .stopped ∉ early
  | _ => True

structure Steady (loop : LoopId) (events : List Event) (before after : Machine ω) : Prop where
  journal : after.journal = events ++ before.journal
  loops : before.loops.length ≤ after.loops.length
  running : after.isRunning loop = true ↔
    before.isRunning loop = true ∧ .loop loop .stopped ∉ events
  finds : Along (Finds loop (before.isRunning loop)) events

namespace Steady

/-- No stop and no code of a callback. -/
theorem of_silent (journal : after.journal = events ++ before.journal)
    (loops : before.loops.length ≤ after.loops.length)
    (kept : after.isRunning loop = before.isRunning loop)
    (going : .loop loop .stopped ∉ events)
    (untold : ∀ event ∈ events, ∀ early, Finds loop (before.isRunning loop) early event) :
    Steady loop events before after where
  journal := journal
  loops := loops
  running := by rw [kept]; exact (and_iff_left going).symm
  finds := along_of_forall untold

theorem of_same (journal : after.journal = before.journal) (loops : after.loops = before.loops) :
    Steady loop [] before after :=
  .of_silent journal (Nat.le_of_eq (by rw [loops])) (by simp only [isRunning, loopAt, loops])
    List.not_mem_nil fun _ mem => nomatch mem

theorem refl (machine : Machine ω) : Steady loop [] machine machine := .of_same rfl rfl

theorem trans (h : Steady loop early first middle) (h' : Steady loop late middle last) :
    Steady loop (late ++ early) first last where
  journal := by rw [h'.journal, h.journal, List.append_assoc]
  loops := Nat.le_trans h.loops h'.loops
  running := by
    rw [h'.running, h.running, List.mem_append, not_or, and_assoc]
    exact and_congr_right fun _ => and_comm
  finds := by
    refine along_append.mpr ⟨h'.finds.imp fun inner event found => ?_, h.finds⟩
    cases event with
    | callback =>
      refine found.trans ?_
      rw [h.running, List.mem_append, not_or, and_assoc]
      exact and_congr_right fun _ => and_comm
    | _ => trivial

/-- What leaves no events may come first. -/
theorem later (h : Steady loop [] first middle) (h' : Steady loop late middle last) :
    Steady loop late first last := by
  simpa using h.trans h'

/-- A stop ends what was running, and nothing else does. -/
theorem since (h : Steady loop events before after) (running : before.isRunning loop = true) :
    after.isRunning loop = true ↔ .loop loop .stopped ∉ events :=
  h.running.trans (and_iff_right running)

end Steady

theorem isRunning_setRunning {machine : Machine ω} (known : loop < machine.loops.length) (flag : Bool) :
    (machine.setRunning loop flag).isRunning loop = flag := by
  rw [isRunning, setRunning, loopAt_updateLoop, if_pos ⟨rfl, known⟩]

/-- A loop that is not there does not run either. -/
theorem isRunning_setRunning_false (machine : Machine ω) (loop : LoopId) :
    (machine.setRunning loop false).isRunning loop = false := by
  by_cases known : loop < machine.loops.length
  · exact isRunning_setRunning known false
  · have none : machine.loops[loop]? = none := List.getElem?_eq_none (Nat.le_of_not_lt known)
    rw [isRunning, setRunning, loopAt_updateLoop, if_neg fun both => known both.2]
    simp [loopAt, List.getD_eq_getElem?_getD, none]

theorem Quiet.steady (h : Quiet events before after) : Steady loop events before after := by
  refine .of_silent h.journal (Nat.le_of_eq h.loops.symm) (h.running loop) (h.no_loop _)
    fun event mem early => ?_
  cases event with
  | callback => cases h.outward _ mem
  | _ => trivial

theorem steady_note (machine : Machine ω) {event : LoopEvent}
    (going : .loop loop .stopped ≠ Event.loop other event) :
    Steady loop [.loop other event] machine (machine.note (.loop other event)) := by
  refine .of_silent rfl (Nat.le_refl _) rfl (fun mem => going (List.mem_singleton.mp mem))
    fun event mem early => ?_
  cases List.mem_singleton.mp mem
  trivial

theorem steady_updateLoop (machine : Machine ω) {change : EventLoop → EventLoop}
    (kept : other = loop → ∀ state, (change state).running = state.running) :
    Steady loop [] machine (machine.updateLoop other change) := by
  refine .of_silent rfl (by simp [updateLoop]) ?_ List.not_mem_nil fun _ mem => nomatch mem
  rw [isRunning, loopAt_updateLoop]
  split
  · next here => exact kept here.1 _
  · rfl

theorem steady_updateRegistry (machine : Machine ω) (event : LoopEvent) (change : Registry → Registry)
    (going : .loop loop .stopped ≠ Event.loop other event) :
    Steady loop [.loop other event] machine (machine.updateRegistry other event change) := by
  have changed : Steady loop [] machine
      (machine.updateLoop other fun state => { state with registry := change state.registry }) :=
    steady_updateLoop machine fun _ _ => rfl
  exact changed.later (steady_note _ going)

theorem steady_retiring (machine : Machine ω) (registration : Registration) :
    Steady loop (retirement other registration) machine (machine.retiring other registration) := by
  unfold retirement retiring
  split
  · exact steady_updateRegistry machine _ _ (by simp)
  · exact .refl machine

theorem steady_announced (machine : Machine ω) (registration : Registration) (ready : Interest) :
    Steady loop (.loop other (.dispatched machine.snapshots.length registration.callback
        registration.descriptor ready) :: retirement other registration) machine
      (machine.announced other registration ready) :=
  (steady_retiring machine registration).trans (steady_note _ (by simp))

/-- A new loop is not running, and the others are as they were. -/
theorem steady_withLoop (machine : Machine ω) (settings : LoopSettings) (known : loop < machine.loops.length) :
    Steady loop [.loop machine.loops.length .created] machine (machine.withLoop settings) := by
  have added : Steady loop [] machine { machine with loops := machine.loops ++ [settings.build] } := by
    refine .of_silent rfl (by simp) ?_ List.not_mem_nil fun _ mem => nomatch mem
    simp [isRunning, loopAt, List.getD_eq_getElem?_getD, List.getElem?_append_left known]
  exact added.later (steady_note _ (by simp))

/-- The code of a callback finds the loops as they are. -/
theorem steady_told (machine : Machine ω) (id : CallbackId) (code : CodeId) (notice : Notice) :
    Steady loop [.callback id code notice machine.loops] machine (machine.told id code notice) where
  journal := rfl
  loops := Nat.le_refl _
  running := (and_iff_left (by simp)).symm
  finds := ⟨(and_iff_left List.not_mem_nil).symm, trivial⟩

/-- A stop is a stop of its own loop only. -/
theorem steady_stop (machine : Machine ω) (known : loop < machine.loops.length) :
    Steady loop [.loop other .stopped] machine
      ((machine.setRunning other false).note (.loop other .stopped)) := by
  by_cases here : other = loop
  · subst here
    refine ⟨rfl, by simp [setRunning, updateLoop, note], ?_, trivial, trivial⟩
    change ((machine.setRunning other false).loopAt other).running = true ↔ _
    rw [setRunning, loopAt_updateLoop, if_pos ⟨rfl, known⟩]
    simp
  · exact (steady_updateLoop machine fun same => absurd same here).later
      (steady_note _ fun same => here (by cases same; rfl))

def Keeps (loop : LoopId) (action : Step ω α) : Prop :=
  ∀ machine, loop < machine.loops.length → ∃ events, Steady loop events machine (action machine).2

def Kept (loop : LoopId) (before after : Machine ω) : Prop :=
  loop < before.loops.length → ∃ events, Steady loop events before after

instance : IsPreorder (Machine ω) (Kept loop) where
  refl machine _ := ⟨[], .refl machine⟩
  trans _ _ _ := by
    intro h h' known
    obtain ⟨early, he⟩ := h known
    obtain ⟨late, hl⟩ := h' (Nat.lt_of_lt_of_le known he.loops)
    exact ⟨late ++ early, he.trans hl⟩

theorem kept_of_quieted : Subrelation Quieted (Kept loop : Machine ω → Machine ω → Prop) := by
  rintro before after ⟨events, quiet⟩ _
  exact ⟨events, quiet.steady⟩

namespace Keeps

theorem of_within {action : Step ω α} (h : Within (Kept loop) action) : Keeps loop action := h

theorem quiet {action : Step ω α} (h : Quietly action) : Keeps loop action :=
  .of_within (h.within kept_of_quieted)

theorem get : Keeps loop (get : Step ω (Machine ω)) := .of_within .get

theorem modify {change : Machine ω → Machine ω}
    (h : ∀ machine, ∃ events, Steady loop events machine (change machine)) :
    Keeps loop (modify change : Step ω PUnit) :=
  fun machine _ => h machine

theorem bind {action : Step ω α} {next : α → Step ω β} (h : Keeps loop action)
    (hn : ∀ a, Keeps loop (next a)) : Keeps loop (action >>= next) :=
  .of_within (.bind h hn)

end Keeps

theorem keeps_register (descriptor : Descriptor) (interest : Interest) (callback : Callback) :
    Keeps loop (register host other descriptor interest callback) := by
  have add : Keeps loop (addCallback callback : Step ω CallbackId) := fun _ _ => ⟨[], .of_same rfl rfl⟩
  refine .bind add fun id => .bind .get fun machine => .bind (.modify fun machine => ?_) fun _ =>
    .quiet (quietly_releaseOld host _)
  exact ⟨_, steady_updateRegistry machine _ _ (by simp)⟩

theorem keeps_unregister (other : LoopId) (descriptor : Descriptor) :
    Keeps loop (unregister host other descriptor) :=
  .of_within (within_takeAway kept_of_quieted fun machine _ =>
    ⟨_, steady_updateRegistry machine _ _ (by simp)⟩)

theorem keeps_withdraw (descriptor : Descriptor) (id : CallbackId) :
    Keeps loop (withdraw host other descriptor id) :=
  .of_within (within_takeAway kept_of_quieted fun machine _ =>
    ⟨_, steady_updateRegistry machine _ _ (by simp)⟩)

theorem keeps_releaseLoop : Keeps loop (releaseLoop host other) :=
  .of_within (within_releaseLoop (keeps_unregister other))

theorem keeps_storeLoop (name : Nat) : Keeps loop (storeLoop host name other) :=
  .of_within (within_storeLoop kept_of_quieted keeps_unregister name)

theorem keeps_respond (id : CallbackId) (operation : Operation) (descriptor : Descriptor)
    (ready : Interest) : Keeps loop (respond host other id operation descriptor ready) :=
  .of_within (within_respond kept_of_quieted fun _ => keeps_withdraw descriptor id)

end NetReactor.Machine
