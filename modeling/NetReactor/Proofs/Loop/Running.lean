import NetReactor.Proofs.Loop.Snapshot
import NetReactor.Proofs.Loop.Sparing
/-!
Runs of a loop. A run looks at the flag of its loop and at the registrations only between its cycles, while callbacks
change both inside them. So it goes through whole cycles and returns after the first one that a stop falls into or
that leaves nothing registered, whatever the poll calls answer.
-/
namespace NetReactor.Machine

variable {ω : Type} {host : Host ω} {loop : LoopId} {timeout : Option Duration}
variable {budget limit count n m : Nat} {machine middle last next other after : Machine ω}

def Ended (machine : Machine ω) (loop : LoopId) (last : Machine ω) : Prop :=
  last.entries loop = [] ∨ .loop loop .stopped ∈ last.since machine

inductive Cycling (host : Host ω) (budget : Nat) (loop : LoopId) (timeout : Option Duration)
    (machine : Machine ω) : Nat → Machine ω → Prop
  | start : Cycling host budget loop timeout machine 0 (machine.setRunning loop true)
  | cycle {n count : Nat} {middle next : Machine ω}
    (h : Cycling host budget loop timeout machine n middle)
    (going : ¬ Ended machine loop middle)
    (ran : runOnce host (performBut host loop budget) loop timeout middle = some (count, next)) :
    Cycling host budget loop timeout machine (n + 1) next

/-- Only the last value of the flag matters. -/
theorem setRunning_setRunning (machine : Machine ω) (loop : LoopId) (flag flag' : Bool) :
    (machine.setRunning loop flag).setRunning loop flag' = machine.setRunning loop flag' := by
  simp only [setRunning, updateLoop, List.modify_modify_eq]
  rfl

namespace Cycling

theorem steady (h : Cycling host budget loop timeout machine n last)
    (known : loop < machine.loops.length) :
    Steady loop (last.since machine) (machine.setRunning loop true) last := by
  induction h with
  | start => exact since_eq (List.nil_append machine.journal).symm ▸ .refl _
  | cycle h going ran ih =>
    have lt := Nat.lt_of_lt_of_le (Nat.lt_of_lt_of_le known (grows_setRunning ..).loops) ih.loops
    obtain ⟨-, late, cycle⟩ := (shadows_runOnce (shadows_perform budget) timeout).spares _ lt _ _ ran
    have both := ih.trans cycle
    rwa [← since_eq both.journal] at both

theorem known (h : Cycling host budget loop timeout machine n last) (known : loop < machine.loops.length) :
    loop < last.loops.length :=
  Nat.lt_of_lt_of_le (Nat.lt_of_lt_of_le known (grows_setRunning ..).loops) (h.steady known).loops

theorem isRunning (h : Cycling host budget loop timeout machine n last)
    (known : loop < machine.loops.length) :
    last.isRunning loop = true ↔ .loop loop .stopped ∉ last.since machine :=
  (h.steady known).since (isRunning_setRunning known true)

/-- The run goes on exactly as long as it is not over. -/
theorem shouldContinue (h : Cycling host budget loop timeout machine n last)
    (known : loop < machine.loops.length) :
    (last.loopAt loop).shouldContinue = true ↔ ¬ Ended machine loop last := by
  rw [Ended, not_or, ← h.isRunning known]
  simp [EventLoop.shouldContinue, Registry.isEmpty, entries, Machine.isRunning, and_comm]

theorem trace (h : Cycling host budget loop timeout machine n last) (coherent : machine.Coherent) :
    ∃ events, Trace host .code events (machine.setRunning loop true) last ∧ last.Coherent := by
  have begun := coherent.change (.setRunning machine loop true)
  induction h with
  | start => exact ⟨[], .quiet (.refl _), begun⟩
  | cycle h going ran ih =>
    obtain ⟨early, before, coherent⟩ := ih
    obtain ⟨late, cycle⟩ := runs_runOnce (runs_performBut budget) loop timeout _ _ _ coherent ran
    exact ⟨late ++ early, before.seq cycle, coherent.changes cycle.changes⟩

theorem unique (h : Cycling host budget loop timeout machine n last)
    (h' : Cycling host budget loop timeout machine n other) : last = other := by
  induction h generalizing other with
  | start => cases h'; rfl
  | cycle h going ran ih =>
    cases h' with
    | cycle h' going' ran' =>
      rw [ih h'] at ran
      exact congrArg Prod.snd (Option.some.inj (ran.symm.trans ran'))

/-- When a cycle begins, the run was not over before any of the cycles until then. -/
theorem not_ended (h : Cycling host budget loop timeout machine m other) (lt : n < m) :
    ∃ middle, Cycling host budget loop timeout machine n middle ∧ ¬ Ended machine loop middle := by
  induction h with
  | start => cases lt
  | cycle h going ran ih =>
    obtain before | rfl := Nat.lt_succ_iff_lt_or_eq.mp lt
    · exact ih before
    · exact ⟨_, h, going⟩

/-- No cycle follows the end of the run. -/
theorem le_of_ended (h : Cycling host budget loop timeout machine n last)
    (ended : Ended machine loop last) (h' : Cycling host budget loop timeout machine m other) :
    m ≤ n := by
  apply Nat.le_of_not_lt
  intro lt
  obtain ⟨middle, same, going⟩ := h'.not_ended lt
  exact going (h.unique same ▸ ended)

end Cycling

theorem cycles_succ {perform : Action ω → Run ω Answer} :
    cycles host perform loop timeout (limit + 1) machine =
      if (machine.loopAt loop).shouldContinue then
        (runOnce host perform loop timeout machine).bind fun run =>
          cycles host perform loop timeout limit run.2
      else some ((), machine) := by
  rw [cycles, run_get]
  split <;> rfl

/-- The first cycles use up their part of the limit, with any interpreter that does in them what the restricted one
does. -/
theorem Cycling.cycles_add {perform : Action ω → Run ω Answer}
    (real : ∀ middle, loop < middle.loops.length → ∀ done,
      runOnce host (performBut host loop budget) loop timeout middle = some done →
        runOnce host perform loop timeout middle = some done)
    (h : Cycling host budget loop timeout machine n last) (known : loop < machine.loops.length) (rest : Nat) :
    cycles host perform loop timeout (rest + n) (machine.setRunning loop true) =
      cycles host perform loop timeout rest last := by
  induction h generalizing rest with
  | start => rfl
  | @cycle n _ _ _ h going ran ih =>
    have split : rest + (n + 1) = rest + 1 + n := by omega
    rw [split, ih, cycles_succ, if_pos ((h.shouldContinue known).mpr going), real _ (h.known known) _ ran]
    rfl

theorem Cycling.of_cycles (h : Cycling host budget loop timeout machine n middle)
    (known : loop < machine.loops.length)
    (ran : cycles host (performBut host loop budget) loop timeout limit middle = some ((), last)) :
    ∃ more, more < limit ∧ Cycling host budget loop timeout machine (n + more) last ∧
      Ended machine loop last := by
  induction limit generalizing n middle with
  | zero => cases ran
  | succ limit ih =>
    rw [cycles_succ] at ran
    split at ran
    · next going =>
      obtain ⟨⟨count, next⟩, cycle, rest⟩ := Option.bind_eq_some_iff.mp ran
      obtain ⟨more, lt, cycling, ended⟩ := ih (h.cycle ((h.shouldContinue known).mp going) cycle) rest
      refine ⟨more + 1, Nat.succ_lt_succ lt, ?_, ended⟩
      rwa [Nat.add_right_comm] at cycling
    · next done =>
      cases ran
      exact ⟨0, Nat.succ_pos limit, h, not_not.mp (mt (h.shouldContinue known).mpr done)⟩

/-- A run returns exactly after the first cycle at whose end it is over. -/
theorem run_eq_some_iff (known : loop < machine.loops.length) :
    run host (performBut host loop budget) loop timeout limit machine = some ((), after) ↔
      ∃ n last, n < limit ∧ Cycling host budget loop timeout machine n last ∧
        Ended machine loop last ∧ after = last.setRunning loop false := by
  rw [run_eq]
  constructor
  · intro ran
    obtain ⟨⟨⟨⟩, last⟩, cycled, stopped⟩ := Option.map_eq_some_iff.mp ran
    obtain ⟨n, lt, cycling, ended⟩ := Cycling.start.of_cycles known cycled
    rw [Nat.zero_add] at cycling
    exact ⟨n, last, lt, cycling, ended, (congrArg Prod.snd stopped).symm⟩
  · rintro ⟨n, last, lt, cycling, ended, rfl⟩
    obtain ⟨rest, rfl⟩ : ∃ rest, limit = rest + 1 + n := ⟨limit - n - 1, by omega⟩
    rw [cycling.cycles_add (fun _ _ _ ran => ran) known, cycles_succ,
      if_neg fun going => (cycling.shouldContinue known).mp going ended]
    rfl

/-- What a restricted run does, the run does. -/
theorem run_of_performBut (known : loop < machine.loops.length)
    (ran : run host (performBut host loop budget) loop timeout limit machine = some ((), after)) :
    run host (perform host budget) loop timeout limit machine = some ((), after) := by
  rw [run_eq] at ran ⊢
  obtain ⟨⟨⟨⟩, last⟩, cycled, stopped⟩ := Option.map_eq_some_iff.mp ran
  obtain ⟨same, -⟩ := (shadows_cycles (shadows_perform budget) timeout limit).spares _
    (Nat.lt_of_lt_of_le known (grows_setRunning ..).loops) () last cycled
  rw [same]
  exact congrArg some stopped

theorem runOnce_idle {perform : Action ω → Run ω Answer} (nonempty : machine.entries loop ≠ [])
    (idle : (pollReply host machine loop timeout).failed = true ∨
      readyOf (machine.entries loop) (pollReply host machine loop timeout) = []) :
    ∃ next, runOnce host perform loop timeout machine = some (0, next) := by
  rw [runOnce_eq nonempty, dispatchAll_unready _ (isReady_eq_false idle)]
  exact ⟨_, rfl⟩

/-- A cycle whose poll call failed or reported nothing does not end the run. -/
theorem Cycling.idle (h : Cycling host budget loop timeout machine n middle)
    (known : loop < machine.loops.length) (coherent : machine.Coherent)
    (going : ¬ Ended machine loop middle)
    (idle : (pollReply host middle loop timeout).failed = true ∨
      readyOf (middle.entries loop) (pollReply host middle loop timeout) = []) :
    ∃ next, Cycling host budget loop timeout machine (n + 1) next ∧ ¬ Ended machine loop next := by
  obtain ⟨nonempty, unstopped⟩ := not_or.mp going
  obtain ⟨next, ran⟩ := runOnce_idle nonempty idle
  obtain ⟨-, -, coherent⟩ := h.trace coherent
  obtain ⟨events, inside, released, walk, release, last⟩ :=
    runOnce_inv (runs_performBut budget) nonempty coherent ran
  have parts : CycleParts host loop timeout middle 0 next events released inside :=
    ⟨nonempty, walk, release, last⟩
  obtain ⟨-, registries, outward⟩ := parts.nothing idle
  have cycled := h.cycle going ran
  refine ⟨next, cycled, not_or.mpr ⟨?_, fun stopped => ?_⟩⟩
  · rwa [entries, registries]
  · have both : next.since machine = next.since middle ++ middle.since machine :=
      since_append (h.steady known).journal parts.journal
    rw [both] at stopped
    obtain late | early := List.mem_append.mp stopped
    · cases outward _ late
    · exact unstopped early

/-- A cycle of a run dispatches all that is ready, whatever the code in it does. -/
theorem Cycling.dispatches {perform : Action ω → Run ω Answer} (code : ∀ action, Runs host .code (perform action))
    (h : Cycling host budget loop timeout machine n middle)
    (coherent : machine.Coherent) (going : ¬ Ended machine loop middle)
    (ran : runOnce host perform loop timeout middle = some (count, next)) :
    dispatches loop (machine.snapshots.length + 1) (next.since middle) =
        ((readyOf (middle.entries loop) (pollReply host middle loop timeout)).filter
          fun pair => decide (pair.1.callback ∉ machine.executing)).map
          (fun pair => (pair.1.callback, pair.1.descriptor, pair.2)) ∧
      count = ((readyOf (middle.entries loop) (pollReply host middle loop timeout)).filter
        fun pair => decide (pair.1.callback ∉ machine.executing)).length := by
  obtain ⟨early, before, coherent⟩ := h.trace coherent
  have nonempty := (not_or.mp going).1
  obtain ⟨events, inside, released, walk, release, last⟩ := runOnce_inv code nonempty coherent ran
  have parts : CycleParts host loop timeout middle count next events released inside :=
    ⟨nonempty, walk, release, last⟩
  have all := parts.dispatches_eq
  rwa [before.executing, before.snapshots] at all

structure RunsUntilStopped (host : Host ω) (budget : Nat) (loop : LoopId) (timeout : Option Duration)
    (machine : Machine ω) : Prop where
  -- What a run does when it is refused to run the loop inside, it does.
  real : ∀ limit after,
    run host (performBut host loop budget) loop timeout limit machine = some ((), after) →
      run host (perform host budget) loop timeout limit machine = some ((), after)
  -- It returns exactly after the first cycle at whose end nothing is registered or there was a stop.
  returns : ∀ limit after,
    run host (performBut host loop budget) loop timeout limit machine = some ((), after) ↔
      ∃ n last, n < limit ∧ Cycling host budget loop timeout machine n last ∧
        Ended machine loop last ∧ after = last.setRunning loop false
  -- No cycle follows that one.
  last : ∀ n last, Cycling host budget loop timeout machine n last → Ended machine loop last →
    ∀ m other, Cycling host budget loop timeout machine m other → m ≤ n
  none : ∀ n last, Cycling host budget loop timeout machine n last → Ended machine loop last →
    (n = 0 ↔ machine.entries loop = [])
  -- A stop before the run leaves its record, and nothing else that the run could notice.
  unheeded : ∀ limit performer,
    run host performer loop timeout limit ((machine.setRunning loop false).note (.loop loop .stopped)) =
      run host performer loop timeout limit (machine.note (.loop loop .stopped))
  -- Each cycle dispatches all that its poll call reported, wherever in it there is a stop.
  dispatches : ∀ n middle count next, Cycling host budget loop timeout machine n middle →
    ¬ Ended machine loop middle →
    runOnce host (performBut host loop budget) loop timeout middle = some (count, next) →
      dispatches loop (machine.snapshots.length + 1) (next.since middle) =
          ((readyOf (middle.entries loop) (pollReply host middle loop timeout)).filter
            fun pair => decide (pair.1.callback ∉ machine.executing)).map
            (fun pair => (pair.1.callback, pair.1.descriptor, pair.2)) ∧
        count = ((readyOf (middle.entries loop) (pollReply host middle loop timeout)).filter
          fun pair => decide (pair.1.callback ∉ machine.executing)).length
  -- A cycle whose poll call failed or reported nothing comes to an end, and the run goes on after it.
  idle : ∀ n middle, Cycling host budget loop timeout machine n middle → ¬ Ended machine loop middle →
    (pollReply host middle loop timeout).failed = true ∨
      readyOf (middle.entries loop) (pollReply host middle loop timeout) = [] →
    ∃ next, Cycling host budget loop timeout machine (n + 1) next ∧ ¬ Ended machine loop next
  -- The loop is running until a stop: between its cycles, when the code of a callback starts, and after each of the
  -- actions of such code.
  running : ∀ n last, Cycling host budget loop timeout machine n last →
    (last.isRunning loop = true ↔ .loop loop .stopped ∉ last.since machine) ∧
      Along (Finds loop true) (last.since machine)
  inside : ∀ action (inner outer : Machine ω) answer, loop < inner.loops.length →
    performBut host loop budget action inner = some (answer, outer) →
      (outer.isRunning loop = true ↔
        inner.isRunning loop = true ∧ .loop loop .stopped ∉ outer.since inner)
  returned : ∀ limit after, run host (perform host budget) loop timeout limit machine = some ((), after) →
    after.isRunning loop = false

/-- A run of a loop that exists, from any machine and whatever the kernel answers. -/
theorem run_untilStopped (host : Host ω) (budget : Nat) (loop : LoopId) (timeout : Option Duration)
    {machine : Machine ω} (coherent : machine.Coherent) (known : loop < machine.loops.length) :
    RunsUntilStopped host budget loop timeout machine where
  real limit after := run_of_performBut known
  returns limit after := run_eq_some_iff known
  last n last h ended m other h' := h.le_of_ended ended h'
  none n last h ended := by
    constructor
    · rintro rfl
      cases h with
      | start =>
        have unstopped : (machine.setRunning loop true).since machine = [] :=
          since_eq (List.nil_append machine.journal).symm
        rw [Ended, unstopped, entries_setRunning] at ended
        exact ended.resolve_right List.not_mem_nil
    · intro empty
      have begun : Ended machine loop (machine.setRunning loop true) :=
        .inl ((entries_setRunning machine loop loop true).trans empty)
      exact Nat.le_zero.mp (Cycling.start.le_of_ended begun h)
  unheeded limit performer := by
    rw [run_eq, run_eq]
    change (cycles _ _ _ _ _ (((machine.setRunning loop false).setRunning loop true).note _)).map _ = _
    rw [setRunning_setRunning]
    rfl
  dispatches n middle count next h going ran := h.dispatches (runs_performBut budget) coherent going ran
  idle n middle h going idle := h.idle known coherent going idle
  running n last h := by
    have finds := (h.steady known).finds
    rw [isRunning_setRunning known] at finds
    exact ⟨h.isRunning known, finds⟩
  inside action inner outer answer there ran := by
    obtain ⟨-, events, steady⟩ := spares_perform budget action inner there answer outer ran
    rw [since_eq steady.journal]
    exact steady.running
  returned limit after ran := by
    rw [run_eq] at ran
    obtain ⟨done, -, last⟩ := Option.map_eq_some_iff.mp ran
    have last : done.2.setRunning loop false = after := congrArg Prod.snd last
    exact last ▸ isRunning_setRunning_false done.2 loop

def stoppingHost : Host (Option Role) :=
  plainHost readableKernel fun code _ _ _ =>
    if code = 0 then .perform "stop" (.loop (.request 0 .stop)) fun _ => .done else .done

/-- Stopped by its first callback, a run still dispatches the second one, and returns with both registered. -/
theorem run_untilStopped_stopping :
    twoWatchers.Coherent ∧ 0 < twoWatchers.loops.length ∧
      RunsUntilStopped stoppingHost 2 0 none twoWatchers ∧
      ∃ after, run stoppingHost (perform stoppingHost 2) 0 none 2 twoWatchers = some ((), after) ∧
        dispatches 0 1 (after.since twoWatchers) = [(0, 5, Interest.read), (1, 6, Interest.read)] ∧
        (after.entries 0).length = 2 := by
  have known : 0 < twoWatchers.loops.length := by decide
  have all := run_untilStopped stoppingHost 2 0 none coherent_twoWatchers known
  have ran : (run stoppingHost (performBut stoppingHost 0 2) 0 none 2 twoWatchers).map
      (fun done => (dispatches 0 1 (done.2.since twoWatchers), (done.2.entries 0).length)) =
        some ([(0, 5, Interest.read), (1, 6, Interest.read)], 2) := rfl
  obtain ⟨⟨⟨⟩, after⟩, h, seen⟩ := Option.map_eq_some_iff.mp ran
  have seen := Prod.mk.inj seen
  exact ⟨coherent_twoWatchers, known, all, after, all.real 2 after h, seen.1, seen.2⟩

end NetReactor.Machine
