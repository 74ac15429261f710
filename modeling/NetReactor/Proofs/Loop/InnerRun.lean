import NetReactor.Proofs.Loop.Running
/-!
Runs of a loop inside a run of the same loop. All of them share one flag, and each puts it out when it returns. So
the outer run is over with the cycle in which its callbacks run the loop, as if they had stopped it, whatever is
registered by then.
-/
namespace NetReactor.Machine

variable {ω : Type} {host : Host ω} {loop : LoopId} {timeout : Option Duration}
variable {budget limit count n : Nat} {machine middle last next after : Machine ω}

structure RunsInside (host : Host ω) (budget : Nat) (loop : LoopId) (timeout : Option Duration)
    (middle next : Machine ω) : Prop where
  refused : runOnce host (performBut host loop budget) loop timeout middle = none
  ran : ∃ count, runOnce host (perform host budget) loop timeout middle = some (count, next)

namespace RunsInside

theorem idle (h : RunsInside host budget loop timeout middle next) (known : loop < middle.loops.length) :
    next.isRunning loop = false :=
  (shadows_runOnce (shadows_perform budget) timeout).idle known h.refused h.ran.choose_spec

theorem shouldContinue (h : RunsInside host budget loop timeout middle next)
    (known : loop < middle.loops.length) : (next.loopAt loop).shouldContinue = false := by
  have idle : (next.loopAt loop).running = false := h.idle known
  rw [EventLoop.shouldContinue, idle, Bool.false_and]

end RunsInside

inductive Finish (host : Host ω) (budget : Nat) (loop : LoopId) (timeout : Option Duration)
    (machine : Machine ω) : Nat → Machine ω → Prop
  | ended {n : Nat} {last : Machine ω} (h : Cycling host budget loop timeout machine n last)
    (ended : Ended machine loop last) : Finish host budget loop timeout machine n last
  | inside {n : Nat} {middle next : Machine ω} (h : Cycling host budget loop timeout machine n middle)
    (going : ¬ Ended machine loop middle) (inside : RunsInside host budget loop timeout middle next) :
    Finish host budget loop timeout machine (n + 1) next

theorem real_runOnce (middle : Machine ω) (known : loop < middle.loops.length) (done : Nat × Machine ω)
    (ran : runOnce host (performBut host loop budget) loop timeout middle = some done) :
    runOnce host (perform host budget) loop timeout middle = some done :=
  ((shadows_runOnce (shadows_perform budget) timeout).spares middle known done.1 done.2 ran).1

theorem Finish.of_cycles (h : Cycling host budget loop timeout machine n middle)
    (known : loop < machine.loops.length)
    (ran : cycles host (perform host budget) loop timeout limit middle = some ((), last)) :
    ∃ more, more < limit ∧ Finish host budget loop timeout machine (n + more) last := by
  induction limit generalizing n middle with
  | zero => cases ran
  | succ limit ih =>
    rw [cycles_succ] at ran
    split at ran
    · next going =>
      have going := (h.shouldContinue known).mp going
      obtain ⟨⟨count, next⟩, cycle, rest⟩ := Option.bind_eq_some_iff.mp ran
      cases refused : runOnce host (performBut host loop budget) loop timeout middle with
      | some done =>
        cases (real_runOnce middle (h.known known) done refused).symm.trans cycle
        obtain ⟨more, lt, finish⟩ := ih (h.cycle going refused) rest
        refine ⟨more + 1, Nat.succ_lt_succ lt, ?_⟩
        rwa [Nat.add_right_comm] at finish
      | none =>
        -- The flag is out, so what is left of the limit buys no further cycle.
        have inside : RunsInside host budget loop timeout middle next := ⟨refused, count, cycle⟩
        cases limit with
        | zero => cases rest
        | succ limit =>
          rw [cycles_succ, inside.shouldContinue (h.known known), if_neg Bool.false_ne_true] at rest
          cases rest
          exact ⟨1, by omega, .inside h going inside⟩
    · next done =>
      cases ran
      exact ⟨0, Nat.succ_pos limit, .ended h (not_not.mp (mt (h.shouldContinue known).mpr done))⟩

theorem Finish.cycles_eq (h : Finish host budget loop timeout machine n last)
    (known : loop < machine.loops.length) (rest : Nat) :
    cycles host (perform host budget) loop timeout (rest + 1 + n) (machine.setRunning loop true) =
      some ((), last) := by
  cases h with
  | ended h ended =>
    rw [h.cycles_add real_runOnce known, cycles_succ,
      if_neg fun going => (h.shouldContinue known).mp going ended]
  | @inside n middle next h going inside =>
    obtain ⟨count, ran⟩ := inside.ran
    have split : rest + 1 + (n + 1) = rest + 1 + 1 + n := by omega
    rw [split, h.cycles_add real_runOnce known, cycles_succ, if_pos ((h.shouldContinue known).mpr going), ran,
      Option.bind_some, cycles_succ, inside.shouldContinue (h.known known), if_neg Bool.false_ne_true]

/-- At the end of a cycle the flag tells whether there was a stop or a run of the loop since the run began. -/
theorem Cycling.isRunning_after (h : Cycling host budget loop timeout machine n middle)
    (known : loop < machine.loops.length) (going : ¬ Ended machine loop middle)
    (ran : runOnce host (perform host budget) loop timeout middle = some (count, next)) :
    next.isRunning loop = true ↔
      ¬ RunsInside host budget loop timeout middle next ∧ .loop loop .stopped ∉ next.since machine := by
  cases refused : runOnce host (performBut host loop budget) loop timeout middle with
  | some done =>
    cases (real_runOnce middle (h.known known) done refused).symm.trans ran
    have apart : ¬ RunsInside host budget loop timeout middle next := fun inside => by
      cases refused.symm.trans inside.refused
    rw [and_iff_right apart]
    exact (h.cycle going refused).isRunning known
  | none =>
    have inside : RunsInside host budget loop timeout middle next := ⟨refused, count, ran⟩
    rw [inside.idle (h.known known)]
    exact ⟨fun out => (nomatch out), fun both => absurd inside both.1⟩

structure EndsWithInnerRun (host : Host ω) (budget : Nat) (loop : LoopId) (timeout : Option Duration)
    (machine : Machine ω) : Prop where
  -- The run returns exactly after the first cycle at whose end nothing is registered or there was a stop, or in
  -- which code ran the loop.
  returns : ∀ limit after,
    run host (perform host budget) loop timeout limit machine = some ((), after) ↔
      ∃ n last, n < limit ∧ Finish host budget loop timeout machine n last ∧ after = last.setRunning loop false
  -- At the end of each cycle the loop is running unless it was stopped, or run inside.
  running : ∀ n middle count next, Cycling host budget loop timeout machine n middle → ¬ Ended machine loop middle →
    runOnce host (perform host budget) loop timeout middle = some (count, next) →
      (next.isRunning loop = true ↔
        ¬ RunsInside host budget loop timeout middle next ∧ .loop loop .stopped ∉ next.since machine)
  -- An action of the code leaves the loop running if it was running, and the action neither stopped nor ran it.
  inside : ∀ action (inner outer : Machine ω) answer, loop < inner.loops.length →
    perform host budget action inner = some (answer, outer) →
      (outer.isRunning loop = true ↔ inner.isRunning loop = true ∧
        performBut host loop budget action inner ≠ none ∧ .loop loop .stopped ∉ outer.since inner)
  -- The cycle in which the loop was run is gone through to its end.
  dispatches : ∀ n middle count next, Cycling host budget loop timeout machine n middle →
    ¬ Ended machine loop middle →
    runOnce host (perform host budget) loop timeout middle = some (count, next) →
      dispatches loop (machine.snapshots.length + 1) (next.since middle) =
          ((readyOf (middle.entries loop) (pollReply host middle loop timeout)).filter
            fun pair => decide (pair.1.callback ∉ machine.executing)).map
            (fun pair => (pair.1.callback, pair.1.descriptor, pair.2)) ∧
        count = ((readyOf (middle.entries loop) (pollReply host middle loop timeout)).filter
          fun pair => decide (pair.1.callback ∉ machine.executing)).length

/-- A run of a loop that exists, from any machine, so at any depth, and whatever the kernel answers. -/
theorem run_endsWithInnerRun (host : Host ω) (budget : Nat) (loop : LoopId) (timeout : Option Duration)
    {machine : Machine ω} (coherent : machine.Coherent) (known : loop < machine.loops.length) :
    EndsWithInnerRun host budget loop timeout machine where
  returns limit after := by
    rw [run_eq]
    constructor
    · intro ran
      obtain ⟨⟨⟨⟩, last⟩, cycled, flagged⟩ := Option.map_eq_some_iff.mp ran
      obtain ⟨n, lt, finish⟩ := Finish.of_cycles .start known cycled
      rw [Nat.zero_add] at finish
      exact ⟨n, last, lt, finish, (congrArg Prod.snd flagged).symm⟩
    · rintro ⟨n, last, lt, finish, rfl⟩
      obtain ⟨rest, rfl⟩ : ∃ rest, limit = rest + 1 + n := ⟨limit - n - 1, by omega⟩
      rw [finish.cycles_eq known]
      rfl
  running n middle count next h going ran := h.isRunning_after known going ran
  inside action inner outer answer there ran := by
    cases guarded : performBut host loop budget action inner with
    | some done =>
      obtain ⟨same, events, steady⟩ := spares_perform budget action inner there done.1 done.2 guarded
      cases same.symm.trans ran
      rw [since_eq steady.journal, steady.running]
      exact and_congr_right fun _ => (and_iff_right (Option.some_ne_none _)).symm
    | none =>
      rw [(shadows_perform budget action).idle there guarded ran]
      exact ⟨fun out => (nomatch out), fun all => absurd rfl all.2.1⟩
  dispatches n middle count next h going ran := h.dispatches (runs_perform budget) coherent going ran

def rerunningHost : Host (Option Role) :=
  plainHost readableKernel fun code _ _ _ =>
    if code = 0 then
      .perform "run" (.loop (.request 0 (.run none))) fun _ =>
        .perform "add" (.loop (.request 0 (.add 6 Interest.read 1 true))) fun _ =>
          .perform "is_running" (.loop (.request 0 .isRunning)) fun _ => .done
    else .done

def watchAlone : List (Action (Option Role)) :=
  [.loop (.create 0 {}), .loop (.request 0 (.add 5 Interest.read 0 true))]

theorem run_endsWithInnerRun_rerunning :
    ∃ machine, machine.Coherent ∧ 0 < machine.loops.length ∧
      EndsWithInnerRun rerunningHost 3 0 none machine ∧
      ∃ next, RunsInside rerunningHost 3 0 none (machine.setRunning 0 true) next := by
  have ran : ((performAll rerunningHost 2 watchAlone { outside := none }).bind fun machine =>
      (runOnce rerunningHost (perform rerunningHost 3) 0 none (machine.setRunning 0 true)).map fun _ =>
        decide (0 < machine.loops.length ∧
          (runOnce rerunningHost (performBut rerunningHost 0 3) 0 none (machine.setRunning 0 true)).isNone)) =
      some true := by decide +kernel
  obtain ⟨machine, began, ran⟩ := Option.bind_eq_some_iff.mp ran
  obtain ⟨⟨count, next⟩, cycled, checked⟩ := Option.map_eq_some_iff.mp ran
  obtain ⟨known, refused⟩ := of_decide_eq_true checked
  have coherent := ((Reachable.new none).performAll began).coherent.1
  exact ⟨machine, coherent, known, run_endsWithInnerRun rerunningHost 3 0 none coherent known, next,
    Option.isNone_iff_eq_none.mp refused, count, cycled⟩

def stopCount (loop : LoopId) (events : List Event) : Nat :=
  events.countP fun event => match event with
    | .loop other .stopped => other == loop
    | _ => false

theorem stopCount_eq_zero {events : List Event} :
    stopCount loop events = 0 ↔ .loop loop .stopped ∉ events := by
  rw [stopCount, List.countP_eq_zero]
  constructor
  · intro none mem
    simpa using none _ mem
  · intro none event mem
    split
    · next other =>
      intro same
      cases eq_of_beq same
      exact none mem
    · exact Bool.false_ne_true

def flagsAnswered (events : List Event) : List Bool :=
  events.filterMap fun event => match event with
    | .answered _ (.flag yes) => some yes
    | _ => none

/-- The outer run returns after its first cycle, though the loop was not stopped and has a registration by then.
The code that made it was told before that the loop is not running. -/
theorem innerRun_endsOuter : ∃ machine after,
    Reachable rerunningHost machine ∧ machine.executing = [] ∧
      run rerunningHost (perform rerunningHost 3) 0 none 3 machine = some ((), after) ∧
      Event.loop 0 .stopped ∉ after.since machine ∧ (after.entries 0).map (·.descriptor) = [6] ∧
      dispatches 0 1 (after.since machine) = [(0, 5, Interest.read)] ∧
      flagsAnswered (after.since machine) = [false] := by
  have ran : ((performAll rerunningHost 2 watchAlone { outside := none }).bind fun machine =>
      (run rerunningHost (perform rerunningHost 3) 0 none 3 machine).map fun done =>
        decide (machine.executing = [] ∧ stopCount 0 (done.2.since machine) = 0 ∧
          (done.2.entries 0).map (·.descriptor) = [6] ∧
          dispatches 0 1 (done.2.since machine) = [(0, 5, Interest.read)] ∧
          flagsAnswered (done.2.since machine) = [false])) = some true := by decide +kernel
  obtain ⟨machine, began, ran⟩ := Option.bind_eq_some_iff.mp ran
  obtain ⟨⟨⟨⟩, after⟩, ended, checked⟩ := Option.map_eq_some_iff.mp ran
  obtain ⟨idle, unstopped, left, dispatched, told⟩ := of_decide_eq_true checked
  exact ⟨machine, after, (Reachable.new none).performAll began, idle, ended, stopCount_eq_zero.mp unstopped,
    left, dispatched, told⟩

end NetReactor.Machine
