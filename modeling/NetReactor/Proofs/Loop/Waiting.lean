import Mathlib.Algebra.Order.Floor.Div
import NetReactor.Proofs.Loop.Running
import NetReactor.Proofs.Machine.Laws
/-!
How long a cycle waits. The timeout of its poll call is the length it was given in milliseconds, rounded up and cut to
the longest wait; counting the milliseconds in 64 bits on the way loses nothing.
-/
namespace NetReactor

namespace Duration

variable {duration other : Duration}

def milli : Nat := 1000000

/-- The whole length in milliseconds, rounded up; it need not fit 64 bits. -/
def millis (duration : Duration) : Nat := duration.total ⌈/⌉ milli

theorem total_ofMillis (count : UInt64) : (ofMillis count).total = count.toNat * milli := by
  have below := count.toNat_lt
  have seconds : count.toNat / 1000 + count.toNat % 1000 * 1000000 / 1000000000 < UInt64.size := by
    simp only [UInt64.size]
    omega
  simp only [ofMillis, ofParts, total, milli, UInt64.toNat_ofNat']
  simp only [UInt64.size] at seconds
  omega

/-- A count of milliseconds that does not fit wraps around. The length that it stands for is too short then, as it is
wherever the length is not whole. -/
theorem rounds_up_iff (duration : Duration) :
    (ofMillis (UInt64.ofNat (duration.total / milli))).total < duration.total ↔
      duration.total % milli ≠ 0 ∨ UInt64.size ≤ duration.total / milli := by
  rw [total_ofMillis, UInt64.toNat_ofNat']
  simp only [milli, UInt64.size]
  omega

theorem pollMillis_eq (duration : Duration) : duration.pollMillis = min duration.millis longestPoll := by
  have rounds := duration.rounds_up_iff
  rw [millis, Nat.ceilDiv_eq_add_pred_div]
  unfold pollMillis
  simp only [milli, UInt64.size] at rounds ⊢
  cases zero : duration.isZero with
  | true =>
    have total : duration.total = 0 := by simpa [isZero] using zero
    rw [if_pos rfl, total]
    decide
  | false =>
    rw [if_neg Bool.false_ne_true]
    split
    · next short =>
      have cases := rounds.mp short
      simp only [longestPoll]
      omega
    · next whole =>
      have exact := not_or.mp (mt rounds.mpr whole)
      simp only [longestPoll]
      omega

structure Rounds (duration : Duration) : Prop where
  value : pollTimeout (some duration) = (min duration.millis longestPoll : Nat)
  nonneg : 0 ≤ pollTimeout (some duration)
  zero_iff : pollTimeout (some duration) = 0 ↔ duration.total = 0
  monotone : ∀ other : Duration, duration.total ≤ other.total →
    pollTimeout (some duration) ≤ pollTimeout (some other)
  -- It is never shorter than the length, unless that is cut.
  covers : duration.total ≤ longestPoll * milli → (duration.total : Int) ≤ pollTimeout (some duration) * milli
  cut : longestPoll * milli < duration.total → pollTimeout (some duration) = longestPoll

theorem rounds (duration : Duration) : Rounds duration := by
  have value (duration : Duration) : pollTimeout (some duration) = (min duration.millis longestPoll : Nat) :=
    congrArg Int.ofNat duration.pollMillis_eq
  constructor
  case value => exact value duration
  all_goals
    simp only [value, millis, Nat.ceilDiv_eq_add_pred_div, milli, longestPoll]
    omega

/-- A length whose count of milliseconds does not fit is cut, and does not become a short one. -/
example : (⟨18446744073709552, 1, by decide⟩ : Duration).pollMillis = longestPoll := by decide +kernel

/-- Only without a timeout is there no limit. -/
theorem pollTimeout_eq_neg_one_iff (timeout : Option Duration) : pollTimeout timeout = -1 ↔ timeout = none := by
  cases timeout with
  | none => exact iff_of_true rfl rfl
  | some duration =>
    have nonneg := (rounds duration).nonneg
    exact iff_of_false (by omega) (by simp)

end Duration

def Event.WaitsFor (event : Event) : Prop :=
  ∀ watches value reply, event = .syscall (.poll watches value) reply →
    ∃ timeout, value = Duration.pollTimeout timeout

theorem allows_waitsFor : Allows Event.WaitsFor where
  outward event _ unpolled := by
    rintro watches value reply rfl
    cases unpolled
  looped _ _ _ _ _ same := by cases same
  polled _ timeout _ _ _ _ same := by
    cases same
    exact ⟨timeout, rfl⟩
  told _ _ _ _ _ _ _ _ same := by cases same

namespace Machine

variable {ω : Type} {host : Host ω} {budget limit count : Nat} {loop : LoopId} {timeout : Option Duration}
variable {machine middle last after : Machine ω}

def PollsFirst (loop : LoopId) (timeout : Option Duration) (before after : Machine ω) : Prop :=
  ∃ reply later, after.journal = later ++ .syscall (pollCall (before.entries loop) timeout) reply :: before.journal

theorem polls_runOnce (nonempty : machine.entries loop ≠ [])
    (ran : runOnce host (perform host budget) loop timeout machine = some (count, after)) :
    PollsFirst loop timeout machine after := by
  rw [runOnce_eq nonempty] at ran
  obtain ⟨⟨number, inside⟩, dispatched, same⟩ := Option.map_eq_some_iff.mp ran
  obtain ⟨-, rfl⟩ := Prod.mk.inj same
  have code : ∀ action, RunsWithin (Obeys Event.WaitsFor) (perform host budget action) :=
    obeys_perform allows_waitsFor budget
  have release : Within (Obeys Event.WaitsFor) (releaseSnapshot host ((machine.entries loop).map (·.callback))) :=
    obeys_releaseSnapshot allows_waitsFor _
  obtain ⟨early, journal, -⟩ := obeys_dispatchAll allows_waitsFor code _ _ _ _ dispatched
  obtain ⟨late, journal', -⟩ := release (inside.setBuffer loop
    (reportedEntries (machine.entries loop) (pollReply host machine loop timeout)))
  refine ⟨pollReply host machine loop timeout, late ++ early, journal'.trans ?_⟩
  rw [List.append_assoc]
  exact congrArg (late ++ ·) journal

inductive CycleChain (host : Host ω) (budget : Nat) (loop : LoopId) (timeout : Option Duration) :
    Nat → Machine ω → Machine ω → Prop
  | none (machine : Machine ω) : CycleChain host budget loop timeout 0 machine machine
  | cycle {machine middle last : Machine ω} {count number : Nat} (nonempty : machine.entries loop ≠ [])
    (ran : runOnce host (perform host budget) loop timeout machine = some (count, middle))
    (polls : PollsFirst loop timeout machine middle) (rest : CycleChain host budget loop timeout number middle last) :
    CycleChain host budget loop timeout (number + 1) machine last

theorem entries_of_shouldContinue (going : (machine.loopAt loop).shouldContinue = true) :
    machine.entries loop ≠ [] := by
  intro empty
  rw [entries] at empty
  simp [EventLoop.shouldContinue, Registry.isEmpty, empty] at going

theorem cycles_polls (ran : cycles host (perform host budget) loop timeout limit machine = some ((), last)) :
    ∃ number < limit, CycleChain host budget loop timeout number machine last := by
  induction limit generalizing machine with
  | zero => cases ran
  | succ limit ih =>
    rw [cycles_succ] at ran
    split at ran
    · next going =>
      have nonempty := entries_of_shouldContinue going
      obtain ⟨⟨count, middle⟩, cycled, rest⟩ := Option.bind_eq_some_iff.mp ran
      obtain ⟨number, lt, others⟩ := ih rest
      exact ⟨number + 1, Nat.succ_lt_succ lt, .cycle nonempty cycled (polls_runOnce nonempty cycled) others⟩
    · cases ran
      exact ⟨0, Nat.succ_pos limit, .none _⟩

structure Waits (host : Host ω) (budget : Nat) (loop : LoopId) (timeout : Option Duration) (machine : Machine ω) :
    Prop where
  idle : machine.entries loop = [] → runOnce host (perform host budget) loop timeout machine = some (0, machine)
  cycle : ∀ count after, machine.entries loop ≠ [] →
    runOnce host (perform host budget) loop timeout machine = some (count, after) →
    PollsFirst loop timeout machine after
  -- Whatever the code of callbacks does, and be it that it never ends, the poll call was made before.
  begun : machine.entries loop ≠ [] →
    (machine.polled host loop timeout).journal =
      .syscall (pollCall (machine.entries loop) timeout) (pollReply host machine loop timeout) :: machine.journal ∧
    ∀ code : Action ω → Run ω Answer, ∃ finish, runOnce host code loop timeout machine =
      (dispatchAll host code loop (reportedTo (machine.entries loop) (pollReply host machine loop timeout))
        (machine.polled host loop timeout)).map finish
  run : ∀ limit after, run host (perform host budget) loop timeout limit machine = some ((), after) →
    ∃ number last, number < limit ∧ CycleChain host budget loop timeout number (machine.setRunning loop true) last ∧
      after = last.setRunning loop false
  -- Every poll call that a program brings about is told such a value, at any depth.
  always : ∀ action answer after, perform host budget action machine = some (answer, after) →
    Obeys Event.WaitsFor machine after

/-- Every length of time, every cycle and every run on every machine: how long a poll call waits. -/
theorem cycle_waits (host : Host ω) (budget : Nat) (loop : LoopId) (timeout : Option Duration) (machine : Machine ω) :
    (∀ duration, Duration.Rounds duration) ∧
      (∀ timeout, Duration.pollTimeout timeout = -1 ↔ timeout = none) ∧ Waits host budget loop timeout machine := by
  refine ⟨Duration.rounds, Duration.pollTimeout_eq_neg_one_iff, ?_⟩
  constructor
  case idle => exact fun empty => runOnce_empty empty timeout
  case cycle => exact fun count after nonempty ran => polls_runOnce nonempty ran
  case begun => exact fun nonempty => ⟨rfl, fun _ => ⟨_, runOnce_eq nonempty timeout⟩⟩
  case run =>
    intro limit after ran
    rw [run_eq] at ran
    obtain ⟨⟨⟨⟩, last⟩, cycled, same⟩ := Option.map_eq_some_iff.mp ran
    obtain ⟨number, lt, cycles⟩ := cycles_polls cycled
    exact ⟨number, last, lt, cycles, (congrArg Prod.snd same).symm⟩
  case always => exact fun action => obeys_perform allows_waitsFor budget action machine

end Machine
end NetReactor
