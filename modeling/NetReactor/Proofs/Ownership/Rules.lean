import NetReactor.Proofs.Machine.Reaction
/-!
Triples of computations on the machine, with and without a budget: from a machine with one property a
computation leads to one with the other, if it comes to an end.
-/
namespace NetReactor.Machine

variable {ω α β : Type} {early : Machine ω → Prop} {between : α → Machine ω → Prop}

def Passes (early : Machine ω → Prop) (action : Step ω α) (late : α → Machine ω → Prop) : Prop :=
  ∀ machine, early machine → late (action machine).1 (action machine).2

def Leads (early : Machine ω → Prop) (action : Run ω α) (late : α → Machine ω → Prop) : Prop :=
  ∀ machine result after, early machine → action machine = some (result, after) → late result after

namespace Passes

theorem pure {a : α} (h : ∀ machine, early machine → between a machine) :
    Passes early (pure a : Step ω α) between := h

theorem bind {action : Step ω α} {next : α → Step ω β} {late : β → Machine ω → Prop}
    (h : Passes early action between) (hn : ∀ a, Passes (between a) (next a) late) :
    Passes early (action >>= next) late :=
  fun machine start => hn _ _ (h machine start)

theorem anything (action : Step ω α) : Passes early action fun _ _ => True := fun _ _ => trivial

theorem get : Passes early (get : Step ω (Machine ω)) fun seen machine => early machine ∧ machine = seen :=
  fun _ start => ⟨start, rfl⟩

/-- All that a change leaves. -/
theorem changed {change : Machine ω → Machine ω} : Passes early (modify change : Step ω PUnit)
    fun _ machine => ∃ before, early before ∧ change before = machine :=
  fun machine start => ⟨machine, start, rfl⟩

theorem modify {change : Machine ω → Machine ω} {late : Machine ω → Prop}
    (h : ∀ machine, early machine → late (change machine)) :
    Passes early (modify change : Step ω PUnit) fun _ => late := h

end Passes

namespace Leads

theorem pure {a : α} (h : ∀ machine, early machine → between a machine) :
    Leads early (pure a : Run ω α) between := by
  intro machine result after start ran
  cases ran
  exact h machine start

theorem bind {action : Run ω α} {next : α → Run ω β} {late : β → Machine ω → Prop}
    (h : Leads early action between) (hn : ∀ a, Leads (between a) (next a) late) :
    Leads early (action >>= next) late := by
  intro machine result after start ran
  obtain ⟨a, middle, first, rest⟩ := run_bind ran
  exact hn a middle result after (h machine a middle start first) rest

theorem lift {action : Step ω α} (h : Passes early action between) :
    Leads early (liftM action : Run ω α) between := by
  intro machine result after start ran
  have done := h machine start
  rw [show action machine = (result, after) from Option.some.inj ran] at done
  exact done

theorem get : Leads early (get : Run ω (Machine ω)) fun seen machine => early machine ∧ machine = seen := by
  intro machine result after start ran
  cases ran
  exact ⟨start, rfl⟩

theorem modify {change : Machine ω → Machine ω} {late : Machine ω → Prop}
    (h : ∀ machine, early machine → late (change machine)) :
    Leads early (modify change : Run ω PUnit) fun _ => late := by
  intro machine result after start ran
  cases ran
  exact h machine start

theorem exhausted : Leads early (Budgeted.exhausted : Run ω α) between := nofun

theorem weaken {before : Machine ω → Prop} {action : Run ω α} (h : Leads early action between)
    (begun : ∀ machine, before machine → early machine) : Leads before action between :=
  fun machine result after start ran => h machine result after (begun machine start) ran

end Leads
end NetReactor.Machine
