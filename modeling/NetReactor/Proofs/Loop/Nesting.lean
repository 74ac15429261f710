import NetReactor.Proofs.Loop.OneShot
/-!
Dispatches inside other dispatches. A loop that is not driven re-entrantly begins no dispatch before the last one is
over, so the cycles inside a dispatch leave it alone.
-/
namespace NetReactor

def Event.isOf (id : CallbackId) : Event → Bool
  | .callback other .. => other == id
  | .loop _ (.dispatched _ other ..) | .loop _ (.finished _ other) => other == id
  | .loop _ (.withdrawn _ other) | .loop _ (.retired _ other) => other == id
  | _ => false

theorem Event.isOf_outward {id : CallbackId} {event : Event} (h : event.isOutward = true) :
    event.isOf id = false := by
  cases event with
  | callback => cases h
  | loop => cases h
  | _ => rfl

def LoopEvent.nest (outer : List (Nat × CallbackId)) : LoopEvent → List (Nat × CallbackId)
  | .dispatched depth id .. => (depth, id) :: outer
  | .finished depth id => outer.filter (· != (depth, id))
  | .created | .registered _ | .removed _ | .withdrawn .. | .retired .. | .stopped => outer

theorem LoopEvent.nest_mono (event : LoopEvent) {few many : List (Nat × CallbackId)} (h : few ⊆ many) :
    event.nest few ⊆ event.nest many := by
  cases event with
  | dispatched => exact List.cons_subset_cons _ h
  | finished depth id => exact List.filter_subset _ h
  | _ => exact h

namespace Machine

variable {ω : Type} {host : Host ω} {place : Place} {events late early : List Event}
variable {before after machine : Machine ω} {loop : LoopId} {registration : Registration} {id : CallbackId}
variable {descriptor : Descriptor} {ready : Interest} {depth : Nat}

def unfinished (loop : LoopId) : List Event → List (Nat × CallbackId)
  | [] => []
  | .loop other event :: events =>
    if other = loop then event.nest (unfinished loop events) else unfinished loop events
  | .syscall .. :: events | .provider .. :: events | .wire .. :: events | .callback .. :: events
  | .answered .. :: events | .socket .. :: events => unfinished loop events

theorem unfinished_subset (late early : List Event) :
    unfinished loop late ⊆ unfinished loop (late ++ early) := by
  induction late with
  | nil => exact List.nil_subset _
  | cons event late ih =>
    cases event with
    | loop other event =>
      simp only [List.cons_append, unfinished]
      split
      · exact event.nest_mono ih
      · exact ih
    | _ => exact ih

/-- A dispatch that is over has an end. -/
theorem finished_of_not_mem (h : (depth, id) ∉ unfinished loop
    (late ++ .loop loop (.dispatched depth id descriptor ready) :: early)) :
    .loop loop (.finished depth id) ∈ late := by
  induction late with
  | nil => simp [unfinished, LoopEvent.nest] at h
  | cons event late ih =>
    by_cases own : event = .loop loop (.finished depth id)
    · exact own ▸ List.mem_cons_self ..
    · refine List.mem_cons_of_mem _ (ih fun mem => h ?_)
      cases event with
      | loop other event =>
        rw [List.cons_append, unfinished]
        split
        · next here =>
          subst here
          cases event with
          | dispatched => exact List.mem_cons_of_mem _ mem
          | finished deep other =>
            refine List.mem_filter.mpr ⟨mem, bne_iff_ne.mpr fun same => own ?_⟩
            cases same
            rfl
          | _ => exact mem
        · exact mem
      | _ => exact mem

def isAlone (loop : LoopId) (early : List Event) : Event → Bool
  | .loop other (.dispatched ..) => other != loop || (unfinished loop early).isEmpty
  | _ => true

/-- No callback drives the loop re-entrantly so that something is dispatched: each dispatch begins after the last
one is over. -/
def Solo (loop : LoopId) (events : List Event) : Prop :=
  Along (fun early event => isAlone loop early event = true) events

instance : Decidable (Solo loop events) :=
  inferInstanceAs (Decidable (Along (fun early event => isAlone loop early event = true) events))

namespace Solo

theorem later (h : Solo loop (late ++ early)) : Solo loop late := by
  have laws := (along_append.mp h).1
  refine along_of_split fun after event before split => ?_
  subst split
  have law := laws.at_split
  unfold isAlone at law ⊢
  split
  · next other _ _ _ _ =>
    obtain elsewhere | none := Bool.or_eq_true _ _ ▸ law
    · simp [elsewhere]
    · have idle := @unfinished_subset loop before early
      rw [List.isEmpty_iff.mp none] at idle
      simp [List.subset_nil.mp idle]
  · rfl

theorem earlier (h : Solo loop (late ++ early)) : Solo loop early := (along_append.mp h).2

theorem unfinished_eq_nil (h : Solo loop (late ++ .loop loop (.dispatched depth id descriptor ready) :: early)) :
    unfinished loop early = [] := by
  simpa [isAlone] using Along.at_split h

end Solo

/-- What is over was dispatched. -/
theorem Trace.finished (h : Trace host place events before after)
    (mem : .loop loop (.finished depth id) ∈ events) :
    ∃ descriptor ready, .loop loop (.dispatched depth id descriptor ready) ∈ events := by
  induction h with
  | quiet h => exact absurd mem (h.no_loop _)
  | seq _ _ ih ih' =>
    obtain late | early := List.mem_append.mp mem
    · obtain ⟨descriptor, ready, mem⟩ := ih' late
      exact ⟨descriptor, ready, List.mem_append_left _ mem⟩
    · obtain ⟨descriptor, ready, mem⟩ := ih early
      exact ⟨descriptor, ready, List.mem_append_right _ mem⟩
  | atOnce _ _ ih =>
    obtain ⟨descriptor, ready, mem⟩ := ih (by simpa using mem)
    exact ⟨descriptor, ready, List.mem_append_left _ mem⟩
  | run _ ih => exact ih mem
  | cycle _ ih => exact ih mem
  | @dispatch machine _ other _ registration ready _ _ _ _ ih =>
    obtain own | inner := List.mem_cons.mp mem
    · cases own
      exact ⟨registration.descriptor, ready, by simp⟩
    · obtain ⟨descriptor, ready, mem⟩ := ih (by simpa using inner)
      exact ⟨descriptor, ready, by simp [mem]⟩
  | overlooked _ _ _ _ _ release ih =>
    obtain ⟨descriptor, ready, mem⟩ := ih (by simpa [release.no_loop] using mem)
    exact ⟨descriptor, ready, List.mem_append_right _ mem⟩
  | told _ _ _ _ _ _ release ih ih' =>
    simp only [List.mem_append, release.no_loop, List.mem_cons, reduceCtorEq, false_or] at mem
    obtain inside | responded := mem
    · obtain ⟨descriptor, ready, mem⟩ := ih' inside
      exact ⟨descriptor, ready, by simp [mem]⟩
    · obtain ⟨descriptor, ready, mem⟩ := ih responded
      exact ⟨descriptor, ready, by simp [mem]⟩
  | _ => simp at mem

/-- A loop that is not driven re-entrantly dispatches nothing inside a dispatch. -/
theorem Solo.not_inside
    (solo : Solo loop (events ++ [.loop loop (.dispatched depth registration.callback descriptor ready)]))
    (h : Trace host (.reaction loop registration ready) events before after)
    (same : before.snapshots.length = depth) (deep : Nat) (other : CallbackId) (elsewhere : Descriptor)
    (mask : Interest) : .loop loop (.dispatched deep other elsewhere mask) ∉ events := by
  intro mem
  subst same
  obtain ⟨late, early, rfl⟩ := List.append_of_mem mem
  rw [List.append_assoc, List.cons_append] at solo
  have closed : .loop loop (.finished before.snapshots.length registration.callback) ∈ early :=
    finished_of_not_mem (by rw [solo.unfinished_eq_nil]; exact List.not_mem_nil)
  obtain ⟨_, _, again⟩ := h.finished (List.mem_append_right late (List.mem_cons_of_mem _ closed))
  obtain ⟨deeper, -⟩ | ⟨_, cycle, -⟩ := h.dispatched again
  · exact absurd deeper (Nat.lt_irrefl _)
  · cases cycle

/-- All that such a loop dispatches during one of its cycles is dispatched by that cycle. -/
theorem Solo.calm {found : List Registration} (solo : Solo loop events)
    (h : Trace host (.cycle loop found) events before after) : Calm loop before.snapshots.length events := by
  suffices same : ∀ deep id descriptor ready, .loop loop (.dispatched deep id descriptor ready) ∈ events →
      deep = before.snapshots.length by
    intro event mem
    unfold isCalm
    split
    · next other deep id descriptor ready =>
      by_cases here : other = loop
      · subst here
        simp [same deep id descriptor ready mem]
      · simp [here]
    · rfl
  intro deep id descriptor ready mem
  generalize place : Place.cycle loop found = at_ at h
  induction h with
  | quiet h => exact absurd mem (h.no_loop _)
  | poll => simp at mem
  | @seq _ _ _ _ _ _ h _ ih ih' =>
    obtain late | early := List.mem_append.mp mem
    · rw [← h.snapshots]
      exact ih' (Solo.later solo) late place
    · exact ih (Solo.earlier solo) early place
  | skip => simp at mem
  | @dispatch machine _ other _ registration ready' events _ _ h =>
    cases place
    simp only [List.mem_cons, List.mem_append, reduceCtorEq, mem_retirement, Event.loop.injEq, and_false,
      false_or, or_false] at mem
    obtain inside | ⟨-, own⟩ := mem
    · have split : Event.loop loop (.finished machine.snapshots.length registration.callback) :: (events ++
          (.loop loop (.dispatched machine.snapshots.length registration.callback registration.descriptor ready') ::
            retirement loop registration)) =
          [.loop loop (.finished machine.snapshots.length registration.callback)] ++ ((events ++
            [.loop loop (.dispatched machine.snapshots.length registration.callback registration.descriptor
              ready')]) ++ retirement loop registration) := by simp
      rw [split] at solo
      have inner := Solo.later (Solo.earlier solo)
      exact absurd inside (inner.not_inside h (by simp) _ _ _ _)
    · cases own
      rfl
  | _ => cases place

/-- What a callback that is not dispatched does not do. -/
theorem Trace.not_of (h : Trace host .code events before after) (history : before.History)
    (made : .loop loop (.registered registration) ∈ before.journal)
    (never : ¬ Dispatched events registration.callback) :
    ∀ event ∈ events, event.isOf registration.callback = false := by
  intro event mem
  refine Bool.eq_false_iff.mpr fun own => never ?_
  cases event with
  | callback id code notice found =>
    obtain rfl := eq_of_beq own
    obtain handles | dispatched | begun := h.callback mem
    · exact absurd handles (Place.not_handles rfl)
    · exact dispatched
    · exact absurd (history.lt_callbacks made) (Nat.not_lt_of_le begun.lower)
  | loop other event =>
    cases event with
    | dispatched depth id descriptor ready =>
      obtain rfl := eq_of_beq own
      exact ⟨other, depth, descriptor, ready, mem⟩
    | finished depth id =>
      obtain rfl := eq_of_beq own
      obtain ⟨descriptor, ready, dispatched⟩ := h.finished mem
      exact ⟨other, depth, descriptor, ready, dispatched⟩
    | withdrawn descriptor id =>
      obtain rfl := eq_of_beq own
      obtain ⟨depth, ready, dispatched⟩ | ⟨_, handled, -⟩ := h.withdrawn mem
      · exact ⟨other, depth, descriptor, ready, dispatched⟩
      · cases handled
    | retired descriptor id =>
      obtain rfl := eq_of_beq own
      obtain ⟨late, early, split⟩ := List.append_of_mem mem
      obtain ⟨depth, ready, rest, rfl, -⟩ := h.retires history trivial split
      exact ⟨other, depth, descriptor, ready, by simp [split]⟩
    | _ => cases own
  | _ => cases own

end Machine
end NetReactor
