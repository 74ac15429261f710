import Mathlib.Data.Finset.Card
import NetReactor.Proofs.Loop.Snapshot
import NetReactor.Proofs.Machine.Replay
/-!
Registrations as a map in the order of insertion. The map is read off the journal, one descriptor at a time;
the registrations of a loop list it wherever they are looked at: between the actions of a program, at the
start of every callback's code, and in every poll call, however deep in other cycles.
-/
namespace NetReactor

structure Stay where
  -- How many events there were before the descriptor came.
  since : Nat
  registration : Registration

def LoopEvent.update (descriptor : Descriptor) (now : Nat) (stay : Option Stay) :
    LoopEvent → Option Stay
  | .created => none
  | .registered fresh =>
    if fresh.descriptor = descriptor then some ⟨(stay.map (·.since)).getD now, fresh⟩ else stay
  | .removed gone | .withdrawn gone _ => if gone = descriptor then none else stay
  | .retired gone callback =>
    if gone = descriptor then stay.filter (·.registration.callback != callback) else stay
  | .dispatched .. | .finished .. | .stopped => stay

def LoopEvent.about? : LoopEvent → Option Descriptor
  | .registered fresh => some fresh.descriptor
  | .removed descriptor | .withdrawn descriptor _ | .retired descriptor _ => some descriptor
  | .created | .dispatched .. | .finished .. | .stopped => none

def stay? (loop : LoopId) (descriptor : Descriptor) : List Event → Option Stay
  | [] => none
  | .loop other event :: events =>
    if other = loop then event.update descriptor events.length (stay? loop descriptor events)
    else stay? loop descriptor events
  | .syscall .. :: events | .provider .. :: events | .wire .. :: events | .callback .. :: events
  | .answered .. :: events | .socket .. :: events => stay? loop descriptor events

def Earlier (map : Descriptor → Option Stay) (one other : Descriptor) : Prop :=
  ∀ early late, map one = some early → map other = some late → early.since < late.since

structure Lists (registry : Registry) (map : Descriptor → Option Stay) : Prop where
  entry : ∀ descriptor, registry.lookup? descriptor = (map descriptor).map (·.registration)
  ordered : (registry.entries.map (·.descriptor)).Pairwise (Earlier map)

namespace Lists

variable {registry other : Registry} {map : Descriptor → Option Stay} {event : LoopEvent} {now : Nat}

theorem mem_iff (h : Lists registry map) {old : Registration} :
    old ∈ registry.entries ↔ (map old.descriptor).map (·.registration) = some old := by
  rw [← h.entry, Registry.lookup?_eq_some, and_iff_left rfl]

theorem isSome_of_mem (h : Lists registry map) {descriptor : Descriptor}
    (mem : descriptor ∈ registry.entries.map (·.descriptor)) : (map descriptor).isSome = true := by
  obtain ⟨old, listed, rfl⟩ := List.mem_map.mp mem
  have known := congrArg Option.isSome (h.mem_iff.mp listed)
  rwa [Option.isSome_map] at known

theorem mem_of_isSome (h : Lists registry map) {descriptor : Descriptor}
    (known : (map descriptor).isSome = true) : descriptor ∈ registry.entries.map (·.descriptor) := by
  rw [← Option.isSome_map, ← h.entry] at known
  obtain ⟨old, same⟩ := Option.isSome_iff_exists.mp known
  exact List.mem_map.mpr ⟨old, Registry.lookup?_eq_some.mp same⟩

/-- A map has one list. -/
theorem unique (h : Lists registry map) (h' : Lists other map) : registry = other := by
  obtain ⟨entries, distinct⟩ := registry
  obtain ⟨entries', distinct'⟩ := other
  have perm : entries.Perm entries' :=
    (List.perm_ext_iff_of_nodup (distinct.of_map _) (distinct'.of_map _)).mpr fun old =>
      h.mem_iff.trans h'.mem_iff.symm
  have same : entries = entries' := by
    refine perm.eq_of_pairwise (fun one two mem mem' before after => ?_)
      (List.pairwise_map.mp h.ordered) (List.pairwise_map.mp h'.ordered)
    -- Of two descriptors of the map, one came before the other, and not the other way round.
    obtain ⟨early, known⟩ := Option.isSome_iff_exists.mp (h.isSome_of_mem (List.mem_map_of_mem mem))
    obtain ⟨late, known'⟩ := Option.isSome_iff_exists.mp (h'.isSome_of_mem (List.mem_map_of_mem mem'))
    exact absurd (before early late known known') (Nat.not_lt_of_gt (after late early known' known))
  subst same
  rfl

theorem empty : Lists Registry.empty fun _ => none where
  entry _ := rfl
  ordered := .nil

theorem entry_replay (h : Lists registry map) (descriptor : Descriptor) :
    (registry.replay event).lookup? descriptor =
      (event.update descriptor now (map descriptor)).map (·.registration) := by
  have before := h.entry descriptor
  cases event with
  | created => rfl
  | registered fresh =>
    rw [Registry.replay, Registry.lookup?_insert, LoopEvent.update]
    split
    · rfl
    · exact before
  | removed gone =>
    rw [Registry.replay, Registry.lookup?_remove, LoopEvent.update]
    split
    · rfl
    · exact before
  | withdrawn gone id =>
    rw [Registry.replay, Registry.lookup?_remove, LoopEvent.update]
    split
    · rfl
    · exact before
  | retired gone id =>
    rw [Registry.replay, Registry.lookup?_retire, LoopEvent.update]
    split
    · rw [before, Option.filter_map]
      rfl
    · exact before
  | _ => exact before

/-- What stands for a descriptor after an event stood there before, or the descriptor is new. -/
theorem since_update {descriptor : Descriptor} {old : Option Stay} {stay : Stay}
    (h : event.update descriptor now old = some stay) :
    (∃ before, old = some before ∧ before.since = stay.since) ∨
      (old = none ∧ stay.since = now ∧ ∃ fresh, event = .registered fresh ∧
        fresh.descriptor = descriptor) := by
  cases event with
  | created => cases h
  | registered fresh =>
    rw [LoopEvent.update] at h
    split at h
    · next here =>
      cases h
      cases old with
      | none => exact .inr ⟨rfl, rfl, fresh, rfl, here⟩
      | some before => exact .inl ⟨before, rfl, rfl⟩
    · exact .inl ⟨stay, h, rfl⟩
  | removed gone =>
    rw [LoopEvent.update] at h
    split at h
    · cases h
    · exact .inl ⟨stay, h, rfl⟩
  | withdrawn gone id =>
    rw [LoopEvent.update] at h
    split at h
    · cases h
    · exact .inl ⟨stay, h, rfl⟩
  | retired gone id =>
    rw [LoopEvent.update] at h
    split at h
    · exact .inl ⟨stay, (Option.filter_eq_some_iff.mp h).1, rfl⟩
    · exact .inl ⟨stay, h, rfl⟩
  | _ => exact .inl ⟨stay, h, rfl⟩

theorem earlier_update {one two : Descriptor} (h : Earlier map one two)
    (known : (map one).isSome = true) (known' : (map two).isSome = true) :
    Earlier (fun descriptor => event.update descriptor now (map descriptor)) one two := by
  intro early late isEarly isLate
  obtain ⟨before, was, same⟩ | ⟨none, -⟩ := since_update isEarly
  · obtain ⟨before', was', same'⟩ | ⟨none, -⟩ := since_update isLate
    · rw [← same, ← same']
      exact h before before' was was'
    · rw [none] at known'
      cases known'
  · rw [none] at known
    cases known

theorem ordered_of_sublist (h : Lists registry map)
    (sub : (other.entries.map (·.descriptor)).Sublist (registry.entries.map (·.descriptor))) :
    (other.entries.map (·.descriptor)).Pairwise
      (Earlier fun descriptor => event.update descriptor now (map descriptor)) :=
  (h.ordered.sublist sub).imp_of_mem fun mem mem' before =>
    earlier_update before (h.isSome_of_mem (sub.subset mem)) (h.isSome_of_mem (sub.subset mem'))

theorem ordered_insert (h : Lists registry map) (fresh : Registration)
    (past : ∀ descriptor stay, map descriptor = some stay → stay.since < now) :
    ((registry.insert fresh).entries.map (·.descriptor)).Pairwise (Earlier fun descriptor =>
      (LoopEvent.registered fresh).update descriptor now (map descriptor)) := by
  cases known : registry.contains fresh.descriptor with
  | true =>
    have same : (registry.insert fresh).entries.map (·.descriptor) =
        registry.entries.map (·.descriptor) := by
      rw [Registry.insert, dif_pos known]
      exact Registry.descriptors_replaceIn fresh registry.entries
    exact h.ordered_of_sublist (same ▸ List.Sublist.refl _)
  | false =>
    have last : (registry.insert fresh).entries.map (·.descriptor) =
        registry.entries.map (·.descriptor) ++ [fresh.descriptor] := by
      rw [Registry.insert, dif_neg (by simp [known])]
      simp
    rw [last]
    refine List.pairwise_append.mpr ⟨h.ordered_of_sublist (.refl _), List.pairwise_singleton _ _, ?_⟩
    intro one mem two isLast early late isEarly isLate
    cases List.mem_singleton.mp isLast
    have absent : ¬ (map fresh.descriptor).isSome = true := fun there => by
      obtain ⟨old, mem, same⟩ := List.mem_map.mp (h.mem_of_isSome there)
      have there : registry.contains fresh.descriptor = true :=
        List.any_eq_true.mpr ⟨old, mem, by simpa using same⟩
      rw [known] at there
      cases there
    obtain ⟨before, was, -⟩ | ⟨-, now, -⟩ := since_update isLate
    · exact absurd (by rw [was]; rfl) absent
    · obtain ⟨before, was, same⟩ | ⟨none, -⟩ := since_update isEarly
      · rw [← same, now]
        exact past one before was
      · have there := h.isSome_of_mem mem
        rw [none] at there
        cases there

/-- An event changes the registrations as it changes the map. -/
theorem replay (h : Lists registry map) (event : LoopEvent)
    (past : ∀ descriptor stay, map descriptor = some stay → stay.since < now) :
    Lists (registry.replay event) fun descriptor => event.update descriptor now (map descriptor) where
  entry := h.entry_replay
  ordered := by
    cases event with
    | created => exact .nil
    | registered fresh => exact h.ordered_insert fresh past
    | removed gone => exact h.ordered_of_sublist (List.filter_sublist.map _)
    | withdrawn gone id => exact h.ordered_of_sublist (List.filter_sublist.map _)
    | retired gone id => exact h.ordered_of_sublist ((List.eraseP_sublist).map _)
    | _ => exact h.ordered_of_sublist (.refl _)

end Lists

namespace Registry

theorem others_replay (registry : Registry) {event : LoopEvent} {descriptor : Descriptor}
    (h : event.about? = some descriptor) :
    (registry.replay event).others descriptor = registry.others descriptor := by
  cases event with
  | registered fresh =>
    cases h
    exact others_insert
  | removed gone =>
    cases h
    exact others_remove
  | withdrawn gone id =>
    cases h
    exact others_remove
  | retired gone id =>
    cases h
    exact others_retire
  | _ => cases h

theorem contains_eq (registry : Registry) (descriptor : Descriptor) :
    registry.contains descriptor = (registry.lookup? descriptor).isSome := by
  rw [Bool.eq_iff_iff, contains, lookup?, List.any_eq_true, List.find?_isSome]

end Registry

namespace Machine

variable {ω : Type} {host : Host ω} {machine after : Machine ω} {loop : LoopId} {events : List Event}

theorem since_lt {descriptor : Descriptor} {stay : Stay} (h : stay? loop descriptor events = some stay) :
    stay.since < events.length := by
  induction events generalizing stay with
  | nil => cases h
  | cons event events ih =>
    have rest (h : stay? loop descriptor events = some stay) : stay.since < (event :: events).length :=
      Nat.lt_succ_of_lt (ih h)
    cases event with
    | loop other event =>
      rw [stay?] at h
      split at h
      · obtain ⟨before, was, same⟩ | ⟨-, now, -⟩ := Lists.since_update h
        · exact same ▸ Nat.lt_succ_of_lt (ih was)
        · exact now ▸ Nat.lt_succ_self _
      · exact rest h
    | _ => exact rest h

theorem stay?_outward {late : List Event} {descriptor : Descriptor}
    (outward : ∀ event ∈ late, event.isOutward = true) :
    stay? loop descriptor (late ++ events) = stay? loop descriptor events := by
  induction late with
  | nil => rfl
  | cons event late ih =>
    have rest := ih fun other mem => outward other (List.mem_cons_of_mem _ mem)
    cases event with
    | loop other event => cases outward _ (List.mem_cons_self ..)
    | _ => exact rest

/-- What a history leaves registered is listed by its map. -/
theorem lists_replayed (loop : LoopId) (events : List Event) :
    Lists (replayed loop events Registry.empty) (stay? loop · events) := by
  induction events with
  | nil => exact .empty
  | cons event events ih =>
    cases event with
    | loop other event =>
      by_cases here : other = loop
      · have listed := ih.replay event fun _ _ => since_lt
        simpa only [replayed, stay?, if_pos here] using listed
      · simpa only [replayed, stay?, if_neg here] using ih
    | _ => exact ih

def pollRecord (registration : Registration) : Watch :=
  (registration.descriptor,
    (if registration.interest.contains Interest.read then Interest.pollIn else 0) |||
      if registration.interest.contains Interest.write then Interest.pollOut else 0)

/-- The code of a callback finds the registrations of every loop as the events before it say, a poll call has
one record for each of them, in their order, and a change under one descriptor leaves all others alone. -/
def Listed (early : List Event) : Event → Prop
  | .callback _ _ _ found =>
    ∀ loop, loop < found.length → Lists (found.getD loop {}).registry (stay? loop · early)
  | .syscall (.poll records _) _ => ∃ loop registry, Lists registry (stay? loop · early) ∧
    registry.entries ≠ [] ∧ records = registry.entries.map pollRecord
  | .loop loop event => ∃ before after, Lists before (stay? loop · early) ∧
    Lists after (stay? loop · (.loop loop event :: early)) ∧
    (∀ descriptor, event.about? = some descriptor →
      after.others descriptor = before.others descriptor) ∧
    ∀ descriptor, event = .removed descriptor → stay? loop descriptor early = none → after = before
  | _ => True

theorem Tracked.lists (tracked : machine.Tracked) (known : loop < machine.loops.length) :
    Lists (machine.loopAt loop).registry (stay? loop · machine.journal) := by
  rw [tracked loop known]
  exact lists_replayed loop machine.journal

theorem listed_loop (loop : LoopId) (event : LoopEvent) (early : List Event) :
    Listed early (.loop loop event) := by
  have before := lists_replayed loop early
  have after := lists_replayed loop (.loop loop event :: early)
  refine ⟨_, _, before, after, fun descriptor about => ?_, ?_⟩
  · rw [replayed, if_pos rfl]
    exact Registry.others_replay _ about
  · rintro descriptor rfl absent
    have same : (stay? loop · (.loop loop (.removed descriptor) :: early)) = (stay? loop · early) := by
      funext other
      rw [stay?, if_pos rfl, LoopEvent.update]
      split
      · next here => rw [← here, absent]
      · rfl
    exact after.unique (same ▸ before)

theorem Change.listed {before : Machine ω} (h : Change events before after) (tracked : before.Tracked) :
    Along (fun early event => Listed (early ++ before.journal) event) events := by
  cases h with
  | quiet quiet =>
    refine along_of_forall fun event mem early => ?_
    have outward := quiet.outward event mem
    have unpolled := quiet.unpolled event mem
    unfold Listed
    split
    · cases outward
    · cases unpolled
    · cases outward
    · trivial
  | @poll _ loop found current nonempty timeout reply outside =>
    subst current
    obtain ⟨old, mem⟩ := List.exists_mem_of_ne_nil _ nonempty
    exact ⟨⟨loop, _, tracked.lists (lt_of_mem_entries mem), nonempty, rfl⟩, trivial⟩
  | tell => exact ⟨fun loop known => tracked.lists known, trivial⟩
  | retire =>
    refine along_of_forall fun event mem early => ?_
    rw [(mem_retirement.mp mem).2]
    exact listed_loop _ _ _
  | create => trivial
  | start => trivial
  | finish => trivial
  | setRunning => trivial
  | setSnapshots => trivial
  | _ => exact ⟨listed_loop _ _ _, trivial⟩

theorem Changes.listed {before : Machine ω} (h : Changes events before after) (tracked : before.Tracked)
    (early : Along Listed before.journal) : Along Listed after.journal := by
  induction h with
  | refl => exact early
  | step h change ih =>
    rw [change.journal]
    exact along_append.mpr ⟨change.listed (h.tracked tracked), ih tracked early⟩

structure Answers (host : Host ω) (machine : Machine ω) (loop : LoopId) : Prop where
  size : ∃ watched : Finset Descriptor,
    (∀ descriptor, descriptor ∈ watched ↔ (stay? loop descriptor machine.journal).isSome = true) ∧
    ∀ perform budget,
      askLoop host perform budget loop .size machine = some (.count watched.card, machine) ∧
      askLoop host perform budget loop .isEmpty machine =
        some (.flag (decide (watched = ∅)), machine)
  contains : ∀ perform budget descriptor,
    askLoop host perform budget loop (.contains descriptor) machine =
      some (.flag (stay? loop descriptor machine.journal).isSome, machine)
  interest : ∀ perform budget descriptor,
    askLoop host perform budget loop (.interest descriptor) machine = some
      (.mask ((stay? loop descriptor machine.journal).map (·.registration.interest)), machine)
  added : ∀ perform budget descriptor interest code once answer after,
    askLoop host perform budget loop (.add descriptor interest code once) machine =
        some (answer, after) →
      ∃ later, (∀ event ∈ later, event.isOutward = true) ∧ after.journal = later ++ .loop loop
        (.registered ⟨descriptor, interest, machine.callbacks.length, once⟩) :: machine.journal
  removed : ∀ perform budget descriptor answer after,
    askLoop host perform budget loop (.remove descriptor) machine = some (answer, after) →
      ∃ later, (∀ event ∈ later, event.isOutward = true) ∧
        after.journal = later ++ .loop loop (.removed descriptor) :: machine.journal

theorem Tracked.answers (host : Host ω) (tracked : machine.Tracked)
    (known : loop < machine.loops.length) : Answers host machine loop where
  size := by
    have listed := tracked.lists known
    refine ⟨((machine.loopAt loop).registry.entries.map (·.descriptor)).toFinset,
      fun descriptor => ?_, fun perform budget => ⟨?_, ?_⟩⟩
    · rw [List.mem_toFinset]
      exact ⟨listed.isSome_of_mem, listed.mem_of_isSome⟩
    · rw [List.toFinset_card_of_nodup (machine.loopAt loop).registry.distinct, List.length_map]
      rfl
    · have empty : (machine.loopAt loop).registry.isEmpty =
          decide (((machine.loopAt loop).registry.entries.map (·.descriptor)).toFinset = ∅) := by
        rw [Bool.eq_iff_iff, decide_eq_true_iff, List.toFinset_eq_empty_iff, List.map_eq_nil_iff]
        exact List.isEmpty_iff
      rw [← empty]
      rfl
  contains perform budget descriptor := by
    have answer := (machine.loopAt loop).registry.contains_eq descriptor
    rw [(tracked.lists known).entry, Option.isSome_map] at answer
    rw [← answer]
    rfl
  interest perform budget descriptor := by
    have answer : (machine.loopAt loop).registry.interest? descriptor =
        (stay? loop descriptor machine.journal).map (·.registration.interest) := by
      rw [Registry.interest?, (tracked.lists known).entry, Option.map_map]
      rfl
    rw [← answer]
    rfl
  added perform budget descriptor interest code once answer after h := by
    cases h
    obtain ⟨later, released⟩ := quietly_releaseOld host _ (machine.enrolled loop descriptor interest
      { operation := .watch, code, once })
    exact ⟨later, released.outward, released.journal⟩
  removed perform budget descriptor answer after h := by
    cases h
    obtain ⟨later, released⟩ := quietly_releaseOld host _
      (machine.updateRegistry loop (.removed descriptor) (·.remove descriptor))
    exact ⟨later, released.outward, released.journal⟩

def nestingHost : Host (Option Role) :=
  plainHost readableKernel fun code calls _ _ =>
    if code = 0 ∧ calls = 0 then
      .perform "cycle" (.loop (.request 0 (.runOnce none))) fun _ => .done
    else .done

def watchThree : List (Action (Option Role)) :=
  [.loop (.create 0 {}), .loop (.request 0 (.add 7 Interest.read 1 true)),
    .loop (.request 0 (.add 6 Interest.write 0 false)),
    .loop (.request 0 (.add 5 Interest.read 1 false)), .loop (.request 0 (.runOnce none))]

end Machine
end NetReactor
