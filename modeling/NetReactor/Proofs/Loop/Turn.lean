import NetReactor.Proofs.Loop.Snapshot
import NetReactor.Proofs.Loop.Withdrawal
/-!
A cycle around the dispatch of one registration. What came before and after it was for other callbacks and
other descriptors, so what the cycle does under this descriptor it does in that one dispatch.
-/
namespace NetReactor.Machine

variable {ω : Type} {host : Host ω} {machine first middle fired last after : Machine ω}
variable {loop : LoopId} {old : Registration} {ready : Interest} {timeout : Option Duration}
variable {count : Nat} {events early body late released : List Event}

theorem Walk.split {entry : PollEntry} {before rest : List (PollEntry × Registration)}
    (h : Walk host loop (before ++ (entry, old) :: rest) count events first last) :
    ∃ some others ran early own late middle fired,
      Walk host loop before some early first middle ∧
      Dispatch host loop entry old ran own middle fired ∧
      Walk host loop rest others late fired last ∧ events = late ++ (own ++ early) := by
  induction before generalizing count events first with
  | nil =>
    cases h with
    | cons own others => exact ⟨0, _, _, [], _, _, first, _, .nil first, own, others, by simp⟩
  | cons pair before ih =>
    cases h with
    | cons here others =>
      obtain ⟨some, more, ran, early, own, late, middle, fired, walk, dispatch, walk', rfl⟩ := ih others
      exact ⟨_, more, ran, _, own, late, middle, fired, .cons here walk, dispatch, walk', by simp⟩

def Elsewhere (host : Host ω) (loop : LoopId) (old : Registration) (events : List Event)
    (first last : Machine ω) : Prop :=
  ∃ found, (∀ other ∈ found, other.callback ≠ old.callback ∧ other.descriptor ≠ old.descriptor) ∧
    Trace host (.cycle loop found) events first last

namespace Elsewhere

variable (h : Elsewhere host loop old events first last)
include h

theorem changes : Changes events first last := h.choose_spec.2.changes

theorem snapshots : last.snapshots = first.snapshots := h.choose_spec.2.snapshots

theorem not_dispatched (found : first.Found loop old) (calm : Calm loop first.snapshots.length events) :
    ¬ Dispatched events old.callback := by
  obtain ⟨listed, others, trace⟩ := h
  refine not_dispatched_inside trace found calm fun _ many cycle other mem => ?_
  cases cycle
  exact (others other mem).1

theorem not_toldFailure (found : first.Found loop old)
    (calm : Calm loop first.snapshots.length events) : ¬ ToldFailure events old.callback := by
  obtain ⟨listed, others, trace⟩ := h
  rintro ⟨code, failure, loops, mem⟩
  refine not_started_inside trace found calm (fun _ many cycle other mem => ?_)
    (Place.not_handles rfl) code _ loops mem
  cases cycle
  exact (others other mem).1

/-- What is withdrawn was dispatched, so it stands for another descriptor. -/
theorem withdrawn_ne (calm : Calm loop first.snapshots.length events) {descriptor : Descriptor}
    {id : CallbackId} (mem : .loop loop (.withdrawn descriptor id) ∈ events) :
    descriptor ≠ old.descriptor := by
  obtain ⟨listed, others, trace⟩ := h
  obtain ⟨depth, ready, dispatched⟩ | ⟨_, handled, _⟩ := trace.withdrawn mem
  · obtain ⟨deeper, -⟩ | ⟨_, cycle, -, other, mem', -, rfl⟩ := trace.dispatched dispatched
    · exact absurd (calm.depth_eq dispatched) (Nat.ne_of_gt deeper)
    · cases cycle
      exact (others other mem').2
  · cases handled

end Elsewhere

structure Turn (host : Host ω) (loop : LoopId) (old : Registration) (ready : Interest)
    (first middle fired last : Machine ω) (early body late events : List Event) : Prop where
  before : Elsewhere host loop old early first middle
  reaction : Trace host (.reaction loop old ready) body (middle.announced loop old ready) fired
  after : Elsewhere host loop old late
    (fired.note (.loop loop (.finished first.snapshots.length old.callback))) last
  split : events = (late ++ .loop loop (.finished first.snapshots.length old.callback) :: body) ++
    .loop loop (.dispatched first.snapshots.length old.callback old.descriptor ready) ::
      (retirement loop old ++ early)

namespace Turn

variable (turn : Turn host loop old ready first middle fired last early body late events)
include turn

theorem body_subset : body ⊆ events := by
  rw [turn.split]
  intro event mem
  simp [mem]

theorem early_subset : early ⊆ events := by
  rw [turn.split]
  intro event mem
  simp [mem]

theorem late_subset : late ⊆ events := by
  rw [turn.split]
  intro event mem
  simp [mem]

theorem depths : (middle.announced loop old ready).snapshots = first.snapshots ∧
    (fired.note (.loop loop (.finished first.snapshots.length old.callback))).snapshots =
      first.snapshots := by
  have begun : (middle.announced loop old ready).snapshots = first.snapshots :=
    (snapshots_announced _ _ _ _).trans turn.before.snapshots
  exact ⟨begun, turn.reaction.snapshots.trans begun⟩

theorem found (h : first.Found loop old) : (middle.announced loop old ready).Found loop old ∧
    (fired.note (.loop loop (.finished first.snapshots.length old.callback))).Found loop old := by
  have begun := (h.changes turn.before.changes).changes (changes_announced middle loop old ready)
  exact ⟨begun, (begun.changes turn.reaction.changes).changes (Change.finished fired loop _ _).once⟩

theorem calm (h : Calm loop first.snapshots.length events) :
    Calm loop first.snapshots.length early ∧
      Calm loop (middle.announced loop old ready).snapshots.length body ∧
      Calm loop (fired.note (.loop loop (.finished first.snapshots.length
        old.callback))).snapshots.length late := by
  rw [turn.depths.1, turn.depths.2]
  exact ⟨h.mono turn.early_subset, h.mono turn.body_subset, h.mono turn.late_subset⟩

/-- The registration is dispatched once, with its descriptor and the mask reported for it. -/
theorem once (found : first.Found loop old) (calm : Calm loop first.snapshots.length events) :
    (dispatches loop first.snapshots.length events).filter (fun run => run.1 == old.callback) =
      [(old.callback, old.descriptor, ready)] := by
  obtain ⟨calmEarly, calmBody, calmLate⟩ := turn.calm calm
  have elsewhere {part : List Event} (h : ¬ Dispatched part old.callback) :
      (dispatches loop first.snapshots.length part).filter (fun run => run.1 == old.callback) = [] := by
    refine List.filter_eq_nil_iff.mpr fun run mem same => h ?_
    obtain ⟨event, mem', is⟩ := List.mem_filterMap.mp mem
    unfold dispatch? at is
    split at is
    · split at is
      · next inside _ =>
        cases is
        simp only [beq_iff_eq] at same
        subst same
        exact ⟨_, _, _, _, List.mem_reverse.mp mem'⟩
      · cases is
    · cases is
  have quiet := elsewhere (turn.before.not_dispatched found calmEarly)
  have quiet' := elsewhere (turn.after.not_dispatched (turn.found found).2 calmLate)
  have inner : dispatches loop first.snapshots.length body = [] :=
    turn.depths.1 ▸ dispatches_reaction turn.reaction loop
  rw [turn.split, dispatches_append, dispatches_append, dispatches_cons, dispatches_cons,
    dispatches_append, dispatches_retirement, inner]
  simp [quiet, quiet', dispatch?]

/-- Under the descriptor of the registration, only its own failure to accept withdraws something. -/
theorem withdrawn (found : first.Found loop old) (calm : Calm loop first.snapshots.length events)
    {descriptor : Descriptor} {id : CallbackId}
    (mem : .loop loop (.withdrawn descriptor id) ∈ events) :
    descriptor ≠ old.descriptor ∨ ToldFailure events old.callback := by
  obtain ⟨calmEarly, calmBody, calmLate⟩ := turn.calm calm
  have parts := mem
  rw [turn.split] at parts
  simp only [List.mem_append, List.mem_cons, mem_retirement, Event.loop.injEq, reduceCtorEq, and_false,
    false_or] at parts
  obtain (late | body) | early := parts
  · exact .inl (turn.after.withdrawn_ne calmLate late)
  · obtain ⟨code, failure, loops, told⟩ :=
      (reaction_withdraws turn.reaction (turn.found found).1 calmBody).mp ⟨descriptor, id, body⟩
    exact .inr ⟨code, failure, loops, turn.body_subset told⟩
  · exact .inl (turn.before.withdrawn_ne calmEarly early)

/-- That failure is told during the dispatch, and the withdrawal is part of the dispatch. -/
theorem withdraws (found : first.Found loop old) (calm : Calm loop first.snapshots.length events)
    (told : ToldFailure events old.callback) :
    ToldFailure body old.callback ∧ .loop loop (.withdrawn old.descriptor old.callback) ∈ body := by
  obtain ⟨calmEarly, calmBody, calmLate⟩ := turn.calm calm
  obtain ⟨code, failure, loops, mem⟩ := told
  have inside : ToldFailure body old.callback := by
    rw [turn.split] at mem
    simp only [List.mem_append, List.mem_cons, mem_retirement, reduceCtorEq, and_false, false_or] at mem
    obtain (late | body) | early := mem
    · exact absurd ⟨code, failure, loops, late⟩
        (turn.after.not_toldFailure (turn.found found).2 calmLate)
    · exact ⟨code, failure, loops, body⟩
    · exact absurd ⟨code, failure, loops, early⟩ (turn.before.not_toldFailure found calmEarly)
  obtain ⟨descriptor, id, withdrawn⟩ :=
    (reaction_withdraws turn.reaction (turn.found found).1 calmBody).mpr inside
  refine ⟨inside, ?_⟩
  obtain ⟨depth, ready, dispatched⟩ | ⟨_, handled, rfl, rfl⟩ := turn.reaction.withdrawn withdrawn
  · obtain ⟨deeper, -⟩ | ⟨_, cycle, _⟩ := turn.reaction.dispatched dispatched
    · exact absurd (calmBody.depth_eq dispatched) (Nat.ne_of_gt deeper)
    · cases cycle
  · cases handled
    exact withdrawn

end Turn

theorem ne_of_nodup_map {α β : Type} {f : α → β} {some rest : List α} {here : α}
    (h : ((some ++ here :: rest).map f).Nodup) : ∀ other ∈ some ++ rest, f other ≠ f here := by
  rw [List.map_append, List.map_cons, List.nodup_middle, List.nodup_cons, ← List.map_append] at h
  exact fun other mem same => h.1 (List.mem_map.mpr ⟨other, mem, same⟩)

namespace CycleParts

variable {inside : Machine ω}
variable (parts : CycleParts host loop timeout machine count after events released inside)
include parts

/-- A whole cycle, from the poll call to the release of what was found. -/
theorem whole : Trace host (.cycle loop (machine.entries loop)) (after.since machine)
    (machine.cycling loop) { after with snapshots := inside.snapshots } := by
  rw [parts.since]
  exact (Trace.seq (trace_polled parts.nonempty timeout _) parts.trace).seq (.quiet parts.release)

theorem changes : Changes (after.since machine) machine after := by
  have ran := ((changes_cycling machine loop).trans parts.whole.changes).step
    (.setSnapshots _ after.snapshots)
  simpa using ran

theorem turn (coherent : machine.Coherent)
    (listed : (old, ready) ∈ readyOf (machine.entries loop) (pollReply host machine loop timeout))
    (idle : old.callback ∉ machine.executing) : ∃ middle fired early body late,
      Turn host loop old ready (machine.cycling loop) middle fired
        { after with snapshots := inside.snapshots } early body late (after.since machine) := by
  rw [← map_reportedTo] at listed
  obtain ⟨⟨entry, old⟩, mem, same⟩ := List.mem_map.mp listed
  cases same
  obtain ⟨mem, isReady⟩ := List.mem_filter.mp mem
  obtain ⟨some, rest, split⟩ := List.append_of_mem mem
  have all : machine.entries loop = some.map (·.2) ++ old :: rest.map (·.2) := by
    rw [← map_snd_reportedTo (machine.entries loop) (pollReply host machine loop timeout), split]
    simp
  have others : ∀ other ∈ some.map (·.2) ++ rest.map (·.2),
      other.callback ≠ old.callback ∧ other.descriptor ≠ old.descriptor := by
    have callbacks := coherent.nodup_callbacks loop
    have descriptors : ((machine.entries loop).map (·.descriptor)).Nodup :=
      (machine.loopAt loop).registry.distinct
    rw [all] at callbacks descriptors
    exact fun other mem => ⟨ne_of_nodup_map callbacks other mem, ne_of_nodup_map descriptors other mem⟩
  have walk := parts.walk
  rw [split] at walk
  obtain ⟨_, _, ran, pre, own, post, middle, fired, before, dispatch, rest', same⟩ := walk.split
  have traceBefore : Trace host (.cycle loop (some.map (·.2))) pre (machine.polled host loop timeout)
      middle := before.trace fun pair mem => List.mem_map_of_mem mem
  have traceAfter : Trace host (.cycle loop (rest.map (·.2))) post fired inside :=
    rest'.trace fun pair mem => List.mem_map_of_mem mem
  have early := Trace.seq (trace_polled parts.nonempty timeout _) traceBefore
  have deep : middle.snapshots.length = (machine.cycling loop).snapshots.length := by
    rw [early.snapshots]
  cases dispatch with
  | unready quiet =>
    rw [isReady] at quiet
    cases quiet
  | busy _ executing =>
    rw [early.executing] at executing
    exact absurd executing idle
  | @ran _ fired body _ _ reaction =>
    rw [deep] at same traceAfter
    exact ⟨middle, fired, _, body, _,
      { before := ⟨_, fun other mem => others other (List.mem_append_left _ mem), early⟩
        reaction := reaction
        after := ⟨_, fun other mem => others other (List.mem_append_right _ mem),
          traceAfter.seq (.quiet parts.release)⟩
        split := by rw [parts.since, same]; simp }⟩

end CycleParts

end NetReactor.Machine
