import NetReactor.Proofs.Loop.Delivery
import NetReactor.Proofs.Loop.Nesting
/-!
A listener over its whole life. Each of its dispatches is one visit: at most one accept call, then the code with what
came of it, or nothing. The visits go on until the first failure; that is told once, after the registration is gone.
-/
namespace NetReactor

def Event.withdraws (loop : LoopId) (registration : Registration) : Event → Bool
  | .loop other (.withdrawn descriptor id) =>
    other == loop && (descriptor == registration.descriptor && id == registration.callback)
  | _ => false

namespace Machine

variable {ω : Type} {host : Host ω} {place : Place} {events late early stretch : List Event}
variable {before after machine middle last : Machine ω} {loop : LoopId} {registration : Registration}
variable {ready : Interest} {socket : SocketId} {code : CodeId} {isOpen : Bool} {event : Event}

abbrev Accepted := Outcome (SocketId × Address)

def fails : Option Accepted → Bool
  | some (.error _) => true
  | some (.ok _) | none => false

theorem withdraws_iff : event.withdraws loop registration = true ↔ event = withdrawal loop registration := by
  unfold Event.withdraws
  split
  · next other descriptor id => simp [withdrawal]
  · next other => simp only [Bool.false_eq_true, false_iff]; exact fun same => other _ _ _ same

theorem isOf_withdrawal : (withdrawal loop registration).isOf registration.callback = true :=
  beq_self_eq_true _

/-- An event that leaves a listener registered, unless it was gone before or goes by itself. -/
def leaves (loop : LoopId) (registration : Registration) (early : List Event) : Event → Bool
  | .loop other event => other != loop || !event.takesAway registration.descriptor ||
    (Event.loop other event).withdraws loop registration ||
    early.any (·.withdraws loop registration)
  | _ => true

structure Undisturbed (loop : LoopId) (registration : Registration) (events : List Event) : Prop where
  kept : Along (fun early event => leaves loop registration early event = true) events
  solo : Solo loop events

theorem Undisturbed.earlier (h : Undisturbed loop registration (late ++ early)) :
    Undisturbed loop registration early :=
  ⟨(along_append.mp h.kept).2, h.solo.earlier⟩

theorem Undisturbed.spares (h : Undisturbed loop registration events)
    (armed : withdrawal loop registration ∉ events) {event : LoopEvent} (mem : .loop loop event ∈ events) :
    event.takesAway registration.descriptor = false := by
  obtain ⟨late, early, rfl⟩ := List.append_of_mem mem
  have law := h.kept.at_split
  have absent : early.any (·.withdraws loop registration) = false :=
    List.any_eq_false.mpr fun other mem' withdraws =>
      armed (withdraws_iff.mp withdraws ▸ List.mem_append_right _ (List.mem_cons_of_mem _ mem'))
  have apart : (Event.loop loop event).withdraws loop registration = false :=
    Bool.eq_false_iff.mpr fun withdraws => armed (withdraws_iff.mp withdraws ▸ mem)
  simpa [leaves, absent, apart] using law

inductive Visit (machine : Machine ω) (loop : LoopId) (registration : Registration) (code : CodeId)
    (isOpen : Bool) : List Event → Option Accepted → Prop
  | silent {depth ready calls closed} (listens : Listens machine loop registration ready isOpen calls none)
    (closing : Closing closed) :
    Visit machine loop registration code isOpen
      (.loop loop (.finished depth registration.callback) :: (closed ++ (calls ++
        [.loop loop (.dispatched depth registration.callback registration.descriptor ready)]))) none
  | told {depth ready calls result found inner closed}
    (listens : Listens machine loop registration ready isOpen calls (some result))
    (aside : ∀ event ∈ inner, event.isOf registration.callback = false) (closing : Closing closed) :
    Visit machine loop registration code isOpen
      (.loop loop (.finished depth registration.callback) :: (closed ++ (inner ++
        (.callback registration.callback code (.accepted result) found :: (calls ++
          [.loop loop (.dispatched depth registration.callback registration.descriptor ready)])))))
      (some result)

/-- What happens since a listener was registered, the latest event first: visits, with whatever else there is between
them. No visit follows a failure. The answers are those of the visits, the latest first. -/
inductive Attends (machine : Machine ω) (loop : LoopId) (registration : Registration) (socket : SocketId)
    (code : CodeId) : List (Option Accepted) → List Event → Prop
  | start : Attends machine loop registration socket code [] []
  | aside {answers events event} (h : Attends machine loop registration socket code answers events)
    (other : event.isOf registration.callback = false) :
    Attends machine loop registration socket code answers (event :: events)
  | visit {answers events stretch answer isOpen}
    (h : Attends machine loop registration socket code answers events)
    (armed : ∀ earlier ∈ answers, fails earlier = false)
    (opened : isOpen = false → Shuts socket events)
    (visit : Visit machine loop registration code isOpen stretch answer) :
    Attends machine loop registration socket code (answer :: answers) (stretch ++ events)

theorem Closing.not_of {closed : List Event} (h : Closing closed) {id : CallbackId} (mem : event ∈ closed) :
    event.isOf id = false :=
  Event.isOf_outward (h.outward event mem)

variable {answer : Option Accepted} {answers : List (Option Accepted)} {calls : List Event}

/-- A listener makes calls, and it withdraws its registration exactly if it fails. -/
theorem Listens.only (h : Listens machine loop registration ready isOpen calls answer) :
    (∀ event ∈ calls, event.isOutward = true ∨ event = withdrawal loop registration) ∧
      (withdrawal loop registration ∈ calls ↔ fails answer = true) := by
  have apart {closed : List Event} (closing : Closing closed) : withdrawal loop registration ∉ closed :=
    fun mem => nomatch closing.outward _ mem
  cases h with
  | waiting => simp [withdrawal, fails, Event.isOutward]
  | connected _ _ _ _ _ closing =>
    refine ⟨fun event mem => ?_, ?_⟩
    · obtain closed | call := List.mem_append.mp mem
      · exact .inl (closing.outward event closed)
      · cases List.mem_singleton.mp call
        exact .inl rfl
    · simp only [List.mem_append, apart closing, false_or]
      simp [withdrawal, fails]
  | alarmed _ closing | shut _ _ closing | refused _ _ _ _ closing | unreadable _ _ _ _ closing =>
    refine ⟨fun event mem => ?_, by simp [fails]⟩
    obtain closed | rest := List.mem_append.mp mem
    · exact .inl (closing.outward event closed)
    · simp only [List.mem_cons, List.not_mem_nil, or_false] at rest
      rcases rest with rfl | rfl | rfl <;> first | exact .inr rfl | exact .inl rfl

/-- The code of a callback is started by its own events only. -/
theorem start?_eq_none {id : CallbackId} (h : event.isOf id = false) : start? [id] event = none := by
  cases event with
  | callback other code notice found =>
    have apart : other ≠ id := by simpa [Event.isOf] using h
    exact if_neg (by simpa using apart)
  | _ => rfl

theorem Listens.starts (h : Listens machine loop registration ready isOpen calls answer)
    (ids : List CallbackId) : starts ids calls = [] := by
  refine starts_eq_nil fun event mem => ?_
  obtain outward | rfl := h.only.1 event mem
  · cases event with
    | callback => cases outward
    | _ => rfl
  · rfl

/-- A failure is told after the registration was taken away. -/
theorem Listens.stay?_eq_none (h : Listens machine loop registration ready isOpen calls answer)
    (failed : fails answer = true) (early : List Event) :
    stay? loop registration.descriptor (calls ++ early) = none := by
  have gone {closed : List Event} (closing : Closing closed) (rest : List Event) :
      stay? loop registration.descriptor (closed ++ withdrawal loop registration :: rest) = none := by
    rw [stay?_outward closing.outward, withdrawal, stay?, if_pos rfl]
    exact if_pos rfl
  cases h with
  | waiting => cases failed
  | connected => cases failed
  | alarmed _ closing | shut _ _ closing | refused _ _ _ _ closing | unreadable _ _ _ _ closing =>
    rw [List.append_assoc]
    exact gone closing _

namespace Visit

/-- The events of a visit that are the listener's own. -/
theorem own (h : Visit machine loop registration code isOpen stretch answer) (mem : event ∈ stretch)
    (is : event.isOf registration.callback = true) :
    (∃ depth, event = .loop loop (.finished depth registration.callback)) ∨
    (∃ depth ready, event =
      .loop loop (.dispatched depth registration.callback registration.descriptor ready)) ∨
    (∃ result found, event = .callback registration.callback code (.accepted result) found ∧
      answer = some result) ∨
    (event = withdrawal loop registration ∧ fails answer = true) := by
  have apart {closed : List Event} (closing : Closing closed) : event ∉ closed := fun mem =>
    absurd is (by simp [closing.not_of mem])
  have called {calls : List Event} {answer : Option Accepted} {ready : Interest}
      (listens : Listens machine loop registration ready isOpen calls answer) (mem : event ∈ calls) :
      event = withdrawal loop registration ∧ fails answer = true := by
    obtain outward | rfl := listens.only.1 event mem
    · exact absurd is (by simp [Event.isOf_outward outward])
    · exact ⟨rfl, listens.only.2.mp mem⟩
  cases h with
  | silent listens closing =>
    simp only [List.mem_cons, List.mem_append, apart closing, List.not_mem_nil, or_false, false_or] at mem
    obtain rfl | mem | rfl := mem
    · exact .inl ⟨_, rfl⟩
    · exact .inr (.inr (.inr (called listens mem)))
    · exact .inr (.inl ⟨_, _, rfl⟩)
  | told listens aside closing =>
    simp only [List.mem_cons, List.mem_append, apart closing, List.not_mem_nil, or_false, false_or] at mem
    obtain rfl | inside | rfl | mem | rfl := mem
    · exact .inl ⟨_, rfl⟩
    · exact absurd is (by simp [aside event inside])
    · exact .inr (.inr (.inl ⟨_, _, rfl, rfl⟩))
    · exact .inr (.inr (.inr (called listens mem)))
    · exact .inr (.inl ⟨_, _, rfl⟩)

theorem withdrawal_mem (h : Visit machine loop registration code isOpen stretch answer) :
    withdrawal loop registration ∈ stretch ↔ fails answer = true := by
  constructor
  · intro mem
    obtain ⟨_, same⟩ | ⟨_, _, same⟩ | ⟨_, _, same, -⟩ | ⟨-, failed⟩ := h.own mem isOf_withdrawal
    · cases same
    · cases same
    · cases same
    · exact failed
  · intro failed
    cases h with
    | silent => cases failed
    | told listens => simp [listens.only.2.mpr failed]

theorem not_retired (h : Visit machine loop registration code isOpen stretch answer) (other : LoopId)
    (descriptor : Descriptor) : .loop other (.retired descriptor registration.callback) ∉ stretch := by
  intro mem
  obtain ⟨_, same⟩ | ⟨_, _, same⟩ | ⟨_, _, same, -⟩ | ⟨same, -⟩ := h.own mem (beq_self_eq_true _)
  · cases same
  · cases same
  · cases same
  · cases same

/-- Where a visit starts the code: after the calls, and before all else. -/
theorem told_at {number : CodeId} {notice : Notice} {found : List EventLoop}
    (h : Visit machine loop registration code isOpen stretch answer)
    (split : stretch = late ++ .callback registration.callback number notice found :: early) :
    ∃ result calls depth ready, number = code ∧ notice = .accepted result ∧ answer = some result ∧
      early = calls ++ [.loop loop (.dispatched depth registration.callback registration.descriptor ready)] ∧
      Listens machine loop registration ready isOpen calls answer ∧
      ∀ event ∈ late, event.isOf registration.callback = true →
        event = .loop loop (.finished depth registration.callback) := by
  have is : Event.isOf registration.callback (.callback registration.callback number notice found) = true :=
    beq_self_eq_true _
  have apart {some first rest : List Event}
      (others : ∀ event ∈ some, event.isOf registration.callback = false)
      (split : some = first ++ .callback registration.callback number notice found :: rest) : False := by
    have other := others _ (split ▸ List.mem_append_right first (List.mem_cons_self ..))
    rw [is] at other
    cases other
  have mem : .callback registration.callback number notice found ∈ stretch := by simp [split]
  obtain ⟨_, same⟩ | ⟨_, _, same⟩ | ⟨result, found', same, rfl⟩ | ⟨same, -⟩ := h.own mem is
  · cases same
  · cases same
  · cases same
    cases h with
    | @told depth ready calls _ found' inner closed listens aside closing =>
      obtain ⟨rest, rfl, tail⟩ := cons_split (by simp) split
      obtain ⟨_, inside, -⟩ | ⟨first, body, rfl⟩ := split_append tail
      · exact (apart (fun _ mem => closing.not_of mem) inside).elim
      · obtain ⟨_, inside, -⟩ | ⟨before, same, rfl⟩ := split_append body
        · exact (apart aside inside).elim
        · cases before with
          | nil =>
            cases same
            refine ⟨result, calls, depth, ready, rfl, rfl, rfl, rfl, listens, fun event mem is => ?_⟩
            simp only [List.mem_cons, List.mem_append, List.append_nil] at mem
            obtain rfl | mem | mem := mem
            · rfl
            · simp [closing.not_of mem] at is
            · simp [aside event mem] at is
          | cons =>
            obtain ⟨_, inside, -⟩ | ⟨_, inside, -⟩ := split_append (List.cons.inj same).2
            · obtain outward | same := listens.only.1 _ (inside ▸ List.mem_append_right _ (List.mem_cons_self ..))
              · cases outward
              · cases same
            · obtain ⟨-, same⟩ | ⟨-, same⟩ := List.singleton_eq_append_iff.mp inside
              · cases same
              · cases same
  · cases same

/-- What a visit tells is its answer. -/
theorem starts (h : Visit machine loop registration code isOpen stretch answer) :
    starts [registration.callback] stretch =
      (answer.map fun result => (registration.callback, Notice.accepted result)).toList := by
  cases h with
  | silent listens closing =>
    rw [starts_cons, starts_append, starts_append, listens.starts, starts_outward closing.outward]
    rfl
  | told listens aside closing =>
    rw [starts_cons, starts_append, starts_append, starts_cons, starts_append, listens.starts,
      starts_outward closing.outward, starts_eq_nil fun event mem => start?_eq_none (aside event mem)]
    simp [Machine.starts, start?]

end Visit

namespace Attends

theorem asides (h : Attends machine loop registration socket code answers early)
    (others : ∀ event ∈ late, event.isOf registration.callback = false) :
    Attends machine loop registration socket code answers (late ++ early) := by
  induction late with
  | nil => exact h
  | cons event late ih =>
    exact (ih fun other mem => others other (List.mem_cons_of_mem _ mem)).aside
      (others event (List.mem_cons_self ..))

/-- The registration was taken away by the listener exactly if an answer was a failure. -/
theorem withdrawal_mem (h : Attends machine loop registration socket code answers events) :
    withdrawal loop registration ∈ events ↔ ∃ answer ∈ answers, fails answer = true := by
  induction h with
  | start => simp
  | @aside _ _ event _ other ih =>
    have apart : withdrawal loop registration ≠ event := by
      rintro rfl
      rw [isOf_withdrawal] at other
      cases other
    rw [List.mem_cons, ih, or_iff_right apart]
  | visit _ _ _ visit ih => rw [List.mem_append, visit.withdrawal_mem, ih, List.exists_mem_cons_iff]

theorem not_retired (h : Attends machine loop registration socket code answers events) (other : LoopId)
    (descriptor : Descriptor) : .loop other (.retired descriptor registration.callback) ∉ events := by
  induction h with
  | start => simp
  | aside _ apart ih =>
    intro mem
    obtain rfl | early := List.mem_cons.mp mem
    · simp [Event.isOf] at apart
    · exact ih early
  | visit _ _ _ visit ih => simp [visit.not_retired, ih]

/-- Only the last answer can be a failure. -/
theorem failure_last (h : Attends machine loop registration socket code answers events) :
    ∀ answer ∈ answers.tail, fails answer = false := by
  induction h with
  | start => simp
  | aside _ _ ih => exact ih
  | visit _ armed => exact armed

/-- What is told is what the visits had to tell, in their order. -/
theorem starts (h : Attends machine loop registration socket code answers events) :
    starts [registration.callback] events =
      (answers.reverse.filterMap id).map fun result => (registration.callback, Notice.accepted result) := by
  induction h with
  | start => rfl
  | aside _ other ih =>
    rw [starts_cons, ih, start?_eq_none other]
    exact List.append_nil _
  | @visit answers events stretch answer isOpen _ _ _ visit ih =>
    rw [starts_append, ih, visit.starts]
    cases answer <;> simp

/-- The code of a listener starts in a visit only, with the answer. While that is told, the registration is there or
gone as it should be, and after a failure nothing of the listener follows but the end of the visit. -/
theorem told_at {number : CodeId} {notice : Notice} {found : List EventLoop}
    (h : Attends machine loop registration socket code answers events)
    (split : events = late ++ .callback registration.callback number notice found :: early) :
    ∃ result, number = code ∧ notice = .accepted result ∧ some result ∈ answers ∧
      (fails (some result) = false → withdrawal loop registration ∉ early) ∧
      (fails (some result) = true → (∀ rest, stay? loop registration.descriptor (early ++ rest) = none) ∧
        ∀ event ∈ late, event.isOf registration.callback = true →
          ∃ depth, event = .loop loop (.finished depth registration.callback)) := by
  have own : Event.isOf registration.callback (.callback registration.callback number notice found) = true :=
    beq_self_eq_true _
  induction h generalizing late with
  | start => simp at split
  | @aside answers events event _ other ih =>
    have apart : .callback registration.callback number notice found ≠ event := by
      rintro rfl
      rw [own] at other
      cases other
    obtain ⟨inner, rfl, split⟩ := cons_split apart split
    obtain ⟨result, same, is, mem, kept, gone⟩ := ih (List.cons.inj split).2
    refine ⟨result, same, is, mem, kept, fun failed => ⟨(gone failed).1, fun later here is => ?_⟩⟩
    obtain rfl | here := List.mem_cons.mp here
    · rw [other] at is
      cases is
    · exact (gone failed).2 later here is
  | @visit answers events stretch answer isOpen h armed _ visit ih =>
    obtain ⟨rest, inside, rfl⟩ | ⟨rest, split', rfl⟩ := split_append split
    · obtain ⟨result, calls, depth, ready, same, is, rfl, rfl, listens, ended⟩ := visit.told_at inside
      refine ⟨result, same, is, List.mem_cons_self .., fun calm mem => ?_, fun failed => ⟨fun rest => ?_,
        fun event mem is => ⟨depth, ended event mem is⟩⟩⟩
      · simp only [List.mem_append, listens.only.2, calm, h.withdrawal_mem] at mem
        obtain (failed | own) | ⟨earlier, before, failed⟩ := mem
        · cases failed
        · simp [withdrawal] at own
        · rw [armed earlier before] at failed
          cases failed
      · rw [List.append_assoc, List.append_assoc]
        exact listens.stay?_eq_none failed _
    · obtain ⟨result, same, is, mem, kept, gone⟩ := ih split'
      refine ⟨result, same, is, List.mem_cons_of_mem _ mem, kept, fun failed => ?_⟩
      rw [armed _ mem] at failed
      cases failed

end Attends

theorem Undisturbed.stay?_eq (h : Undisturbed loop registration late)
    (armed : withdrawal loop registration ∉ late)
    (unretired : .loop loop (.retired registration.descriptor registration.callback) ∉ late)
    (early : List Event) :
    stay? loop registration.descriptor (late ++ .loop loop (.registered registration) :: early) =
      stay? loop registration.descriptor (.loop loop (.registered registration) :: early) := by
  obtain ⟨stay, stands, rfl⟩ : ∃ stay, stay? loop registration.descriptor
      (.loop loop (.registered registration) :: early) = some stay ∧ stay.registration = registration := by
    rw [stay?, if_pos rfl, LoopEvent.update, if_pos rfl]
    exact ⟨_, rfl, rfl⟩
  rw [stands]
  exact stay?_kept stands (fun event mem => h.spares armed mem) unretired

end Machine
end NetReactor
