import NetReactor.Proofs.Machine.Coherence
import NetReactor.Proofs.Machine.Trace
/-!
What the journal of a stretch says about its event loops: where registrations come from, what was
dispatched and at which depth, and why a callback's code was started or a registration withdrawn. All of it
is read off traces, for every program.
-/
namespace NetReactor.Machine

variable {ω : Type} {host : Host ω} {place : Place} {events : List Event} {before after : Machine ω}
variable {early late : List Event} {first middle last machine : Machine ω}
variable {loop other : LoopId} {registration old : Registration} {id : CallbackId}
variable {descriptor : Descriptor} {depth : Nat} {ready : Interest}

def Knows (machine : Machine ω) (events : List Event) (loop : LoopId)
    (registration : Registration) : Prop :=
  registration ∈ machine.entries loop ∨ Event.loop loop (.registered registration) ∈ events

def Dispatched (events : List Event) (id : CallbackId) : Prop :=
  ∃ loop depth descriptor ready, Event.loop loop (.dispatched depth id descriptor ready) ∈ events

structure Made (before after : Machine ω) (events : List Event) (id : CallbackId) : Prop where
  lower : before.callbacks.length ≤ id
  upper : id < after.callbacks.length
  unregistered : ∀ loop registration, .loop loop (.registered registration) ∈ events →
    registration.callback ≠ id

def Place.handles (place : Place) (id : CallbackId) : Prop :=
  ∃ loop registration, place.handled? = some (loop, registration) ∧ registration.callback = id

theorem Knows.mono {few many : List Event} (h : machine.Knows few loop registration)
    (hs : few ⊆ many) : machine.Knows many loop registration :=
  h.imp id fun mem => hs mem

theorem Knows.since (h : middle.Knows late loop registration) (changes : Changes early first middle) :
    first.Knows (late ++ early) loop registration := by
  cases h with
  | inl mem =>
    exact (changes.entries mem).imp id fun early => List.mem_append_right _ early
  | inr fresh => exact .inr (List.mem_append_left _ fresh)

theorem Dispatched.mono {few many : List Event} (h : Dispatched few id) (hs : few ⊆ many) :
    Dispatched many id := by
  obtain ⟨loop, depth, descriptor, ready, mem⟩ := h
  exact ⟨loop, depth, descriptor, ready, hs mem⟩

theorem Dispatched.within (h : Dispatched events id) (early late : List Event) :
    Dispatched (late ++ (events ++ early)) id :=
  h.mono (List.subset_append_of_subset_right _ (List.subset_append_left _ _))

theorem Made.since (h : Made middle last late id) (changes : Changes early first middle) :
    Made first last (late ++ early) id where
  lower := Nat.le_trans changes.grows.callbacks h.lower
  upper := h.upper
  unregistered loop registration mem := by
    cases List.mem_append.mp mem with
    | inl late => exact h.unregistered loop registration late
    | inr early =>
      exact Nat.ne_of_lt (Nat.lt_of_lt_of_le (changes.registered early).2 h.lower)

theorem Made.until (h : Made first middle early id) (changes : Changes late middle last) :
    Made first last (late ++ early) id where
  lower := h.lower
  upper := Nat.lt_of_lt_of_le h.upper changes.grows.callbacks
  unregistered loop registration mem := by
    cases List.mem_append.mp mem with
    | inl late =>
      exact Nat.ne_of_gt (Nat.lt_of_lt_of_le h.upper (changes.registered late).1)
    | inr early => exact h.unregistered loop registration early

def Begun (before after : Machine ω) (events : List Event) (id : CallbackId) : Prop :=
  Dispatched events id ∨ Made before after events id

/-- What began between two stretches began in all of them together. -/
theorem Begun.within (h : Begun before after events id) (pre : Changes early first before)
    (post : Changes late after last) : Begun first last (late ++ (events ++ early)) id :=
  h.imp (fun dispatched => dispatched.within early late) fun made => (made.since pre).until post

theorem Place.not_handles (h : place.handled? = none) : ¬ place.handles id := by
  rintro ⟨loop, registration, handled, -⟩
  rw [h] at handled
  cases handled

namespace Trace

theorem executing (h : Trace host place events before after) :
    after.executing = before.executing := by
  induction h with
  | quiet h => exact h.executing
  | seq _ _ ih ih' => exact ih'.trans ih
  | atOnce _ _ ih => exact ih
  | run _ ih => exact ih
  | cycle _ ih => exact ih
  | dispatch _ _ _ ih => exact ih.trans (executing_announced _ _ _ _)
  | skip => exact executing_retiring _ _ _
  | overlooked _ _ _ _ _ release ih =>
    rw [release.executing, Machine.ended, ih]
    exact List.erase_cons_head _ _
  | told _ _ _ _ _ _ release ih ih' =>
    rw [release.executing, Machine.ended, ih',
      show (Machine.told _ _ _ _).executing = _ from ih]
    exact List.erase_cons_head _ _
  | _ => rfl

theorem snapshots (h : Trace host place events before after) :
    after.snapshots = before.snapshots := by
  induction h with
  | quiet h => exact h.snapshots
  | seq _ _ ih ih' => exact ih'.trans ih
  | atOnce _ _ ih => exact ih
  | run _ ih => exact ih
  | dispatch _ _ _ ih => exact ih.trans (snapshots_announced _ _ _ _)
  | skip => exact snapshots_retiring _ _ _
  | overlooked _ _ _ _ _ release ih => exact release.snapshots.trans ih
  | told _ _ _ _ _ _ release ih ih' => exact release.snapshots.trans (ih'.trans ih)
  | _ => rfl

/-- A loop dispatches what is registered with it. A cycle at the depth of the stretch is the one that the
stretch belongs to. -/
theorem dispatched (h : Trace host place events before after)
    (mem : .loop loop (.dispatched depth id descriptor ready) ∈ events) :
    (before.snapshots.length < depth ∧ ∃ registration, before.Knows events loop registration ∧
        registration.callback = id ∧ registration.descriptor = descriptor) ∨
      ∃ found, place = .cycle loop found ∧ depth = before.snapshots.length ∧
        ∃ registration ∈ found, registration.callback = id ∧ registration.descriptor = descriptor := by
  induction h with
  | quiet h => exact absurd mem (h.no_loop _)
  | seq h h' ih ih' =>
    cases List.mem_append.mp mem with
    | inl late =>
      have which := ih' late
      rw [h.snapshots] at which
      refine which.imp ?_ fun here => here
      rintro ⟨deeper, registration, known, is⟩
      exact ⟨deeper, registration, known.since h.changes, is⟩
    | inr early =>
      refine (ih early).imp ?_ fun here => here
      rintro ⟨deeper, registration, known, is⟩
      exact ⟨deeper, registration, known.mono (List.subset_append_right _ _), is⟩
  | atOnce _ _ ih =>
    obtain ⟨deeper, registration, known, is⟩ | ⟨_, place, _⟩ := ih (by simpa using mem)
    · exact .inl ⟨deeper, registration, known.mono (List.subset_append_left _ _), is⟩
    · cases place
  | run _ ih =>
    obtain ⟨deeper, registration, known, is⟩ | ⟨_, place, _⟩ := ih mem
    · rw [Knows, entries_setRunning] at known
      exact .inl ⟨deeper, registration, known, is⟩
    · cases place
  -- Seen from outside, a cycle is one deeper, and what it found was registered when it began.
  | cycle _ ih =>
    obtain ⟨deeper, registration, known, is⟩ | ⟨found, place, here, registration, mem', is⟩ := ih mem
    · rw [Knows, entries_cycling] at known
      exact .inl ⟨Nat.lt_of_succ_lt deeper, registration, known, is⟩
    · cases place
      exact .inl ⟨here ▸ Nat.lt_succ_self _, registration, .inl mem', is⟩
  | @dispatch machine after other found registration now events member _ _ ih =>
    by_cases own : Event.loop loop (.dispatched depth id descriptor ready) =
        .loop other (.dispatched machine.snapshots.length registration.callback
          registration.descriptor now)
    · cases own
      exact .inr ⟨found, rfl, rfl, registration, member, rfl, rfl⟩
    · have inside : .loop loop (.dispatched depth id descriptor ready) ∈ events := by
        simp only [List.mem_cons, List.mem_append, own, mem_retirement] at mem
        simpa using mem
      obtain ⟨deeper, known, knows, is⟩ | ⟨_, place, _⟩ := ih inside
      · have since := knows.since (changes_announced machine other registration now)
        rw [snapshots_announced] at deeper
        exact .inl ⟨deeper, known, since.mono (List.subset_cons_self _ _), is⟩
      · cases place
  | overlooked known _ gone _ _ release ih =>
    obtain ⟨deeper, registration, knows, is⟩ | ⟨_, place, _⟩ :=
      ih (by simpa [release.no_loop] using mem)
    · refine .inl ⟨deeper, registration, ?_, is⟩
      exact (knows.since (Change.start known gone).once).mono (by simp)
    · cases place
  | told known _ gone _ operation _ release ih ih' =>
    have begun := ((Change.start known gone).once.trans operation.changes)
    simp only [List.mem_append, release.no_loop, List.mem_cons, reduceCtorEq, false_or] at mem
    cases mem with
    | inl inside =>
      obtain ⟨deeper, registration, knows, is⟩ | ⟨_, place, _⟩ := ih' inside
      · rw [show (Machine.told _ _ _ _).snapshots = _ from operation.snapshots] at deeper
        refine .inl ⟨deeper, registration, (knows.since (begun.step (.tell _ _ _ _))).mono ?_, is⟩
        simp
      · cases place
    | inr responded =>
      obtain ⟨deeper, registration, knows, is⟩ | ⟨_, place, _⟩ := ih responded
      · refine .inl ⟨deeper, registration, (knows.since (Change.start known gone).once).mono ?_, is⟩
        intro event mem
        simp_all
      · cases place
  | _ => simp at mem

/-- A callback that is never dispatched stays as it is. -/
theorem view? (h : Trace host place events before after) {seen : Callback}
    (hv : before.view? id = some seen) :
    after.view? id = some seen ∨ Dispatched events id ∨ place.handles id := by
  induction h with
  | quiet h => exact .inl ((h.callbacks id).trans hv)
  | seq _ _ ih ih' =>
    obtain same | dispatched | handles := ih hv
    · exact (ih' same).imp_right (Or.imp_left fun late => late.mono (List.subset_append_left _ _))
    · exact .inr (.inl (dispatched.mono (List.subset_append_right _ _)))
    · exact .inr (.inr handles)
  | register =>
    rw [view?_enrolled, view?_withCallback, if_neg (Nat.ne_of_lt (lt_of_view? hv))]
    exact .inl hv
  | @atOnce machine _ callback notice _ _ _ ih =>
    have begun : ((machine.withCallback callback).told machine.callbacks.length callback.code
        notice).view? id = some seen := by
      rw [view?_told, view?_withCallback, if_neg (Nat.ne_of_lt (lt_of_view? hv)), hv]
    exact (ih begun).imp_right (Or.imp_left fun inside => inside.mono (List.subset_append_left _ _))
  | run _ ih => exact ih hv
  | cycle _ ih =>
    exact (ih hv).imp_right (Or.imp_right fun handles => absurd handles (Place.not_handles rfl))
  | skip => exact .inl ((view?_retiring ..).trans hv)
  | @dispatch machine _ loop _ registration ready _ _ _ _ ih =>
    obtain same | dispatched | ⟨_, _, handled, rfl⟩ := ih ((view?_announced ..).trans hv)
    · exact .inl same
    · exact .inr (.inl (dispatched.within _ [_]))
    · cases handled
      exact .inr (.inl ⟨loop, machine.snapshots.length, registration.descriptor, ready, by simp⟩)
  | @overlooked machine middle _ loop registration _ _ _ _ _ _ _ _ _ _ release ih =>
    by_cases own : registration.callback = id
    · exact .inr (.inr ⟨loop, registration, rfl, own⟩)
    · have begun : (machine.started registration.callback).view? id = some seen := by
        rw [view?_started, if_neg own, hv]
      rw [release.callbacks, view?_ended]
      exact (ih begun).imp_right (Or.imp_left fun inside => inside.mono (List.subset_append_right _ _))
  | @told machine middle inside _ loop registration _ _ _ _ _ _ _ _ _ _ _ _ _ release ih ih' =>
    by_cases own : registration.callback = id
    · exact .inr (.inr ⟨loop, registration, rfl, own⟩)
    · have begun : (machine.started registration.callback).view? id = some seen := by
        rw [view?_started, if_neg own, hv]
      rw [release.callbacks, view?_ended]
      obtain same | dispatched | handles := ih begun
      · obtain same' | dispatched | handles := ih' ((view?_told ..).trans same)
        · exact .inl same'
        · exact .inr (.inl (dispatched.within _ _))
        · exact absurd handles (Place.not_handles rfl)
      · refine .inr (.inl (dispatched.mono fun event mem => ?_))
        simp [mem]
      · exact .inr (.inr handles)
  | _ => exact .inl hv

/-- The code of a callback is started by a dispatch, or at once for a callback without a registration. -/
theorem callback {code : CodeId} {notice : Notice} {found : List EventLoop}
    (h : Trace host place events before after)
    (mem : .callback id code notice found ∈ events) :
    place.handles id ∨ Begun before after events id := by
  induction h with
  | quiet h => exact absurd mem (h.no_callback _ _ _ _)
  | seq h h' ih ih' =>
    cases List.mem_append.mp mem with
    | inl inside => exact (ih' inside).imp_right fun begun => begun.within h.changes (.refl _)
    | inr inside =>
      apply (ih inside).imp_right
      intro begun
      simpa using begun.within (.refl _) h'.changes
  | @atOnce machine _ callback notice events spent h ih =>
    cases List.mem_append.mp mem with
    | inl inside =>
      have begun := (ih inside).resolve_left (Place.not_handles rfl)
      exact .inr (begun.within (changes_atOnce machine spent notice) (.refl _))
    | inr own =>
      cases List.mem_singleton.mp own
      have own : Made machine ((machine.withCallback callback).told machine.callbacks.length
          callback.code notice)
          [.callback machine.callbacks.length callback.code notice machine.loops]
          machine.callbacks.length :=
        { lower := Nat.le_refl _, upper := by simp, unregistered := by simp }
      exact .inr (.inr (own.until h.changes))
  | run _ ih => exact (ih mem).imp_right (Or.imp_right fun made => { made with })
  | cycle _ ih =>
    have begun := (ih mem).resolve_left (Place.not_handles rfl)
    exact .inr (begun.imp_right fun made => { made with })
  | @dispatch machine _ loop _ registration ready _ _ _ _ ih =>
    obtain ⟨_, _, handled, rfl⟩ | begun := ih (by simpa using mem)
    · cases handled
      exact .inr (.inl ⟨loop, machine.snapshots.length, registration.descriptor, ready, by simp⟩)
    · exact .inr (begun.within (changes_announced machine loop registration ready)
        (Change.finished _ loop machine.snapshots.length registration.callback).once)
  | overlooked known _ gone _ _ release ih =>
    apply (ih (by simpa [release.no_callback] using mem)).imp_right
    intro begun
    simpa using begun.within (Change.start known gone).once
      ((Change.finish _ _).once.step (.quiet release))
  | @told machine middle inside _ loop registration _ _ _ _ _ _ known _ gone _ operation code _ release
      ih ih' =>
    have start := (Change.start known gone).once
    have finish := (Change.finish inside registration.callback).once.step (.quiet release)
    simp only [List.mem_append, release.no_callback, List.mem_cons, false_or] at mem
    obtain inside | own | responded := mem
    · have begun := (ih' inside).resolve_left (Place.not_handles rfl)
      have all := begun.within ((start.trans operation.changes).step (.tell _ _ _ _)) finish
      exact .inr (by simpa using all)
    · cases own
      exact .inl ⟨loop, registration, rfl, rfl⟩
    · apply (ih responded).imp_right
      intro begun
      have all := begun.within start (((Change.tell _ _ _ _).once.trans code.changes).trans finish)
      simpa using all
  | _ => simp at mem

/-- A registration is withdrawn by the operation of its callback. -/
theorem withdrawn (h : Trace host place events before after)
    (mem : .loop loop (.withdrawn descriptor id) ∈ events) :
    (∃ depth ready, .loop loop (.dispatched depth id descriptor ready) ∈ events) ∨
      ∃ registration, place.handled? = some (loop, registration) ∧
        registration.callback = id ∧ registration.descriptor = descriptor := by
  induction h with
  | quiet h => exact absurd mem (h.no_loop _)
  | seq _ _ ih ih' =>
    cases List.mem_append.mp mem with
    | inl late =>
      apply (ih' late).imp_left
      rintro ⟨depth, ready, dispatched⟩
      exact ⟨depth, ready, List.mem_append_left _ dispatched⟩
    | inr early =>
      apply (ih early).imp_left
      rintro ⟨depth, ready, dispatched⟩
      exact ⟨depth, ready, List.mem_append_right _ dispatched⟩
  | atOnce _ _ ih =>
    obtain ⟨depth, ready, dispatched⟩ | ⟨_, handled, _⟩ := ih (by simpa using mem)
    · exact .inl ⟨depth, ready, List.mem_append_left _ dispatched⟩
    · cases handled
  | run _ ih => exact ih mem
  | cycle _ ih =>
    obtain dispatched | ⟨_, handled, _⟩ := ih mem
    · exact .inl dispatched
    · cases handled
  | @dispatch machine _ other _ registration now _ _ _ _ ih =>
    obtain ⟨depth, ready, dispatched⟩ | ⟨_, handled, rfl, rfl⟩ := ih (by simpa using mem)
    · exact .inl ⟨depth, ready, by simp [dispatched]⟩
    · cases handled
      exact .inl ⟨machine.snapshots.length, now, by simp⟩
  | withdraw machine other registration =>
    cases List.mem_singleton.mp mem
    exact .inr ⟨registration, rfl, rfl, rfl⟩
  | overlooked _ _ _ _ _ release ih =>
    apply (ih (by simpa [release.no_loop] using mem)).imp_left
    rintro ⟨depth, ready, dispatched⟩
    exact ⟨depth, ready, List.mem_append_right _ dispatched⟩
  | told _ _ _ _ _ _ release ih ih' =>
    simp only [List.mem_append, release.no_loop, List.mem_cons, reduceCtorEq, false_or] at mem
    cases mem with
    | inl inside =>
      obtain ⟨depth, ready, dispatched⟩ | ⟨_, handled, _⟩ := ih' inside
      · exact .inl ⟨depth, ready, by simp [dispatched]⟩
      · cases handled
    | inr responded =>
      apply (ih responded).imp_left
      rintro ⟨depth, ready, dispatched⟩
      exact ⟨depth, ready, by simp [dispatched]⟩
  | _ => simp at mem

/-- What is retired is dispatched, unless its callback was being run already. -/
theorem retired (h : Trace host place events before after)
    (mem : .loop loop (.retired descriptor id) ∈ events) :
    Dispatched events id ∨ id ∈ before.executing ∨ place.handles id := by
  induction h with
  | quiet h => exact absurd mem (h.no_loop _)
  | seq h _ ih ih' =>
    cases List.mem_append.mp mem with
    | inl late =>
      have which := ih' late
      rw [h.executing] at which
      exact which.imp_left fun dispatched => dispatched.mono (List.subset_append_left _ _)
    | inr early =>
      exact (ih early).imp_left fun dispatched => dispatched.mono (List.subset_append_right _ _)
  | atOnce _ _ ih =>
    exact (ih (by simpa using mem)).imp_left fun dispatched =>
      dispatched.mono (List.subset_append_left _ _)
  | run _ ih => exact ih mem
  | cycle _ ih =>
    exact (ih mem).imp_right (Or.imp_right fun handles => absurd handles (Place.not_handles rfl))
  | skip _ busy =>
    cases (mem_retirement.mp mem).2
    exact .inr (.inl busy)
  | @dispatch machine _ other _ registration now events _ _ _ ih =>
    have own : Dispatched (.loop other (.finished machine.snapshots.length registration.callback) ::
        (events ++ (.loop other (.dispatched machine.snapshots.length registration.callback
          registration.descriptor now) :: retirement other registration))) registration.callback :=
      ⟨other, machine.snapshots.length, registration.descriptor, now, by simp⟩
    simp only [List.mem_cons, List.mem_append, mem_retirement, Event.loop.injEq, reduceCtorEq,
      and_false, false_or] at mem
    obtain inside | ⟨-, -, retired⟩ := mem
    · obtain dispatched | executing | ⟨_, _, handled, rfl⟩ := ih inside
      · exact .inl (dispatched.within _ [_])
      · exact .inr (.inl (executing_announced machine other registration now ▸ executing))
      · cases handled
        exact .inl own
    · cases retired
      exact .inl own
  | @overlooked _ _ _ other registration _ _ _ _ _ _ _ _ _ _ release ih =>
    obtain dispatched | executing | handles := ih (by simpa [release.no_loop] using mem)
    · exact .inl (dispatched.mono (List.subset_append_right _ _))
    · cases List.mem_cons.mp executing with
      | inl own => exact .inr (.inr ⟨other, registration, rfl, own.symm⟩)
      | inr outer => exact .inr (.inl outer)
    · exact .inr (.inr handles)
  | @told machine _ _ _ other registration ready _ _ _ _ _ _ _ _ _ operation _ _ release ih ih' =>
    simp only [List.mem_append, release.no_loop, List.mem_cons, reduceCtorEq, false_or] at mem
    have outer (executing : id ∈ registration.callback :: machine.executing) :
        id ∈ machine.executing ∨ (Place.reaction other registration ready).handles id :=
      (List.mem_cons.mp executing).symm.imp_right fun own => ⟨other, registration, rfl, own.symm⟩
    cases mem with
    | inl inside =>
      obtain dispatched | executing | handles := ih' inside
      · exact .inl (dispatched.within _ _)
      · rw [show (Machine.told _ _ _ _).executing = _ from operation.executing] at executing
        exact .inr (outer executing)
      · exact absurd handles (Place.not_handles rfl)
    | inr responded =>
      obtain dispatched | executing | handles := ih responded
      · refine .inl (dispatched.mono fun event mem => ?_)
        simp [mem]
      · exact .inr (outer executing)
      · exact .inr (.inr handles)
  | _ => simp at mem

end Trace
end NetReactor.Machine
