import NetReactor.Proofs.Loop.Withdrawal
import NetReactor.Proofs.Machine.History
/-!
Invariants of runs that are concerned with the code of callbacks. Code starts in two ways only: with a result
that was there at once, or when a dispatch is answered. Whatever survives these two and all changes in which no
code starts, holds throughout.
-/
namespace NetReactor.Machine

variable {ω : Type} {host : Host ω} {place : Place} {events : List Event}
variable {before after machine middle : Machine ω} {loop : LoopId} {registration : Registration}
variable {id : CallbackId}

structure Listing (machine : Machine ω) (loop : LoopId) (registration : Registration) : Prop where
  known : loop < machine.loops.length
  made : .loop loop (.registered registration) ∈ machine.journal
  idle : registration.once = true → registration.callback ∉ machine.executing

theorem Listing.changes (h : Listing before loop registration) (changes : Changes events before after)
    (executing : after.executing = before.executing) : Listing after loop registration where
  known := Nat.lt_of_lt_of_le h.known changes.grows.loops
  made := changes.journal ▸ List.mem_append_right _ h.made
  idle once := executing ▸ h.idle once

theorem History.listing (h : machine.History) (mem : registration ∈ machine.entries loop) :
    Listing machine loop registration where
  known := lt_of_mem_entries mem
  made := h.registered mem
  idle once executing := by
    obtain ⟨seen, view, same, -⟩ := h.coherent.known loop registration mem
    exact h.singles.aside _ executing seen view (same.trans once) loop registration mem rfl

/-- What is known at a place: a cycle goes through what it found, and a reaction follows its dispatch. -/
def Place.Based (machine : Machine ω) : Place → Prop
  | .stretch .code | .stretch (.operation ..) => True
  | .stretch (.cycle loop found) => ∀ registration ∈ found, Listing machine loop registration
  | .reaction loop registration ready => Listing machine loop registration ∧
    ∃ depth earlier, machine.journal =
      .loop loop (.dispatched depth registration.callback registration.descriptor ready) ::
        (retirement loop registration ++ earlier)

theorem Place.Based.changes {stretch : Stretch} (h : (Place.stretch stretch).Based before)
    (changes : Changes events before after) (executing : after.executing = before.executing) :
    (Place.stretch stretch).Based after := by
  cases stretch with
  | code => trivial
  | operation => trivial
  | cycle loop found => exact fun registration mem => (h registration mem).changes changes executing

/-- A dispatch is answered: the operation of its callback has something to tell in the machine `middle`, after
`calls` and at most a withdrawal. -/
structure Telling (host : Host ω) (before middle : Machine ω) (loop : LoopId) (registration : Registration)
    (ready : Interest) (callback : Callback) (notice : Notice) (calls : List Event) : Prop where
  based : (Place.reaction loop registration ready).Based before
  known : before.callback? registration.callback = some callback
  fresh : callback.spent = false
  gone : callback.once = true → before.Gone registration.callback
  response : respond host loop registration.callback callback.operation registration.descriptor ready
    (before.started registration.callback) = (some notice, middle)
  operation : Trace host (.operation loop registration) calls (before.started registration.callback) middle

namespace Telling

variable {ready : Interest} {callback : Callback} {notice : Notice} {calls : List Event}
variable (h : Telling host before middle loop registration ready callback notice calls)
include h

theorem changes : Changes calls before middle := by
  simpa using (Change.start h.known h.gone).once.trans h.operation.changes

theorem journal : middle.journal = calls ++ before.journal := h.changes.journal

/-- The callback is what it was, and if it is for a single dispatch it is spent. -/
theorem seen : ∃ seen, middle.view? registration.callback = some seen ∧ seen.code = callback.code ∧
    seen.once = callback.once ∧ (seen.once = true → seen.spent = true) := by
  have view : (before.started registration.callback).view? registration.callback =
      some callback.uncounted.run := by
    rw [view?_started, if_pos rfl, view?_of_callback? h.known]
    rfl
  obtain same | run := h.operation.changes.grows.callback _ _ view
  · exact ⟨_, same, rfl, rfl, fun once => once⟩
  · exact ⟨_, run, rfl, rfl, fun once => once⟩

end Telling

/-- What no start of code breaks, and no change in which no code starts, holds after a run if it held before. -/
theorem Trace.preserves (holds : Machine ω → Prop) (history : ∀ machine, holds machine → machine.History)
    (silent : ∀ {events before after}, holds before → Changes events before after →
      (∀ id code notice found, .callback id code notice found ∉ events) → holds after)
    (atOnce : ∀ {machine : Machine ω} {callback} notice, holds machine → callback.spent = true →
      holds ((machine.withCallback callback).told machine.callbacks.length callback.code notice))
    (told : ∀ {before middle loop registration ready callback notice calls}, holds before → holds middle →
      Telling host before middle loop registration ready callback notice calls →
        holds (middle.told registration.callback callback.code notice))
    (h : Trace host place events before after) (start : holds before) (based : place.Based before) :
    holds after := by
  induction h with
  | quiet h => exact silent start (Change.quiet h).once h.no_callback
  | poll current nonempty timeout reply outside =>
    exact silent start (Change.poll current nonempty timeout reply outside).once (by simp)
  | seq h _ ih ih' => exact ih' (ih start based) (based.changes h.changes h.executing)
  | addLoop machine settings => exact silent start (Change.addLoop machine settings).once (by simp)
  | register loop descriptor interest fresh fits apt =>
    exact silent start (Change.register loop descriptor interest fresh fits apt).once (by simp)
  | remove machine loop descriptor =>
    exact silent start (Change.remove machine loop descriptor).once (by simp)
  | @atOnce machine _ callback notice _ spent _ ih => exact ih (atOnce notice start spent) trivial
  | stop machine loop =>
    exact silent start ((Change.setRunning machine loop false).once.step (.stopped _ loop)) (by simp)
  | @run machine after loop _ _ ih =>
    have begun := silent start (Change.setRunning machine loop true).once (by simp)
    exact silent (ih begun trivial) (Change.setRunning after loop false).once (by simp)
  | @cycle machine after loop _ _ _ ih =>
    have begun := silent start (changes_cycling machine loop) (by simp)
    have listed : (Place.cycle loop (machine.entries loop)).Based (machine.cycling loop) :=
      fun registration mem =>
        ((history machine start).listing mem).changes (changes_cycling machine loop) rfl
    exact silent (ih begun listed) (Change.setSnapshots after machine.snapshots).once (by simp)
  | @skip machine loop _ registration _ _ =>
    exact silent start (Change.retire machine loop registration).once (by simp)
  | @dispatch machine after loop _ registration ready events member _ _ ih =>
    have changes := changes_announced machine loop registration ready
    have begun := silent start changes (by simp)
    have listing := (based registration member).changes changes (executing_announced _ _ _ _)
    have ran := ih begun ⟨listing, machine.snapshots.length, machine.journal, changes.journal⟩
    exact silent ran (Change.finished after loop _ registration.callback).once (by simp)
  | withdraw machine loop registration =>
    exact silent start (Change.withdraw machine loop _ _).once (by simp)
  | spent => exact start
  | @overlooked _ middle _ _ registration _ _ _ _ known _ gone _ _ _ release ih =>
    have responded := ih (silent start (Change.start known gone).once (by simp)) trivial
    have ended := silent responded (Change.finish middle registration.callback).once (by simp)
    exact silent ended (Change.quiet release).once release.no_callback
  | @told machine middle inside _ _ registration _ callback _ _ _ _ known fresh gone response operation
      _ _ release ih ih' =>
    have responded := ih (silent start (Change.start known gone).once (by simp)) trivial
    have ran := ih' (told start responded ⟨based, known, fresh, gone, response, operation⟩) trivial
    have ended := silent ran (Change.finish inside registration.callback).once (by simp)
    exact silent ended (Change.quiet release).once release.no_callback

end NetReactor.Machine
