import NetReactor.Proofs.Loop.OneShot
import NetReactor.Proofs.Loop.Turn
import NetReactor.Proofs.Machine.Response
/-!
One background operation: connecting, sending or receiving. It is told about once at most, at once or from one
dispatch. What it tells then follows from the mask that was reported and from at most one system call.
-/
namespace NetReactor

/-- An event that takes away or replaces what is registered for a descriptor, other than its dispatch. A loop
that begins has nothing registered. -/
def LoopEvent.takesAway (descriptor : Descriptor) : LoopEvent → Bool
  | .created => true
  | .registered fresh => fresh.descriptor == descriptor
  | .removed gone | .withdrawn gone _ => gone == descriptor
  | .retired .. | .dispatched .. | .finished .. | .stopped => false

def AsyncRequest.single? (socket : SocketId) : AsyncRequest → Option (Operation × Interest × CodeId)
  | .connect _ code => some (.connect socket, Interest.write, code)
  | .send data code => some (.send socket data, Interest.write, code)
  | .recv buffer code => some (.recv socket buffer, Interest.read, code)
  | .accept .. | .cancel => none

inductive Attempts (isOpen : Bool) (descriptor : Descriptor) :
    AsyncRequest → List Event → Option Notice → Prop
  | connectShut {address code} (shut : isOpen = false) :
    Attempts isOpen descriptor (.connect address code) [] (some (.connected (.error .socketClosed)))
  | sendShut {data code} (shut : isOpen = false) :
    Attempts isOpen descriptor (.send data code) [] (some (.sent (.error .socketClosed)))
  | recvShut {buffer code} (shut : isOpen = false) :
    Attempts isOpen descriptor (.recv buffer code) []
      (some (.received (.error .socketClosed) buffer))
  -- The connection is being made in the background.
  | connecting {address : Address} {code} {reply : Reply} (opened : isOpen = true)
    (pending : reply.outcome (·.orElse .connectFailed) = .error .wouldBlock) :
    Attempts isOpen descriptor (.connect address code)
      [.syscall (.connect descriptor address.encode) reply] none
  | connected {address : Address} {code} {reply : Reply} (opened : isOpen = true)
    (done : reply.outcome (·.orElse .connectFailed) ≠ .error .wouldBlock) :
    Attempts isOpen descriptor (.connect address code)
      [.syscall (.connect descriptor address.encode) reply]
      (some (.connected (reply.outcome (·.orElse .connectFailed))))
  | sending {data code} (opened : isOpen = true) : Attempts isOpen descriptor (.send data code) [] none
  | receiving {buffer code} (opened : isOpen = true) : Attempts isOpen descriptor (.recv buffer code) [] none

namespace Machine

variable {ω : Type} {host : Host ω} {place : Place} {events late early : List Event}
variable {root before after machine middle last : Machine ω} {loop : LoopId}
variable {registration : Registration} {id : CallbackId} {ready : Interest} {timeout : Option Duration}

/-- How the code of a callback starts that was registered: it was dispatched just before, its operation did what
it should, and this is what it had to tell. Its socket was open then, or else it had lost its descriptor before. -/
def Served (machine : Machine ω) (loop : LoopId) (registration : Registration) (early : List Event)
    (notice : Notice) : Prop :=
  ∃ calls depth ready earlier seen isOpen,
    early = calls ++ .loop loop (.dispatched depth registration.callback registration.descriptor ready) ::
      (retirement loop registration ++ earlier) ∧
    machine.view? registration.callback = some seen ∧
    (isOpen = false → ∃ socket, seen.operation.socket? = some socket ∧ Shuts socket early) ∧
    Responds machine loop registration ready isOpen seen.operation calls (some notice)

def Serves (machine : Machine ω) (early : List Event) : Event → Prop
  | .callback id _ notice _ => ∀ loop registration, .loop loop (.registered registration) ∈ early →
    registration.callback = id → Served machine loop registration early notice
  | _ => True

/-- The socket of a background operation is open, unless it lost its descriptor since its registration. -/
theorem History.shut_for {seen : Callback} (history : machine.History)
    (made : .loop loop (.registered registration) ∈ machine.journal)
    (view : machine.view? registration.callback = some seen)
    (shut : machine.isOpenFor seen.operation = false) :
    ∃ socket, seen.operation.socket? = some socket ∧ Shuts socket machine.journal := by
  obtain ⟨socket, needs, shut⟩ := isOpenFor_eq_false shut
  obtain ⟨late, early, split⟩ := List.append_of_mem made
  obtain ⟨current, view', opened⟩ := history.opened split
  cases view.symm.trans view'
  refine ⟨socket, needs, ?_⟩
  obtain isOpen | shuts := opened socket needs
  · rw [shut] at isOpen
    cases isOpen
  · exact shuts.mono (split ▸ List.subset_append_left _ _)

namespace Telling

variable {callback : Callback} {notice : Notice} {calls : List Event}

theorem served (h : Telling host before middle loop registration ready callback notice calls)
    (history : before.History) (grows : Grows middle last) :
    Served last loop registration middle.journal notice := by
  have responds := history.responds h.based.1.made h.known h.response h.operation.changes.journal
  obtain ⟨depth, earlier, dispatched⟩ := h.based.2
  obtain ⟨current, view, operation⟩ :=
    (h.changes.grows.trans grows).operation (view?_of_callback? h.known)
  refine ⟨calls, depth, ready, earlier, current,
    (before.started registration.callback).isOpenFor callback.operation,
    by rw [h.journal, dispatched], view, ?_, ?_⟩
  · rw [operation, h.journal]
    exact fun shut => (history.shut_for h.based.1.made (view?_of_callback? h.known) shut).imp fun _ =>
      And.imp_right fun shuts => shuts.mono (List.subset_append_right _ _)
  · rw [operation]
    exact responds.grows grows

end Telling

/-- Code that starts for a registration is served, as seen from any later machine. -/
theorem Trace.served (h : Trace host place events before after) (history : before.History)
    (based : place.Based before) (grows : Grows after last)
    (early : Along (Serves last) before.journal) : Along (Serves last) after.journal := by
  have all := h.preserves
    (fun machine => machine.History ∧ (Grows machine last → Along (Serves last) machine.journal))
    (fun machine holds => holds.1) ?_ ?_ ?_ ⟨history, fun _ => early⟩ based
  · exact all.2 grows
  · intro events before after holds changes silent
    refine ⟨holds.1.changes changes, fun grows => ?_⟩
    rw [changes.journal]
    refine along_append.mpr ⟨along_of_forall fun event mem before => ?_,
      holds.2 (changes.grows.trans grows)⟩
    unfold Serves
    split
    · exact absurd mem (silent _ _ _ _)
    · trivial
  · intro machine callback notice holds spent
    have changes := changes_atOnce machine spent notice
    refine ⟨holds.1.changes changes, fun grows => ⟨?_, holds.2 (changes.grows.trans grows)⟩⟩
    intro loop registration made same
    exact absurd (holds.1.lt_callbacks made) (by rw [same]; exact Nat.lt_irrefl _)
  · intro before middle loop registration ready callback notice calls holds answered telling
    refine ⟨answered.1.changes (Change.tell _ _ _ _).once, fun grows => ?_⟩
    have grows' := (grows_told middle registration.callback callback.code notice).trans grows
    refine ⟨fun other single made same => ?_, answered.2 grows'⟩
    have made' : .loop loop (.registered registration) ∈ middle.journal := by
      rw [telling.journal]
      exact List.mem_append_right _ telling.based.1.made
    obtain ⟨rfl, rfl⟩ := answered.1.unique made' made same
    exact telling.served holds.1 grows'

def spentCount (machine : Machine ω) (id : CallbackId) : Nat :=
  ((machine.view? id).map (·.spent.toNat)).getD 0

structure Tallied (root machine : Machine ω) (events : List Event) : Prop where
  history : machine.History
  journal : machine.journal = events ++ root.journal
  grows : Grows root machine
  known : ∀ id code notice found, .callback id code notice found ∈ events → id < machine.callbacks.length
  atMost : ∀ id seen, machine.view? id = some seen → seen.once = true →
    startCount id events + root.spentCount id ≤ seen.spent.toNat

theorem isStart_self (id : CallbackId) (code : CodeId) (notice : Notice) (found : List EventLoop) :
    isStart id (.callback id code notice found) = true := beq_self_eq_true id

theorem startCount_append (none : ∀ code notice found, .callback id code notice found ∉ late) :
    startCount id (late ++ early) = startCount id early := by
  have zero := startCount_eq_zero none
  rw [startCount] at zero
  rw [startCount, List.countP_append, zero, Nat.zero_add, startCount]

namespace Tallied

theorem refl (history : root.History) : Tallied root root [] where
  history := history
  journal := rfl
  grows := .refl root
  known _ _ _ _ mem := nomatch mem
  atMost id seen view _ := by simp [startCount, spentCount, view]

theorem startCount_eq_zero_of_le (h : Tallied root machine events) (new : machine.callbacks.length ≤ id) :
    startCount id events = 0 :=
  startCount_eq_zero fun code notice found mem =>
    absurd (h.known id code notice found mem) (Nat.not_lt_of_le new)

theorem spentCount_eq_zero (new : root.callbacks.length ≤ id) : root.spentCount id = 0 := by
  rw [spentCount, view?_eq_none.mpr new]
  rfl

/-- Changes in which no code starts. -/
theorem silent {more : List Event} (h : Tallied root before events) (changes : Changes more before after)
    (none : ∀ id code notice found, .callback id code notice found ∉ more) :
    Tallied root after (more ++ events) where
  history := h.history.changes changes
  journal := by rw [changes.journal, h.journal, List.append_assoc]
  grows := h.grows.trans changes.grows
  known id code notice found mem := by
    have early := (List.mem_append.mp mem).resolve_left (none id code notice found)
    exact Nat.lt_of_lt_of_le (h.known id code notice found early) changes.grows.callbacks
  atMost id seen view once := by
    rw [startCount_append (none id)]
    cases old : before.view? id with
    | none =>
      have new := view?_eq_none.mp old
      rw [h.startCount_eq_zero_of_le new, spentCount_eq_zero (Nat.le_trans h.grows.callbacks new)]
      exact Nat.zero_le _
    | some seen' =>
      obtain is | run := changes.grows.callback id seen' old
      · rw [is] at view
        cases view
        exact h.atMost id seen old once
      · rw [run] at view
        cases view
        have bound := h.atMost id seen' old once
        have spent : seen'.run.spent = true := once
        rw [spent]
        exact Nat.le_trans bound (Bool.toNat_le _)

/-- Code starts for a callback that did not start before, if it is for a single dispatch, and is spent now. -/
theorem told {seen : Callback} (h : Tallied root machine events) (view : machine.view? id = some seen)
    (first : seen.once = true → seen.spent = true ∧ startCount id events + root.spentCount id = 0)
    (code : CodeId) (notice : Notice) :
    Tallied root (machine.told id code notice) (.callback id code notice machine.loops :: events) where
  history := h.history.changes (Change.tell machine id code notice).once
  journal := by
    rw [(Change.tell machine id code notice).once.journal, h.journal]
    rfl
  grows := h.grows.trans (grows_told machine id code notice)
  known other code' notice' found mem := by
    rw [length_told]
    obtain own | old := List.mem_cons.mp mem
    · cases own
      exact lt_of_view? view
    · exact h.known other code' notice' found old
  atMost other seen' view' once := by
    rw [view?_told] at view'
    rw [startCount, List.countP_cons]
    by_cases own : id = other
    · subst own
      cases view.symm.trans view'
      obtain ⟨spent, none⟩ := first once
      rw [startCount] at none
      rw [spent, if_pos (isStart_self ..)]
      simp only [Bool.toNat_true]
      omega
    · rw [if_neg (by simpa [isStart] using own)]
      exact h.atMost other seen' view' once

end Tallied

/-- Whatever happens in a run, the code of a callback for a single dispatch starts once at most. -/
theorem Trace.tallied (h : Trace host place events before after) (history : before.History)
    (based : place.Based before) : Tallied before after events := by
  have all := h.preserves (fun machine => ∃ since, Tallied before machine since)
    (fun machine holds => holds.choose_spec.history) ?_ ?_ ?_ ⟨[], .refl history⟩ based
  · obtain ⟨since, tallied⟩ := all
    have same : events = since :=
      List.append_cancel_right (h.changes.journal.symm.trans tallied.journal)
    exact same ▸ tallied
  · rintro _ _ _ ⟨since, holds⟩ changes silent
    exact ⟨_, holds.silent changes silent⟩
  · rintro machine callback notice ⟨since, holds⟩ spent
    have made := holds.silent (Change.create spent).once (by simp)
    have view : (machine.withCallback callback).view? machine.callbacks.length =
        some callback.uncounted := (view?_withCallback ..).trans (if_pos rfl)
    have new := Nat.le_refl machine.callbacks.length
    refine ⟨_, made.told view (fun _ => ⟨spent, ?_⟩) callback.code notice⟩
    rw [List.nil_append, holds.startCount_eq_zero_of_le new,
      Tallied.spentCount_eq_zero (Nat.le_trans holds.grows.callbacks new)]
  · rintro middle responded loop registration ready callback notice calls ⟨since, holds⟩ - telling
    have answered := holds.silent telling.changes (operation_silent telling.operation)
    obtain ⟨seen, view, -, single, spent⟩ := telling.seen
    refine ⟨_, answered.told view (fun once => ⟨spent once, ?_⟩) callback.code notice⟩
    -- The callback was not spent when it was dispatched, so it had not started.
    have none := holds.atMost registration.callback callback.uncounted
      (view?_of_callback? telling.known) (single.symm.trans once)
    rw [startCount_append (operation_silent telling.operation _)]
    rwa [show callback.uncounted.spent = false from telling.fresh, Bool.toNat_false, Nat.le_zero] at none

variable {descriptor : Descriptor} {stay : Stay}

theorem update_kept {now : Nat} {event : LoopEvent} (kept : event.takesAway descriptor = false)
    (retired : event ≠ .retired descriptor stay.registration.callback) :
    event.update descriptor now (some stay) = some stay := by
  cases event with
  | created => cases kept
  | registered fresh =>
    have other : fresh.descriptor ≠ descriptor := by simpa [LoopEvent.takesAway] using kept
    exact if_neg other
  | removed gone =>
    have other : gone ≠ descriptor := by simpa [LoopEvent.takesAway] using kept
    exact if_neg other
  | withdrawn gone id =>
    have other : gone ≠ descriptor := by simpa [LoopEvent.takesAway] using kept
    exact if_neg other
  | retired gone id =>
    rw [LoopEvent.update]
    split
    · next here =>
      subst here
      have other : stay.registration.callback ≠ id := fun same => retired (by rw [same])
      simp [other]
    · rfl
  | _ => rfl

/-- What stands for a descriptor stays where it is, until it is taken away, replaced or retired. -/
theorem stay?_kept (stands : stay? loop descriptor early = some stay)
    (kept : ∀ event, .loop loop event ∈ late → event.takesAway descriptor = false)
    (retired : .loop loop (.retired descriptor stay.registration.callback) ∉ late) :
    stay? loop descriptor (late ++ early) = some stay := by
  induction late with
  | nil => exact stands
  | cons event late ih =>
    have rest := ih (fun other mem => kept other (List.mem_cons_of_mem _ mem))
      fun mem => retired (List.mem_cons_of_mem _ mem)
    cases event with
    | loop other event =>
      rw [List.cons_append, stay?]
      split
      · next here =>
        subst here
        rw [rest]
        refine update_kept (kept event (List.mem_cons_self ..)) fun same => retired ?_
        rw [← same]
        exact List.mem_cons_self ..
      · exact rest
    | _ => exact rest

/-- Something that happened has a first time. -/
theorem exists_earliest {event : Event} (mem : event ∈ events) :
    ∃ late early, events = late ++ event :: early ∧ event ∉ early := by
  induction events with
  | nil => cases mem
  | cons other events ih =>
    by_cases before : event ∈ events
    · obtain ⟨late, early, rfl, first⟩ := ih before
      exact ⟨other :: late, early, rfl, first⟩
    · cases (List.mem_cons.mp mem).resolve_right before
      exact ⟨[], events, rfl, before⟩

/-- As long as nothing takes it away or replaces it, what stands for a descriptor stays, or else it is retired
and its code starts. -/
theorem stands_or_starts (stands : stay? loop descriptor early = some stay)
    (kept : ∀ event, .loop loop event ∈ late → event.takesAway descriptor = false)
    (retires : ∀ after before, late = after ++ .loop loop (.retired descriptor stay.registration.callback) ::
      before → Retires loop descriptor stay.registration.callback (before ++ early) after) :
    (.loop loop (.retired descriptor stay.registration.callback) ∉ late ∧
        stay? loop descriptor (late ++ early) = some stay) ∨
      0 < startCount stay.registration.callback late := by
  by_cases retired : .loop loop (.retired descriptor stay.registration.callback) ∈ late
  · right
    obtain ⟨after, before, rfl, first⟩ := exists_earliest retired
    have still : stay? loop descriptor (before ++ early) = some stay :=
      stay?_kept stands (fun event mem => kept event (by simp [mem])) first
    have listed := lists_replayed loop (before ++ early)
    obtain ⟨depth, ready, rest, rfl, starts⟩ := retires after before rfl
    have there := Registry.lookup?_eq_some.mp ((listed.entry descriptor).trans (by rw [still]; rfl))
    obtain ⟨later, code, notice, found, calls, rfl, -⟩ :=
      starts stay.registration there.1 there.2 rfl
    exact List.countP_pos_iff.mpr ⟨.callback stay.registration.callback code notice found, by simp,
      isStart_self ..⟩
  · exact .inl ⟨retired, stay?_kept stands kept retired⟩

theorem stay?_of_mem (history : machine.History) (mem : registration ∈ machine.entries loop) :
    ∃ stay, stay? loop registration.descriptor machine.journal = some stay ∧
      stay.registration = registration :=
  Option.map_eq_some_iff.mp ((history.tracked.lists (lt_of_mem_entries mem)).mem_iff.mp mem)

theorem mem_of_stay? (history : machine.History) (known : loop < machine.loops.length)
    (stands : stay? loop descriptor machine.journal = some stay) :
    stay.registration ∈ machine.entries loop := by
  have there := (history.tracked.lists known).entry descriptor
  rw [stands] at there
  exact (Registry.lookup?_eq_some.mp there).1

theorem startCount_le_one_of_once (tallied : Tallied root machine events) {seen : Callback}
    (view : machine.view? id = some seen) (once : seen.once = true) : startCount id events ≤ 1 := by
  have bound := tallied.atMost id seen view once
  have spent := seen.spent.toNat_le
  omega

/-- A cycle that finds a registration for a single dispatch ready has started its code once in the end, if
nothing took the registration away meanwhile. -/
theorem cycle_starts_once {budget count : Nat} (history : machine.History)
    (mem : registration ∈ machine.entries loop) (once : registration.once = true)
    (listed : (registration, ready) ∈ readyOf (machine.entries loop) (pollReply host machine loop timeout))
    (kept : ∀ event, .loop loop event ∈ after.since machine →
      event.takesAway registration.descriptor = false)
    (cycle : runOnce host (perform host budget) loop timeout machine = some (count, after)) :
    startCount registration.callback (after.since machine) = 1 := by
  have code : ∀ action, Runs host .code (perform host budget action) := runs_perform budget
  obtain ⟨events, inside, released, walk, release, last⟩ :=
    runOnce_inv code (List.ne_nil_of_mem mem) history.coherent cycle
  have parts : CycleParts host loop timeout machine count after events released inside :=
    ⟨List.ne_nil_of_mem mem, walk, release, last⟩
  obtain ⟨events, trace⟩ := runs_runOnce code loop timeout machine count after history.coherent cycle
  have same : after.since machine = events := since_eq trace.changes.journal
  -- Its own dispatch takes the registration away, unless a cycle inside has done so before.
  obtain ⟨middle, fired, early, body, late, turn⟩ :=
    parts.turn history.coherent listed ((history.listing mem).idle once)
  have retired : .loop loop (.retired registration.descriptor registration.callback) ∈
      after.since machine := by
    rw [turn.split]
    simp [once]
  obtain ⟨stay, stands, rfl⟩ := stay?_of_mem history mem
  rw [same] at kept retired ⊢
  have started := (stands_or_starts stands kept fun _ _ split => trace.retires history trivial split
    ).resolve_left fun still => still.1 retired
  obtain ⟨seen, view, single, -⟩ := history.coherent.known loop _ mem
  have tallied := trace.tallied history trivial
  obtain ⟨seen', view', once'⟩ : ∃ seen', after.view? stay.registration.callback = some seen' ∧
      seen'.once = true := by
    obtain same | run := trace.changes.grows.callback _ seen view
    · exact ⟨seen, same, single.trans once⟩
    · exact ⟨seen.run, run, single.trans once⟩
  exact Nat.le_antisymm (startCount_le_one_of_once tallied view' once') started

inductive Begins (machine after : Machine ω) (loop : LoopId) (socket : SocketId) (request : AsyncRequest)
    (interest : Interest) (code : CodeId) : Prop
  | atOnce {calls inner notice}
    (attempt : Attempts (machine.socketAt socket).isOpen (machine.socketAt socket).descriptor request calls
      (some notice))
    (journal : after.journal = inner ++ .callback machine.callbacks.length code notice machine.loops ::
      (calls ++ machine.journal))
    (once : startCount machine.callbacks.length inner = 0)
  | registered {calls closed}
    (attempt : Attempts (machine.socketAt socket).isOpen (machine.socketAt socket).descriptor request calls
      none)
    (journal : after.journal = closed ++ .loop loop (.registered
      ⟨(machine.socketAt socket).descriptor, interest, machine.callbacks.length, true⟩) ::
        (calls ++ machine.journal))
    (closing : Closing closed)
    (stands : loop < machine.loops.length →
      ⟨(machine.socketAt socket).descriptor, interest, machine.callbacks.length, true⟩ ∈ after.entries loop)

def Stands (machine : Machine ω) (id : CallbackId) (operation : Operation) (code : CodeId) (once : Bool) :
    Prop :=
  ∃ seen, machine.view? id = some seen ∧ seen.operation = operation ∧ seen.code = code ∧ seen.once = once

theorem stands_of_grows {seen : Callback} {operation : Operation} {code : CodeId} {once : Bool}
    (view : middle.view? id = some seen) (grows : Grows middle after)
    (is : seen.operation = operation ∧ seen.code = code ∧ seen.once = once) :
    after.Stands id operation code once := by
  obtain same | run := grows.callback _ _ view
  · exact ⟨seen, same, is⟩
  · exact ⟨seen.run, run, is⟩

section
variable {perform : Action ω → Run ω Answer} (code : ∀ action, Runs host .code (perform action))
variable {operation : Operation} {number : CodeId} {notice : Notice} {result : Unit}

include code in
theorem runAtOnce_told (history : machine.History)
    (h : runAtOnce host perform operation number notice machine = some (result, after)) :
    (∃ inner, after.journal = inner ++ .callback machine.callbacks.length number notice machine.loops ::
        machine.journal ∧ startCount machine.callbacks.length inner = 0) ∧
      after.Stands machine.callbacks.length operation number true := by
  let callback : Callback := { operation, code := number, once := true, spent := true }
  have known : (machine.withCallback callback).callback? machine.callbacks.length = some callback := by
    simp [callback?, withCallback]
  obtain ⟨inner, trace⟩ := runCode_told code (history.coherent.change (.create rfl)) known h
  have view : ((machine.withCallback callback).told machine.callbacks.length number notice).view?
      machine.callbacks.length = some callback.uncounted := by
    rw [view?_told, view?_of_callback? known]
  have stands := stands_of_grows view trace.changes.grows ⟨rfl, rfl, rfl⟩
  refine ⟨⟨inner, trace.changes.journal, ?_⟩, stands⟩
  obtain ⟨seen, present, -, -, once⟩ := stands
  have whole : Trace host .code _ machine after := .atOnce rfl trace
  have most := startCount_le_one_of_once (whole.tallied history trivial) present once
  rw [startCount, List.countP_append, List.countP_singleton, if_pos (isStart_self ..)] at most
  rw [startCount]
  omega

theorem await_registers (host : Host ω) (loop : LoopId) (socket : SocketId) (interest : Interest)
    (once : Bool) (operation : Operation) (number : CodeId) (machine : Machine ω) :
    ∃ closed, Closing closed ∧
      (await host loop socket interest once operation number machine).2.journal = closed ++
        .loop loop (.registered ⟨(machine.socketAt socket).descriptor, interest, machine.callbacks.length,
          once⟩) :: machine.journal ∧
      (loop < machine.loops.length →
        ⟨(machine.socketAt socket).descriptor, interest, machine.callbacks.length, once⟩ ∈
          (await host loop socket interest once operation number machine).2.entries loop) ∧
      (await host loop socket interest once operation number machine).2.Stands machine.callbacks.length
        operation number once := by
  let callback : Callback := { operation, code := number, once }
  let enrolled := machine.enrolled loop (machine.socketAt socket).descriptor interest callback
  let old := (machine.loopAt loop).registry.lookup? (machine.socketAt socket).descriptor
  have last : (await host loop socket interest once operation number machine).2 =
      (releaseOld host old enrolled).2 := rfl
  obtain ⟨closed, closing, journal⟩ := closes_releaseOld host old enrolled
  obtain ⟨events, released⟩ := quietly_releaseOld host old enrolled
  rw [last]
  refine ⟨closed, closing, journal, fun known => ?_, ?_⟩
  · have fresh : (enrolled.loopAt loop).registry = (machine.loopAt loop).registry.insert
        (machine.placeFor (machine.socketAt socket).descriptor interest callback) :=
      (registry_updateRegistry (machine.withCallback callback) loop loop _ _).trans (if_pos ⟨rfl, known⟩)
    rw [Machine.entries, released.registry, fresh]
    exact Registry.mem_insert_self _ _
  · exact stands_of_grows (view?_placeFor machine loop _ interest callback) released.grows ⟨rfl, rfl, rfl⟩

variable {request : AsyncRequest} {socket : SocketId} {interest : Interest} {calls : List Event}

theorem begins_of_await (attempt : Attempts (machine.socketAt socket).isOpen
      (machine.socketAt socket).descriptor request calls none)
    (same : middle.journal = calls ++ machine.journal ∧ middle.callbacks = machine.callbacks ∧
      middle.loops = machine.loops ∧ middle.sockets = machine.sockets)
    (h : ((await host loop socket interest true operation number : Step ω Unit) : Run ω Unit) middle =
      some (result, after)) :
    Begins machine after loop socket request interest number ∧
      after.Stands machine.callbacks.length operation number true := by
  obtain ⟨journal, callbacks, loops, sockets⟩ := same
  have here : middle.socketAt socket = machine.socketAt socket := by simp only [socketAt, sockets]
  obtain ⟨closed, closing, registered, present, stands⟩ :=
    await_registers host loop socket interest true operation number middle
  have last : (await host loop socket interest true operation number middle).2 = after :=
    congrArg Prod.snd (Option.some.inj h)
  rw [last, here, callbacks, journal] at registered
  rw [last, here, callbacks, loops] at present
  rw [last, callbacks] at stands
  exact ⟨.registered attempt registered closing present, stands⟩

include code in
theorem begins_of_told (history : machine.History) (attempt : Attempts (machine.socketAt socket).isOpen
      (machine.socketAt socket).descriptor request calls (some notice))
    (changes : Changes calls machine middle)
    (same : middle.callbacks = machine.callbacks ∧ middle.loops = machine.loops)
    (h : runAtOnce host perform operation number notice middle = some (result, after)) :
    Begins machine after loop socket request interest number ∧
      after.Stands machine.callbacks.length operation number true := by
  obtain ⟨callbacks, loops⟩ := same
  obtain ⟨⟨inner, told, once⟩, stands⟩ := runAtOnce_told code (history.changes changes) h
  rw [callbacks] at once stands
  rw [callbacks, loops, changes.journal] at told
  exact ⟨.atOnce attempt told once, stands⟩

include code in
theorem connect_begins {address : Address} (history : machine.History)
    (h : startAsync host perform loop socket (.connect address number) machine = some (result, after)) :
    Begins machine after loop socket (.connect address number) Interest.write number ∧
      after.Stands machine.callbacks.length (.connect socket) number true := by
  rw [startAsync, run_get] at h
  dsimp only at h
  rw [run_lift] at h
  cases isOpen : (machine.socketAt socket).isOpen with
  | false =>
    have refused : onSocket socket (·.connect (kernel host) address) machine =
        (.error .socketClosed, machine) :=
      call_shut host machine isOpen (.connect · address.encode) (·.outcome (·.orElse .connectFailed))
    rw [refused] at h
    exact begins_of_told code history (.connectShut isOpen) (.refl machine) ⟨rfl, rfl⟩ h
  | true =>
    let call := Syscall.connect (machine.socketAt socket).descriptor address.encode
    have called : onSocket socket (·.connect (kernel host) address) machine =
        ((machine.reply host call).outcome (·.orElse .connectFailed), machine.called host call) :=
      call_open host machine isOpen (.connect · address.encode) (·.outcome (·.orElse .connectFailed))
    have changes := (Change.quiet (@quiet_called ω host machine call fun _ => rfl)).once
    rw [called] at h
    generalize answer : (machine.reply host call).outcome (·.orElse .connectFailed) = outcome at h
    by_cases pending : outcome = .error .wouldBlock
    · subst pending
      have same : (machine.called host call).journal =
          [.syscall call (machine.reply host call)] ++ machine.journal := rfl
      exact begins_of_await (.connecting isOpen answer) ⟨same, rfl, rfl, rfl⟩ h
    · have told : runAtOnce host perform (.connect socket) number (.connected outcome)
          (machine.called host call) = some (result, after) := by
        cases outcome with
        | ok done => exact h
        | error failure =>
          cases failure with
          | wouldBlock => exact absurd rfl pending
          | _ => exact h
      subst answer
      exact begins_of_told code history (.connected isOpen pending) changes ⟨rfl, rfl⟩ told

include code in
/-- An operation that is told about once begins as it should. -/
theorem startAsync_begins (history : machine.History)
    (single : request.single? socket = some (operation, interest, number))
    (h : startAsync host perform loop socket request machine = some (result, after)) :
    Begins machine after loop socket request interest number ∧
      after.Stands machine.callbacks.length operation number true := by
  cases request with
  | accept keep number => cases single
  | cancel => cases single
  | connect address number =>
    cases single
    exact connect_begins code history h
  | send data number =>
    cases single
    rw [startAsync, run_get] at h
    dsimp only at h
    split at h
    · next opened => exact begins_of_await (.sending opened) ⟨rfl, rfl, rfl, rfl⟩ h
    · next shut =>
      exact begins_of_told code history (.sendShut (Bool.eq_false_iff.mpr shut)) (.refl machine) ⟨rfl, rfl⟩ h
  | recv buffer number =>
    cases single
    rw [startAsync, run_get] at h
    dsimp only at h
    split at h
    · next opened => exact begins_of_await (.receiving opened) ⟨rfl, rfl, rfl, rfl⟩ h
    · next shut =>
      exact begins_of_told code history (.recvShut (Bool.eq_false_iff.mpr shut)) (.refl machine) ⟨rfl, rfl⟩ h

end

structure DeliversOnce (host : Host ω) (machine : Machine ω) : Prop where
  -- The call tells a result at once, or makes one registration.
  begins : ∀ (before : Machine ω) budget loop socket request operation interest code after, before.History →
    request.single? socket = some (operation, interest, code) →
    startAsync host (perform host budget) loop socket request before = some ((), after) →
      Begins before after loop socket request interest code ∧
        after.Stands before.callbacks.length operation code true
  atMostOnce : ∀ id operation code, machine.Stands id operation code true → startCount id machine.journal ≤ 1
  -- What is told at once is never registered.
  notBoth : ∀ late id code notice found early, machine.journal = late ++ .callback id code notice found :: early →
    ∀ loop registration, .loop loop (.registered registration) ∈ late → registration.callback ≠ id
  -- What is told later is told in a dispatch, with what the operation had to tell.
  told : ∀ loop registration operation code, machine.Stands registration.callback operation code true →
    ∀ late number notice found early, .loop loop (.registered registration) ∈ early →
      machine.journal = late ++ .callback registration.callback number notice found :: early →
      number = code ∧ ∃ calls depth ready earlier isOpen,
        early = calls ++
          .loop loop (.dispatched depth registration.callback registration.descriptor ready) ::
          .loop loop (.retired registration.descriptor registration.callback) :: earlier ∧
        (isOpen = false → ∃ socket, operation.socket? = some socket ∧ Shuts socket early) ∧
        Responds machine loop registration ready isOpen operation calls (some notice)
  -- As long as it is registered it was not told.
  pending : ∀ loop, ∀ registration ∈ machine.entries loop, registration.once = true →
    startCount registration.callback machine.journal = 0
  -- A registration that nothing takes away waits, or else it was told.
  waits : ∀ loop registration late early, registration.once = true → loop < machine.loops.length →
    machine.journal = late ++ .loop loop (.registered registration) :: early →
    (∀ event, .loop loop event ∈ late → event.takesAway registration.descriptor = false) →
      registration ∈ machine.entries loop ∨ startCount registration.callback machine.journal = 1
  -- The first cycle that finds it ready tells it.
  ends : ∀ (before : Machine ω) budget loop registration ready timeout count after, before.History →
    registration ∈ before.entries loop → registration.once = true →
    (registration, ready) ∈ readyOf (before.entries loop) (pollReply host before loop timeout) →
    runOnce host (perform host budget) loop timeout before = some (count, after) →
    (∀ event, .loop loop event ∈ after.since before → event.takesAway registration.descriptor = false) →
      startCount registration.callback (after.since before) = 1

theorem Reachable.history (h : Reachable host machine) : machine.History := by
  obtain ⟨outside, trace, -⟩ := h.trace
  exact ⟨outside, trace.changes⟩

/-- A registration for a single dispatch that nothing takes away is still there, or its code started. -/
theorem waits_or_told (h : Reachable host machine) (once : registration.once = true)
    (known : loop < machine.loops.length)
    (split : machine.journal = late ++ .loop loop (.registered registration) :: early)
    (kept : ∀ event, .loop loop event ∈ late → event.takesAway registration.descriptor = false) :
    registration ∈ machine.entries loop ∨ startCount registration.callback machine.journal = 1 := by
  obtain ⟨outside, trace, -⟩ := h.trace
  have made : .loop loop (.registered registration) ∈ machine.journal := by simp [split]
  obtain ⟨seen, view, single⟩ := (h.history.found made).known
  have most := startCount_le_one_of_once (trace.tallied (.new outside) trivial) view (single.trans once)
  have retires (after before : List Event) (inside : late = after ++ .loop loop
      (.retired registration.descriptor registration.callback) :: before) :
      Retires loop registration.descriptor registration.callback
        (before ++ .loop loop (.registered registration) :: early) after := by
    have whole : machine.journal = after ++ .loop loop (.retired registration.descriptor
        registration.callback) :: (before ++ .loop loop (.registered registration) :: early) := by
      rw [split, inside, List.append_assoc, List.cons_append]
    simpa using trace.retires (.new outside) trivial whole
  obtain ⟨stay, stands, rfl⟩ : ∃ stay, stay? loop registration.descriptor
      (.loop loop (.registered registration) :: early) = some stay ∧ stay.registration = registration := by
    rw [stay?, if_pos rfl, LoopEvent.update, if_pos rfl]
    exact ⟨_, rfl, rfl⟩
  obtain ⟨-, still⟩ | started := stands_or_starts stands kept retires
  · exact .inl (mem_of_stay? h.history known (split ▸ still))
  · right
    refine Nat.le_antisymm most ?_
    rw [split, startCount, List.countP_append]
    exact Nat.le_add_right_of_le started

theorem reachable_deliversOnce (h : Reachable host machine) : DeliversOnce host machine := by
  obtain ⟨outside, trace, -⟩ := h.trace
  have history := h.history
  have accounted := trace.accounted (accounted_new outside) trivial
  have tallied := trace.tallied (.new outside) trivial
  have served := trace.served (.new outside) trivial (.refl machine) trivial
  constructor
  case begins =>
    exact fun before budget loop socket request operation interest code after history single started =>
      startAsync_begins (runs_perform budget) history single started
  case atMostOnce =>
    rintro id operation code ⟨seen, view, -, -, once⟩
    exact startCount_le_one_of_once tallied view once
  case notBoth =>
    intro late id code notice found early split loop registration made same
    have launches := accounted.launches
    obtain ⟨since, between, rfl⟩ := List.append_of_mem made
    rw [split, List.append_assoc] at launches
    refine launches.at_split code notice found ?_
    rw [same]
    simp
  case told =>
    rintro loop registration operation code ⟨seen, view, rfl, rfl, once⟩ late number notice found early made split
    rw [split] at served
    obtain ⟨calls, depth, ready, earlier, seen', isOpen, dispatched, view', shut, responds⟩ :=
      served.at_split loop registration made rfl
    cases view.symm.trans view'
    obtain ⟨current, started, code, -⟩ := accounted.started registration.callback number notice found
      (by simp [split])
    cases view.symm.trans started
    have made' : .loop loop (.registered registration) ∈ machine.journal := by simp [split, made]
    obtain ⟨known, only, single⟩ := (history.found made').known
    cases view.symm.trans only
    rw [retirement, if_pos (single.symm.trans once)] at dispatched
    exact ⟨code.symm, calls, depth, ready, earlier, isOpen, dispatched, shut, responds⟩
  case pending =>
    intro loop registration mem once
    obtain ⟨seen, view, single, fresh, -⟩ := history.coherent.known loop registration mem
    have none := tallied.atMost _ seen view (single.trans once)
    rw [fresh, Bool.toNat_false, Nat.le_zero] at none
    exact (Nat.add_eq_zero_iff.mp none).1
  case waits =>
    exact fun loop registration late early once known split kept => waits_or_told h once known split kept
  case ends =>
    exact fun before budget loop registration ready timeout count after history mem once listed cycle kept =>
      cycle_starts_once history mem once listed kept cycle

def refusingKernel : Kernel (Option Role)
  | .socket .. => pure { result := 6 }
  | .connect .. => pure { result := -1, number := 115 }
  | .getOption .. => pure { value := 111 }
  | .poll watches _ => pure { result := watches.length, events := watches.map fun _ => Interest.pollError }
  | _ => pure {}

def refusingHost : Host (Option Role) := plainHost refusingKernel fun _ _ _ _ => .done

def connectOnce : List (Action (Option Role)) :=
  [.loop (.create 0 {}), .socket (.create "client" .v4 true),
    .socket (.async "client" 0 (.connect (.v4 0 80) 0)), .loop (.request 0 (.runOnce none))]

def refusals (events : List Event) : Nat :=
  events.countP fun
    | .callback _ _ (.connected (.error .connectionRefused)) _ => true
    | _ => false

theorem reachable_deliversOnce_refused :
    ∃ machine, Reachable refusingHost machine ∧ refusals machine.journal = 1 ∧
      startCount 0 machine.journal = 1 ∧ DeliversOnce refusingHost machine := by
  have ran : (performAll refusingHost 2 connectOnce { outside := none }).map
      (fun machine => decide (refusals machine.journal = 1 ∧ startCount 0 machine.journal = 1)) =
        some true := by decide +kernel
  obtain ⟨machine, ran, counts⟩ := Option.map_eq_some_iff.mp ran
  have reachable := (Reachable.new none).performAll ran
  obtain ⟨refused, started⟩ := of_decide_eq_true counts
  exact ⟨machine, reachable, refused, started, reachable_deliversOnce reachable⟩

end Machine
end NetReactor
