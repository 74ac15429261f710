import NetReactor.Proofs.Loop.Walk
import NetReactor.Proofs.Machine.Actions
import NetReactor.Session.Plaintext
/-!
A cycle follows what it found when it started. The callbacks in it may register, replace, remove, stop and
drive other loops as they like, and the kernel may answer the poll call as it likes.
-/
namespace NetReactor.Machine

variable {ω : Type} {host : Host ω} {machine after : Machine ω} {loop : LoopId}
variable {timeout : Option Duration} {budget count : Nat} {events : List Event}

def since (after before : Machine ω) : List Event :=
  after.journal.take (after.journal.length - before.journal.length)

theorem since_eq (h : after.journal = events ++ machine.journal) : after.since machine = events := by
  rw [since, h, List.length_append, Nat.add_sub_cancel, List.take_left]

theorem since_append {early late : List Event} {before middle after : Machine ω}
    (h : middle.journal = early ++ before.journal) (h' : after.journal = late ++ middle.journal) :
    after.since before = after.since middle ++ middle.since before := by
  have all : after.journal = (late ++ early) ++ before.journal := by rw [h', h, List.append_assoc]
  rw [since_eq all, since_eq h', since_eq h]

def readyOf (found : List Registration) (reply : Reply) : List (Registration × Interest) :=
  (found.mapIdx fun position registration => (registration, maskAt reply position)).filter
    fun pair => !pair.2.isEmpty

theorem map_reportedTo (found : List Registration) (reply : Reply) :
    ((reportedTo found reply).filter (·.1.isReady)).map (fun pair => (pair.2, pair.1.returned)) =
      readyOf found reply := by
  have pairs : (reportedTo found reply).map (fun pair => (pair.2, pair.1.returned)) =
      found.mapIdx fun position registration => (registration, maskAt reply position) := by
    exact List.ext_getElem (by simp [reportedTo]) fun _ _ _ => by simp [reportedTo]
  rw [readyOf, ← pairs, List.filter_map]
  rfl

theorem mem_readyOf {found : List Registration} {reply : Reply} {pair : Registration × Interest}
    (mem : pair ∈ readyOf found reply) : pair.1 ∈ found := by
  rw [← map_reportedTo] at mem
  obtain ⟨listed, reported, rfl⟩ := List.mem_map.mp mem
  exact (mem_reportedTo (List.mem_of_mem_filter reported)).1

/-- A cycle runs what is ready, unless it is being run already. -/
theorem map_runs (machine : Machine ω) (found : List Registration) (reply : Reply) :
    ((reportedTo found reply).filter (machine.runs ·)).map (fun pair => (pair.2, pair.1.returned)) =
      (readyOf found reply).filter fun pair => decide (pair.1.callback ∉ machine.executing) := by
  rw [← map_reportedTo, List.filter_map, List.filter_filter]
  congr 2
  funext pair
  simp [runs, Bool.and_comm]

/-- After a poll call that failed nothing is ready. -/
theorem readyOf_eq_nil (found : List Registration) {reply : Reply} (h : reply.failed = true) :
    readyOf found reply = [] := by
  have h : reply.result ≤ 0 := by
    simp only [Reply.failed, decide_eq_true_eq] at h
    omega
  apply List.filter_eq_nil_iff.mpr
  intro pair mem
  obtain ⟨position, lt, rfl⟩ := List.mem_mapIdx.mp mem
  simp [maskAt, Int.not_lt_of_ge h, Interest.isEmpty, Interest.empty]

theorem isReady_eq_false {found : List Registration} {reply : Reply}
    (idle : reply.failed = true ∨ readyOf found reply = []) :
    ∀ pair ∈ reportedTo found reply, pair.1.isReady = false := by
  have none := idle.elim (readyOf_eq_nil _) id
  rw [← map_reportedTo, List.map_eq_nil_iff, List.filter_eq_nil_iff] at none
  exact fun pair mem => Bool.eq_false_iff.mpr (none pair mem)

/-- The found callbacks that start their code whenever they are ready: all but background accepts. -/
def tellers (machine : Machine ω) (loop : LoopId) : List CallbackId :=
  ((machine.entries loop).map (·.callback)).filter fun id =>
    (machine.view? id).all fun seen => !seen.operation.accepts

theorem mem_of_mem_tellers {id : CallbackId} (h : id ∈ machine.tellers loop) :
    ∃ registration ∈ machine.entries loop, registration.callback = id :=
  List.mem_map.mp (List.mem_of_mem_filter h)

theorem accepts_of_mem_tellers {id : CallbackId} {seen : Callback} (h : id ∈ machine.tellers loop)
    (view : machine.view? id = some seen) : seen.operation.accepts = false := by
  have tells := List.of_mem_filter h
  rw [view] at tells
  simpa using tells

structure FollowsSnapshot (host : Host ω) (loop : LoopId) (timeout : Option Duration)
    (machine : Machine ω) (count : Nat) (after : Machine ω) : Prop where
  journal : after.journal = after.since machine ++ machine.journal
  -- One poll call for all that was found comes first.
  polls : (after.since machine).getLast? =
    some (.syscall (pollCall (machine.entries loop) timeout) (pollReply host machine loop timeout))
  -- Exactly what is ready is dispatched, once each, in the order of the registrations.
  dispatches : dispatches loop (machine.snapshots.length + 1) (after.since machine) =
    (readyOf (machine.entries loop) (pollReply host machine loop timeout)).map
      fun pair => (pair.1.callback, pair.1.descriptor, pair.2)
  returns : count = (readyOf (machine.entries loop) (pollReply host machine loop timeout)).length
  -- The code of what is ready starts, once each, in that order.
  starts : Calm loop (machine.snapshots.length + 1) (after.since machine) →
    List.Forall₂ (StartFor machine)
      ((readyOf (machine.entries loop) (pollReply host machine loop timeout)).filter
        fun pair => decide (pair.1.callback ∈ machine.tellers loop))
      (starts (machine.tellers loop) (after.since machine))
  -- Nothing that is registered meanwhile is dispatched or started.
  later : Calm loop (machine.snapshots.length + 1) (after.since machine) →
    ∀ registration, .loop loop (.registered registration) ∈ after.since machine →
      ¬ Dispatched (after.since machine) registration.callback ∧
        ∀ code notice loops,
          .callback registration.callback code notice loops ∉ after.since machine
  -- If the poll call fails or nothing is ready, no registration changes and no code runs.
  nothing : (pollReply host machine loop timeout).failed = true ∨
      readyOf (machine.entries loop) (pollReply host machine loop timeout) = [] →
    count = 0 ∧ (∀ other, (after.loopAt other).registry = (machine.loopAt other).registry) ∧
      ∀ event ∈ after.since machine, event.isOutward = true

theorem Walk.nothing {entries : List (PollEntry × Registration)} {before : Machine ω}
    (h : Walk host loop entries count events before after)
    (quiet : ∀ pair ∈ entries, pair.1.isReady = false) : count = 0 ∧ events = [] ∧ after = before := by
  induction h with
  | nil => exact ⟨rfl, rfl, rfl⟩
  | cons h _ ih =>
    obtain ⟨zero, none, same⟩ := ih fun pair mem => quiet pair (List.mem_cons_of_mem _ mem)
    have idle := quiet _ (List.mem_cons_self ..)
    cases h with
    | unready => exact ⟨by rw [zero]; rfl, by rw [none]; rfl, same⟩
    | busy ready =>
      rw [ready] at idle
      cases idle
    | ran ready =>
      rw [ready] at idle
      cases idle

structure CycleParts (host : Host ω) (loop : LoopId) (timeout : Option Duration) (machine : Machine ω)
    (count : Nat) (after : Machine ω) (events released : List Event) (inside : Machine ω) : Prop where
  nonempty : machine.entries loop ≠ []
  walk : Walk host loop (reportedTo (machine.entries loop) (pollReply host machine loop timeout)) count
    events (machine.polled host loop timeout) inside
  release : Quiet released inside { after with snapshots := inside.snapshots }
  last : after.snapshots = machine.snapshots

namespace CycleParts

variable {released : List Event} {inside : Machine ω}
variable (parts : CycleParts host loop timeout machine count after events released inside)
include parts

theorem trace : Trace host (.cycle loop (machine.entries loop)) events (machine.polled host loop timeout)
    inside :=
  parts.walk.trace fun _ mem => (mem_reportedTo mem).1

theorem polling : Changes [.syscall (pollCall (machine.entries loop) timeout)
    (pollReply host machine loop timeout)] machine (machine.polled host loop timeout) :=
  changes_polled host parts.nonempty timeout

omit parts in
theorem depth (host : Host ω) (machine : Machine ω) (loop : LoopId) (timeout : Option Duration) :
    (machine.polled host loop timeout).snapshots.length = machine.snapshots.length + 1 :=
  rfl

theorem journal : after.journal = (released ++ (events ++ [.syscall
    (pollCall (machine.entries loop) timeout) (pollReply host machine loop timeout)])) ++
      machine.journal := by
  rw [show after.journal = _ from parts.release.journal, parts.trace.changes.journal,
    parts.polling.journal]
  simp

theorem since : after.since machine = released ++ (events ++ [.syscall
    (pollCall (machine.entries loop) timeout) (pollReply host machine loop timeout)]) :=
  since_eq parts.journal

theorem dispatches_eq :
    dispatches loop (machine.snapshots.length + 1) (after.since machine) =
        ((readyOf (machine.entries loop) (pollReply host machine loop timeout)).filter
          fun pair => decide (pair.1.callback ∉ machine.executing)).map
          (fun pair => (pair.1.callback, pair.1.descriptor, pair.2)) ∧
      count = ((readyOf (machine.entries loop) (pollReply host machine loop timeout)).filter
        fun pair => decide (pair.1.callback ∉ machine.executing)).length := by
  have walk := parts.walk.dispatches_eq
  rw [depth] at walk
  have poll : Machine.dispatches loop (machine.snapshots.length + 1)
      [.syscall (pollCall (machine.entries loop) timeout) (pollReply host machine loop timeout)] = [] :=
    rfl
  rw [parts.since, dispatches_append, dispatches_append, poll, walk.1,
    dispatches_outward parts.release.outward, ← map_runs, List.map_map, List.length_map,
    List.nil_append, List.append_nil]
  exact ⟨rfl, walk.2⟩

theorem dispatches (idle : ∀ old ∈ machine.entries loop, old.callback ∉ machine.executing) :
    dispatches loop (machine.snapshots.length + 1) (after.since machine) =
        (readyOf (machine.entries loop) (pollReply host machine loop timeout)).map
          (fun pair => (pair.1.callback, pair.1.descriptor, pair.2)) ∧
      count = (readyOf (machine.entries loop) (pollReply host machine loop timeout)).length := by
  have all : (readyOf (machine.entries loop) (pollReply host machine loop timeout)).filter
      (fun pair => decide (pair.1.callback ∉ machine.executing)) =
        readyOf (machine.entries loop) (pollReply host machine loop timeout) :=
    List.filter_eq_self.mpr fun pair mem => decide_eq_true (idle _ (mem_readyOf mem))
  have some := parts.dispatches_eq
  rwa [all] at some

theorem starts (coherent : machine.Coherent)
    (idle : ∀ old ∈ machine.entries loop, old.callback ∉ machine.executing)
    (calm : Calm loop (machine.snapshots.length + 1) (after.since machine)) :
    List.Forall₂ (StartFor machine)
      ((readyOf (machine.entries loop) (pollReply host machine loop timeout)).filter
        fun pair => decide (pair.1.callback ∈ machine.tellers loop))
      (starts (machine.tellers loop) (after.since machine)) := by
  have polling := parts.polling
  have inner : events ⊆ after.since machine := by
    rw [parts.since]
    exact List.subset_append_of_subset_right _ (List.subset_append_left _ _)
  have told : (machine.polled host loop timeout).view? = machine.view? := rfl
  have names : (reportedTo (machine.entries loop) (pollReply host machine loop timeout)).map
      (fun pair => pair.2.callback) = (machine.entries loop).map (·.callback) := by
    conv_rhs => rw [← map_snd_reportedTo (machine.entries loop) (pollReply host machine loop timeout)]
    rw [List.map_map]
    rfl
  have walk : List.Forall₂ _ _ (Machine.starts (machine.tellers loop) events) := parts.walk.starts
    (fun id mem => by
      obtain ⟨old, mem', rfl⟩ := mem_of_mem_tellers mem
      exact ⟨old, rfl, (coherent.found mem').changes polling⟩)
    (fun pair mem => by
      have mem' := (mem_reportedTo mem).1
      obtain ⟨seen, view, -, fresh, -⟩ := coherent.known loop pair.2 mem'
      exact ⟨(coherent.found mem').changes polling, idle pair.2 mem', seen, by rw [told, view], fresh,
        fun listed => accepts_of_mem_tellers listed view⟩)
    (by rw [names]; exact coherent.nodup_callbacks loop)
    (by rw [depth]; exact calm.mono inner)
  have quiet : Machine.starts (machine.tellers loop)
      [.syscall (pollCall (machine.entries loop) timeout) (pollReply host machine loop timeout)] = [] :=
    rfl
  rw [parts.since, starts_append, starts_append, quiet, starts_outward parts.release.outward,
    List.nil_append, List.append_nil, ← map_reportedTo, List.filter_map, List.filter_filter,
    List.forall₂_map_left_iff]
  exact walk.imp fun pair start h => h.earlier polling.grows

theorem later (coherent : machine.Coherent)
    (calm : Calm loop (machine.snapshots.length + 1) (after.since machine)) {registration : Registration}
    (mem : .loop loop (.registered registration) ∈ after.since machine) :
    ¬ Dispatched (after.since machine) registration.callback ∧
      ∀ code notice loops,
        .callback registration.callback code notice loops ∉ after.since machine := by
  have polling := parts.polling
  rw [parts.since] at mem calm ⊢
  have inner : events ⊆ released ++ (events ++ [.syscall (pollCall (machine.entries loop) timeout)
      (pollReply host machine loop timeout)]) :=
    List.subset_append_of_subset_right _ (List.subset_append_left _ _)
  have mem' : .loop loop (.registered registration) ∈ events := by
    simpa [parts.release.no_loop] using mem
  obtain ⟨never, silent⟩ := not_dispatched_later parts.trace (coherent.changes polling)
    (fun old found => (coherent.found found).changes polling)
    (by rw [depth]; exact calm.mono inner) mem'
  refine ⟨?_, fun code notice loops started => silent code notice loops ?_⟩
  · rintro ⟨other, deep, descriptor, ready, dispatched⟩
    exact never ⟨other, deep, descriptor, ready, by simpa [parts.release.no_loop] using dispatched⟩
  · simpa [parts.release.no_callback] using started

theorem nothing
    (idle : (pollReply host machine loop timeout).failed = true ∨
      readyOf (machine.entries loop) (pollReply host machine loop timeout) = []) :
    count = 0 ∧ (∀ other, (after.loopAt other).registry = (machine.loopAt other).registry) ∧
      ∀ event ∈ after.since machine, event.isOutward = true := by
  have quiet := isReady_eq_false idle
  obtain ⟨zero, empty, same⟩ := parts.walk.nothing quiet
  have release := parts.release
  refine ⟨zero, fun other => ?_, fun event mem => ?_⟩
  · rw [show (after.loopAt other).registry = _ from release.registry other, same]
    exact (quiet_setBuffer machine loop []).registry other
  · rw [parts.since, empty] at mem
    cases List.mem_append.mp mem with
    | inl late => exact release.outward event late
    | inr poll =>
      cases List.mem_singleton.mp poll
      rfl

theorem follows (coherent : machine.Coherent)
    (idle : ∀ old ∈ machine.entries loop, old.callback ∉ machine.executing) :
    FollowsSnapshot host loop timeout machine count after where
  journal := by rw [parts.since]; exact parts.journal
  polls := by rw [parts.since]; simp
  dispatches := (parts.dispatches idle).1
  returns := (parts.dispatches idle).2
  starts := parts.starts coherent idle
  later calm _ mem := parts.later coherent calm mem
  nothing := parts.nothing

end CycleParts

theorem dispatchAll_isSome {perform : Action ω → Run ω Answer}
    (code : ∀ action, Runs host .code (perform action)) {entries : List (PollEntry × Registration)}
    (named : ∀ pair ∈ entries, pair.1.descriptor = pair.2.descriptor)
    (coherent : machine.Coherent) (found : ∀ pair ∈ entries, machine.Found loop pair.2)
    (ends : ∀ pair ∈ entries, ∀ middle : Machine ω, ∀ ready, middle.Coherent →
      (fire host perform loop pair.2.callback pair.2.descriptor ready middle).isSome = true) :
    (dispatchAll host perform loop entries machine).isSome = true := by
  induction entries generalizing machine with
  | nil => rfl
  | cons pair rest ih =>
    have here := List.mem_cons_self (a := pair) (l := rest)
    have first : (dispatch host perform loop pair.1 pair.2 machine).isSome = true := by
      have begun := changes_announced machine loop pair.2 pair.1.returned
      rw [dispatch_eq (named pair here)]
      split
      · rfl
      · split
        · rfl
        · rw [Option.isSome_map]
          exact ends pair here _ _ (coherent.changes begun)
    obtain ⟨⟨ran, middle⟩, dispatched⟩ := Option.isSome_iff_exists.mp first
    obtain ⟨events, dispatch⟩ :=
      dispatch_inv code (named pair here) coherent (found pair here) dispatched
    have changes := (dispatch.trace (List.mem_singleton.mpr rfl)).changes
    have others := ih (fun other mem => named other (List.mem_cons_of_mem _ mem))
      (coherent.changes changes)
      (fun other mem => (found other (List.mem_cons_of_mem _ mem)).changes changes)
      (fun other mem => ends other (List.mem_cons_of_mem _ mem))
    rw [dispatchAll_cons, dispatched, Option.bind_some, Option.isSome_map]
    exact others

/-- A cycle comes to an end if the callbacks that it found do. -/
theorem runOnce_isSome {perform : Action ω → Run ω Answer}
    (code : ∀ action, Runs host .code (perform action)) (coherent : machine.Coherent)
    (ends : ∀ registration ∈ machine.entries loop, ∀ middle : Machine ω, ∀ ready, middle.Coherent →
      (fire host perform loop registration.callback registration.descriptor ready middle).isSome = true)
    (timeout : Option Duration) : (runOnce host perform loop timeout machine).isSome = true := by
  by_cases nonempty : machine.entries loop = []
  · rw [runOnce_empty nonempty]
    rfl
  · have polling := changes_polled host nonempty timeout
    rw [runOnce_eq nonempty, Option.isSome_map]
    exact dispatchAll_isSome code (fun _ mem => (mem_reportedTo mem).2) (coherent.changes polling)
      (fun _ mem => (coherent.found (mem_reportedTo mem).1).changes polling)
      fun pair mem => ends pair.2 (mem_reportedTo mem).1

/-- A cycle of a loop whose callbacks are not being run. Without registrations it makes no call and changes
nothing. Otherwise it comes to an end if its callbacks do, and then it has done what it found ready, in order,
whatever its callbacks registered, replaced or removed meanwhile. -/
theorem cycle_follows_snapshot (host : Host ω) (budget : Nat) (loop : LoopId)
    (timeout : Option Duration) (machine : Machine ω) (coherent : machine.Coherent)
    (idle : ∀ registration ∈ machine.entries loop, registration.callback ∉ machine.executing) :
    (machine.entries loop = [] →
      runOnce host (perform host budget) loop timeout machine = some (0, machine)) ∧
    ((∀ registration ∈ machine.entries loop, ∀ middle : Machine ω, ∀ ready, middle.Coherent →
        (fire host (perform host budget) loop registration.callback registration.descriptor ready
          middle).isSome = true) →
      (runOnce host (perform host budget) loop timeout machine).isSome = true) ∧
    (machine.entries loop ≠ [] → ∀ count after,
      runOnce host (perform host budget) loop timeout machine = some (count, after) →
        FollowsSnapshot host loop timeout machine count after) := by
  have code : ∀ action, Runs host .code (perform host budget action) := runs_perform budget
  refine ⟨fun empty => runOnce_empty empty timeout,
    fun ends => runOnce_isSome code coherent ends timeout, fun nonempty count after h => ?_⟩
  obtain ⟨events, inside, released, walk, release, last⟩ := runOnce_inv code nonempty coherent h
  have parts : CycleParts host loop timeout machine count after events released inside :=
    ⟨nonempty, walk, release, last⟩
  exact parts.follows coherent idle

def plainHost (kernel : Kernel (Option Role))
    (code : CodeId → Nat → Notice → Option Role → Program (Option Role)) : Host (Option Role) where
  kernel := kernel
  channel _ := Plaintext.channel
  wire _ :=
    { send := fun data => pure (.ok data.length)
      recv := fun buffer => pure (.ok 0, buffer)
      close := pure () }
  code := code

def readableKernel : Kernel (Option Role)
  | .poll watches _ => pure { result := watches.length, events := watches.map fun _ => 1 }
  | _ => pure {}

def movingHost : Host (Option Role) :=
  plainHost readableKernel fun code _ _ _ =>
    if code = 0 then
      .perform "remove" (.loop (.request 0 (.remove 6))) fun _ =>
        .perform "add" (.loop (.request 0 (.add 7 Interest.read 2 false))) fun _ => .done
    else .done

def watcher (code : CodeId) : Callback := { operation := .watch, code, once := false }

theorem fits_watcher (machine : Machine ω) (code : CodeId) (descriptor : Descriptor) :
    machine.Fits (watcher code).operation descriptor := by
  intro socket needed
  cases needed

def twoWatchers : Machine (Option Role) :=
  let looped := (addLoop ({} : LoopSettings).build { outside := none, loopHandles := [(0, 0)] }).2
  (looped.enrolled 0 5 Interest.read (watcher 0)).enrolled 0 6 Interest.read (watcher 1)

theorem coherent_twoWatchers : twoWatchers.Coherent := by
  have named : ({ outside := none, loopHandles := [(0, 0)] } : Machine (Option Role)).Coherent :=
    (coherent_new none).change (.quiet (.of_same rfl rfl rfl rfl rfl rfl))
  have looped := named.change (.addLoop _ {})
  exact (looped.enrolled 0 _ rfl (fits_watcher _ 0 5)).enrolled 0 _ rfl (fits_watcher _ 1 6)

/-- The second watcher is still run when the first one has removed it. -/
theorem cycle_follows_snapshot_moving :
    twoWatchers.Coherent ∧
      (∀ registration ∈ twoWatchers.entries 0, registration.callback ∉ twoWatchers.executing) ∧
      ∃ count after,
        runOnce movingHost (perform movingHost 2) 0 none twoWatchers = some (count, after) ∧
          count = 2 ∧ Calm 0 1 (after.since twoWatchers) ∧
          FollowsSnapshot movingHost 0 none twoWatchers count after := by
  have idle : ∀ registration ∈ twoWatchers.entries 0,
      registration.callback ∉ twoWatchers.executing := fun _ _ => List.not_mem_nil
  have ran : (runOnce movingHost (perform movingHost 2) 0 none twoWatchers).map
      (fun run => (run.1, decide (Calm 0 1 (run.2.since twoWatchers)))) = some (2, true) := rfl
  obtain ⟨⟨count, after⟩, h, seen⟩ := Option.map_eq_some_iff.mp ran
  have seen := Prod.mk.inj seen
  have follows := (cycle_follows_snapshot movingHost 2 0 none twoWatchers coherent_twoWatchers
    idle).2.2 (List.cons_ne_nil _ _) count after h
  exact ⟨coherent_twoWatchers, idle, count, after, h, seen.1, of_decide_eq_true seen.2, follows⟩

end NetReactor.Machine
