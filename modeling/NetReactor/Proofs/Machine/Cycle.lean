import NetReactor.Proofs.Machine.Journal
import NetReactor.Proofs.Machine.Reaction
/-!
Cycles as traces. The list that a cycle goes through was read off before its first dispatch, so each of its
registrations is what the cycle found, whatever became of it since.
-/
namespace NetReactor.Machine

variable {ω : Type} {host : Host ω} {perform : Action ω → Run ω Answer}
variable {machine after : Machine ω} {loop : LoopId} {registration : Registration} {entry : PollEntry}
variable {events : List Event} {count : Nat}

/-- A dispatch in terms of the callback that it runs. -/
theorem dispatch_eq (named : entry.descriptor = registration.descriptor) :
    dispatch host perform loop entry registration machine =
      if entry.isReady = false then some (false, machine)
      else if registration.callback ∈ machine.executing then
        some (false, machine.retiring loop registration)
      else (fire host perform loop registration.callback registration.descriptor entry.returned
        (machine.announced loop registration entry.returned)).map fun run =>
          (true, run.2.note
            (.loop loop (.finished machine.snapshots.length registration.callback))) := by
  unfold dispatch
  cases ready : entry.isReady with
  | false => rfl
  | true =>
    have rest (machine' : Machine ω) (he : machine'.executing = machine.executing)
        (hn : machine'.snapshots = machine.snapshots) :
        (do
          let machine ← get
          if machine.executing.contains registration.callback then return false
          else
            let depth := machine.snapshots.length
            modify (·.note (.loop loop (.dispatched depth registration.callback entry.descriptor
              entry.returned)))
            fire host perform loop registration.callback entry.descriptor entry.returned
            modify (·.note (.loop loop (.finished depth registration.callback)))
            return true : Run ω Bool) machine' =
        if registration.callback ∈ machine.executing then some (false, machine')
        else (fire host perform loop registration.callback registration.descriptor entry.returned
          (machine'.note (.loop loop (.dispatched machine.snapshots.length registration.callback
            registration.descriptor entry.returned)))).map fun run =>
            (true, run.2.note
              (.loop loop (.finished machine.snapshots.length registration.callback))) := by
      rw [run_get, List.contains_eq_mem, he, hn, named]
      by_cases busy : registration.callback ∈ machine.executing
      · rw [if_pos (decide_eq_true busy), if_pos busy, run_pure]
      · rw [if_neg (by simpa using busy), if_neg busy, Option.map_eq_bind]
        rfl
    unfold announced retiring
    cases once : registration.once with
    | false => exact rest machine rfl rfl
    | true =>
      rw [← named] at rest ⊢
      exact rest (machine.updateRegistry loop (.retired entry.descriptor registration.callback)
        (·.retire entry.descriptor registration.callback)) rfl rfl

theorem dispatchAll_cons (pair : PollEntry × Registration) (rest : List (PollEntry × Registration)) :
    dispatchAll host perform loop (pair :: rest) machine =
      (dispatch host perform loop pair.1 pair.2 machine).bind fun first =>
        (dispatchAll host perform loop rest first.2).map fun run =>
          (first.1.toNat + run.1, run.2) := by
  simp only [Option.map_eq_bind]
  rfl

inductive Dispatch (host : Host ω) (loop : LoopId) (entry : PollEntry) (registration : Registration) :
    Bool → List Event → Machine ω → Machine ω → Prop
  | unready {machine : Machine ω} (quiet : entry.isReady = false) :
    Dispatch host loop entry registration false [] machine machine
  | busy {machine : Machine ω} (ready : entry.isReady = true)
    (executing : registration.callback ∈ machine.executing) :
    Dispatch host loop entry registration false (retirement loop registration) machine
      (machine.retiring loop registration)
  | ran {machine inside : Machine ω} {events : List Event} (ready : entry.isReady = true)
    (idle : registration.callback ∉ machine.executing)
    (reaction : Trace host (.reaction loop registration entry.returned) events
      (machine.announced loop registration entry.returned) inside) :
    Dispatch host loop entry registration true
      (.loop loop (.finished machine.snapshots.length registration.callback) :: (events ++
        (.loop loop (.dispatched machine.snapshots.length registration.callback
          registration.descriptor entry.returned) :: retirement loop registration)))
      machine (inside.note (.loop loop (.finished machine.snapshots.length registration.callback)))

inductive Walk (host : Host ω) (loop : LoopId) :
    List (PollEntry × Registration) → Nat → List Event → Machine ω → Machine ω → Prop
  | nil (machine : Machine ω) : Walk host loop [] 0 [] machine machine
  | cons {entry : PollEntry} {registration : Registration} {rest ran} {count : Nat}
    {early late first middle last}
    (h : Dispatch host loop entry registration ran early first middle)
    (h' : Walk host loop rest count late middle last) :
    Walk host loop ((entry, registration) :: rest) (ran.toNat + count) (late ++ early) first last

theorem Dispatch.trace {ran : Bool} {found : List Registration} (member : registration ∈ found)
    (h : Dispatch host loop entry registration ran events machine after) :
    Trace host (.cycle loop found) events machine after := by
  cases h with
  | unready => exact .quiet (.refl machine)
  | busy _ executing => exact .skip member executing
  | ran _ idle reaction => exact .dispatch member idle reaction

theorem Walk.trace {entries : List (PollEntry × Registration)} {found : List Registration}
    (member : ∀ pair ∈ entries, pair.2 ∈ found)
    (h : Walk host loop entries count events machine after) :
    Trace host (.cycle loop found) events machine after := by
  induction h with
  | nil machine => exact .quiet (.refl machine)
  | cons h _ ih =>
    have early := h.trace (member _ (List.mem_cons_self ..))
    exact .seq early (ih fun pair mem => member pair (List.mem_cons_of_mem _ mem))

section
variable (code : ∀ action, Runs host .code (perform action))
include code

theorem dispatch_inv {ran : Bool} (named : entry.descriptor = registration.descriptor)
    (coherent : machine.Coherent) (found : machine.Found loop registration)
    (h : dispatch host perform loop entry registration machine = some (ran, after)) :
    ∃ events, Dispatch host loop entry registration ran events machine after := by
  rw [dispatch_eq named] at h
  split at h
  · next quiet =>
    cases h
    exact ⟨_, .unready quiet⟩
  · next ready =>
    have ready : entry.isReady = true := by simpa using ready
    split at h
    · next executing =>
      cases h
      exact ⟨_, .busy ready executing⟩
    · next idle =>
      obtain ⟨⟨⟨⟩, inside⟩, fired, ended⟩ := Option.map_eq_some_iff.mp h
      have begun := changes_announced machine loop registration entry.returned
      obtain ⟨events, reaction⟩ := fire_reaction code (coherent.changes begun) found.gone
        (found.changes begun).known fired
      cases ended
      exact ⟨_, .ran ready idle reaction⟩

theorem dispatchAll_inv {entries : List (PollEntry × Registration)}
    (named : ∀ pair ∈ entries, pair.1.descriptor = pair.2.descriptor)
    (coherent : machine.Coherent) (found : ∀ pair ∈ entries, machine.Found loop pair.2)
    (h : dispatchAll host perform loop entries machine = some (count, after)) :
    ∃ events, Walk host loop entries count events machine after := by
  induction entries generalizing machine count with
  | nil =>
    cases h
    exact ⟨[], .nil _⟩
  | cons pair rest ih =>
    rw [dispatchAll_cons] at h
    obtain ⟨⟨ran, middle⟩, first, h⟩ := Option.bind_eq_some_iff.mp h
    obtain ⟨⟨others, last⟩, more, ended⟩ := Option.map_eq_some_iff.mp h
    cases ended
    have here := List.mem_cons_self (a := pair) (l := rest)
    obtain ⟨early, dispatch⟩ := dispatch_inv code (named pair here) coherent (found pair here) first
    have changes := (dispatch.trace (List.mem_singleton.mpr rfl)).changes
    obtain ⟨late, walk⟩ := ih (fun other mem => named other (List.mem_cons_of_mem _ mem))
      (coherent.changes changes)
      (fun other mem => (found other (List.mem_cons_of_mem _ mem)).changes changes) more
    exact ⟨late ++ early, .cons dispatch walk⟩

end

theorem dispatches_reaction {ready : Interest}
    (h : Trace host (.reaction loop registration ready) events before after) (other : LoopId) :
    dispatches other before.snapshots.length events = [] := by
  apply dispatches_eq_nil
  intro event mem
  unfold dispatch?
  split
  · next mem' =>
    obtain ⟨deeper, -⟩ | ⟨_, place, _⟩ := h.dispatched mem
    · exact if_neg fun same => Nat.ne_of_gt deeper same.2
    · cases place
  · rfl

def runs (machine : Machine ω) (pair : PollEntry × Registration) : Bool :=
  pair.1.isReady && decide (pair.2.callback ∉ machine.executing)

/-- A cycle runs what it can of what it found, one after the other. -/
theorem Walk.dispatches_eq {entries : List (PollEntry × Registration)}
    (h : Walk host loop entries count events machine after) :
    dispatches loop machine.snapshots.length events = (entries.filter (machine.runs ·)).map
        (fun pair => (pair.2.callback, pair.2.descriptor, pair.1.returned)) ∧
      count = (entries.filter (machine.runs ·)).length := by
  induction h with
  | nil => exact ⟨rfl, rfl⟩
  | @cons entry registration rest ran count early late first middle last h _ ih =>
    have trace := h.trace (List.mem_singleton.mpr rfl)
    have same : rest.filter (middle.runs ·) = rest.filter (first.runs ·) := by
      simp only [runs, trace.executing]
    rw [trace.snapshots, same] at ih
    rw [dispatches_append, ih.1, ih.2]
    cases h with
    | unready quiet => simp [runs, quiet, dispatches]
    | busy ready executing => simp [runs, executing, dispatches_retirement]
    -- What is dispatched during the reaction belongs to deeper cycles.
    | @ran _ inside events ready idle reaction =>
      have inner : dispatches loop first.snapshots.length events = [] :=
        snapshots_announced first loop registration entry.returned ▸ dispatches_reaction reaction loop
      rw [List.filter_cons_of_pos (by simpa [runs] using ⟨ready, idle⟩)]
      rw [dispatches_cons, dispatches_append, inner, dispatches_cons, dispatches_retirement]
      simp [dispatch?, Nat.add_comm]

/-- No callback is dispatched twice by one cycle. -/
theorem Walk.nodup {entries : List (PollEntry × Registration)}
    (h : Walk host loop entries count events machine after)
    (distinct : (entries.map (·.2.callback)).Nodup) :
    ((dispatches loop machine.snapshots.length events).map (·.1)).Nodup := by
  rw [h.dispatches_eq.1, List.map_map]
  exact distinct.sublist (List.filter_sublist.map _)

def maskAt (reply : Reply) (position : Nat) : Interest :=
  if 0 < reply.result then Interest.ofEvents (reply.events.getD position 0) else Interest.empty

def reportedEntries (found : List Registration) (reply : Reply) : List PollEntry :=
  if 0 < reply.result then PollEntry.report (found.map pollEntry) reply.events
  else (found.map pollEntry).map PollEntry.reset

def reportedTo (found : List Registration) (reply : Reply) : List (PollEntry × Registration) :=
  found.mapIdx fun position registration =>
    ({ pollEntry registration with returned := maskAt reply position }, registration)

def pollReply (host : Host ω) (machine : Machine ω) (loop : LoopId) (timeout : Option Duration) : Reply :=
  (host.kernel (pollCall (machine.entries loop) timeout) machine.outside).1

def polled (host : Host ω) (machine : Machine ω) (loop : LoopId) (timeout : Option Duration) :
    Machine ω :=
  (kernel host (pollCall (machine.entries loop) timeout) (machine.cycling loop)).2

theorem trace_polled (nonempty : machine.entries loop ≠ []) (timeout : Option Duration)
    (listed : List Registration) : Trace host (.cycle loop listed)
      [.syscall (pollCall (machine.entries loop) timeout) (pollReply host machine loop timeout)]
      (machine.cycling loop) (machine.polled host loop timeout) :=
  .poll (entries_cycling machine loop loop) nonempty timeout _ _

theorem changes_polled (host : Host ω) (nonempty : machine.entries loop ≠ [])
    (timeout : Option Duration) :
    Changes [.syscall (pollCall (machine.entries loop) timeout) (pollReply host machine loop timeout)]
      machine (machine.polled host loop timeout) :=
  (changes_cycling machine loop).trans (trace_polled nonempty timeout []).changes

theorem ofEvents_zero : Interest.ofEvents 0 = Interest.empty := by decide

/-- A report goes by position, and reports nothing past its end. -/
theorem report_eq (entries : List PollEntry) (masks : List UInt16) :
    PollEntry.report entries masks =
      entries.mapIdx fun position entry =>
        { entry with returned := Interest.ofEvents (masks.getD position 0) } := by
  fun_induction PollEntry.report entries masks with
  | case1 => rfl
  | case2 entry entries ih =>
    rw [List.mapIdx_cons, ih]
    simp [PollEntry.reset, ofEvents_zero]
  | case3 entry entries mask masks ih =>
    rw [List.mapIdx_cons, ih]
    rfl

theorem zip_report (found : List Registration) (reply : Reply) :
    (reportedEntries found reply).zip found = reportedTo found reply := by
  unfold reportedEntries
  apply List.ext_getElem (by split <;> simp [report_eq, reportedTo])
  intro position lt lt'
  split
  · next some => simp [report_eq, reportedTo, maskAt, some]
  · next none => simp [reportedTo, maskAt, none, PollEntry.reset]

theorem mem_reportedTo {found : List Registration} {reply : Reply} {pair : PollEntry × Registration}
    (mem : pair ∈ reportedTo found reply) :
    pair.2 ∈ found ∧ pair.1.descriptor = pair.2.descriptor := by
  obtain ⟨position, lt, rfl⟩ := List.mem_mapIdx.mp mem
  exact ⟨List.getElem_mem lt, rfl⟩

theorem map_snd_reportedTo (found : List Registration) (reply : Reply) :
    (reportedTo found reply).map (·.2) = found :=
  List.ext_getElem (by simp [reportedTo]) fun _ _ _ => by simp [reportedTo]

/-- What was left in the buffer does not matter. -/
theorem refill_eq (buffer : List PollEntry) (found : List Registration) :
    refill buffer found = found.map pollEntry := by
  rw [refill, List.take_zero, List.nil_append]

theorem poll_eq (host : Host ω) (nonempty : machine.entries loop ≠ []) (timeout : Option Duration) :
    poll (kernel host) ((machine.entries loop).map pollEntry) timeout (machine.cycling loop) =
      let reply := pollReply host machine loop timeout
      let entries := reportedEntries (machine.entries loop) reply
      ((if reply.failed then .error reply.error else .ok (entries.countP PollEntry.isReady), entries),
        machine.polled host loop timeout) := by
  have call : Syscall.poll (((machine.entries loop).map pollEntry).map PollEntry.watch)
      (Duration.pollTimeout timeout) = pollCall (machine.entries loop) timeout := by
    rw [List.map_map]
    rfl
  have watched : ((machine.entries loop).map pollEntry).isEmpty = false := by simpa using nonempty
  unfold poll
  rw [watched, if_neg Bool.false_ne_true, call]
  change (if (pollReply host machine loop timeout).failed then
      (pure (Except.error _, _) : StateM (Machine ω) _) else pure (Except.ok _, _))
    (machine.polled host loop timeout) = _
  dsimp only
  split <;> rfl

theorem dispatchAll_unready {entries : List (PollEntry × Registration)} (machine : Machine ω)
    (quiet : ∀ pair ∈ entries, pair.1.isReady = false) :
    dispatchAll host perform loop entries machine = some (0, machine) := by
  induction entries with
  | nil => rfl
  | cons pair rest ih =>
    have first : dispatch host perform loop pair.1 pair.2 machine = some (false, machine) := by
      unfold dispatch
      rw [quiet pair (List.mem_cons_self ..)]
      rfl
    have others := ih fun other mem => quiet other (List.mem_cons_of_mem _ mem)
    rw [dispatchAll_cons, first, Option.bind_some, others]
    rfl

/-- The dispatches of a cycle are those of what was reported ready, also when the poll call failed. -/
theorem runOnce_eq (nonempty : machine.entries loop ≠ []) (timeout : Option Duration) :
    runOnce host perform loop timeout machine =
      (dispatchAll host perform loop
        (reportedTo (machine.entries loop) (pollReply host machine loop timeout))
        (machine.polled host loop timeout)).map fun run =>
          (run.1, (releaseSnapshot host ((machine.entries loop).map (·.callback))
            (run.2.setBuffer loop (reportedEntries (machine.entries loop)
              (pollReply host machine loop timeout)))).2) := by
  have watched : (machine.loopAt loop).registry.entries.isEmpty = false := by
    simpa [entries] using nonempty
  have polling := poll_eq host nonempty timeout
  dsimp only at polling
  unfold runOnce
  rw [run_get]
  dsimp only
  rw [watched, if_neg Bool.false_ne_true, run_modify, run_lift, refill_eq,
    show poll (kernel host) (((machine.loopAt loop).registry.entries).map pollEntry) timeout
      { machine.setBuffer loop [] with snapshots :=
        (machine.loopAt loop).registry.entries.map (·.callback) :: machine.snapshots } = _ from polling]
  dsimp only
  have idle (quiet : ∀ listed ∈ reportedEntries (machine.entries loop)
      (pollReply host machine loop timeout), listed.isReady = false) :
      dispatchAll host perform loop
        (reportedTo (machine.entries loop) (pollReply host machine loop timeout))
        (machine.polled host loop timeout) = some (0, machine.polled host loop timeout) := by
    refine dispatchAll_unready _ fun pair mem => quiet pair.1 ?_
    rw [← zip_report] at mem
    exact (List.of_mem_zip mem).1
  cases failed : (pollReply host machine loop timeout).failed with
  | true =>
    have negative : ¬ 0 < (pollReply host machine loop timeout).result := by
      simp only [Reply.failed, decide_eq_true_eq] at failed
      omega
    rw [idle (by simp [reportedEntries, negative, pollEntry, PollEntry.reset, PollEntry.isReady,
      Interest.isEmpty, Interest.empty])]
    rfl
  | false =>
    cases ready : (reportedEntries (machine.entries loop)
        (pollReply host machine loop timeout)).countP PollEntry.isReady with
    | zero =>
      rw [idle fun listed mem => by simpa using List.countP_eq_zero.mp ready listed mem]
      rfl
    | succ others =>
      rw [← zip_report, Option.map_eq_bind]
      rfl

/-- Letting go of what a cycle found is quiet, but for the end of the cycle itself. -/
theorem quiet_releaseSnapshot (host : Host ω) (ids : List CallbackId) (machine : Machine ω) :
    (releaseSnapshot host ids machine).2.snapshots = machine.snapshots.tail ∧
      ∃ events, Quiet events machine
        { (releaseSnapshot host ids machine).2 with snapshots := machine.snapshots } := by
  induction ids generalizing machine with
  | nil => exact ⟨rfl, [], .refl machine⟩
  | cons id rest ih =>
    let shorter : Machine ω := { machine with snapshots := rest :: machine.snapshots.tail }
    obtain ⟨early, released⟩ := quietly_releaseCallback host id shorter
    obtain ⟨last, late, others⟩ := ih (releaseCallback host id shorter).2
    rw [released.snapshots] at last
    have all := (released.withSnapshots machine.snapshots).trans (others.withSnapshots machine.snapshots)
    exact ⟨last, _, all⟩

/-- The events of a cycle: the poll call, the dispatches, and the release of what was found. -/
theorem runOnce_inv (code : ∀ action, Runs host .code (perform action)) {timeout : Option Duration}
    (nonempty : machine.entries loop ≠ []) (coherent : machine.Coherent)
    (h : runOnce host perform loop timeout machine = some (count, after)) :
    ∃ events inside released,
      Walk host loop (reportedTo (machine.entries loop) (pollReply host machine loop timeout)) count
        events (machine.polled host loop timeout) inside ∧
      Quiet released inside { after with snapshots := inside.snapshots } ∧
      after.snapshots = machine.snapshots := by
  rw [runOnce_eq nonempty] at h
  obtain ⟨⟨number, inside⟩, dispatched, ended⟩ := Option.map_eq_some_iff.mp h
  have polling := changes_polled host nonempty timeout
  obtain ⟨events, walk⟩ := dispatchAll_inv code (fun pair mem => (mem_reportedTo mem).2)
    (coherent.changes polling)
    (fun pair mem => (coherent.found (mem_reportedTo mem).1).changes polling) dispatched
  have trace := walk.trace fun pair mem => (mem_reportedTo mem).1
  have buffered := quiet_setBuffer inside loop
    (reportedEntries (machine.entries loop) (pollReply host machine loop timeout))
  obtain ⟨last, released, quiet⟩ := quiet_releaseSnapshot host
    ((machine.entries loop).map (·.callback)) (inside.setBuffer loop
      (reportedEntries (machine.entries loop) (pollReply host machine loop timeout)))
  obtain ⟨rfl, rfl⟩ := Prod.mk.inj ended
  refine ⟨events, inside, released, walk, ?_, last.trans (by rw [buffered.snapshots, trace.snapshots]; rfl)⟩
  exact List.append_nil released ▸ buffered.trans quiet

theorem runOnce_empty (empty : machine.entries loop = []) (timeout : Option Duration) :
    runOnce host perform loop timeout machine = some (0, machine) := by
  have watched : (machine.loopAt loop).registry.entries.isEmpty = true := by
    simpa [entries] using empty
  unfold runOnce
  rw [run_get]
  dsimp only
  rw [watched, if_pos rfl, run_pure]

section
variable (code : ∀ action, Runs host .code (perform action))
include code

theorem runs_runOnce (loop : LoopId) (timeout : Option Duration) :
    Runs host .code (runOnce host perform loop timeout) := by
  intro machine count after coherent h
  by_cases nonempty : machine.entries loop = []
  · rw [runOnce_empty nonempty] at h
    cases h
    exact ⟨[], .quiet (.refl machine)⟩
  · obtain ⟨events, inside, released, walk, quiet, last⟩ := runOnce_inv code nonempty coherent h
    have trace := (Trace.seq (trace_polled nonempty timeout _)
      (walk.trace fun pair mem => (mem_reportedTo mem).1)).seq (.quiet quiet)
    have distinct : ((reportedTo (machine.entries loop) (pollReply host machine loop timeout)).map
        (·.2.callback)).Nodup := by
      have callbacks := coherent.nodup_callbacks loop
      rwa [← map_snd_reportedTo (machine.entries loop) (pollReply host machine loop timeout),
        List.map_map] at callbacks
    have once : ((dispatches loop (machine.snapshots.length + 1) (released ++ (events ++
        [.syscall (pollCall (machine.entries loop) timeout)
          (pollReply host machine loop timeout)]))).map (·.1)).Nodup := by
      rw [dispatches_append, dispatches_append, dispatches_outward quiet.outward, List.append_nil]
      exact walk.nodup distinct
    have cycle := @Trace.cycle _ _ _ _ _ _ once trace
    rw [← last] at cycle
    exact ⟨_, cycle⟩

theorem runs_cycles (loop : LoopId) (timeout : Option Duration) (budget : Nat) :
    Runs host .code (cycles host perform loop timeout budget) := by
  induction budget with
  | zero => exact .quiet .exhausted
  | succ budget ih =>
    refine .bind (.quiet .get) fun machine => ?_
    split
    · exact .bind (runs_runOnce code loop timeout) fun _ => ih
    · exact .pure _

theorem runs_run (loop : LoopId) (timeout : Option Duration) (budget : Nat) :
    Runs host .code (run host perform loop timeout budget) := by
  intro machine result after coherent h
  rw [run, run_modify] at h
  obtain ⟨⟨⟩, inside, cycled, last⟩ := run_bind h
  obtain ⟨events, trace⟩ := runs_cycles code loop timeout budget _ _ _
    (coherent.change (.setRunning machine loop true)) cycled
  cases last
  exact ⟨events, .run trace⟩

end

end NetReactor.Machine
