import NetReactor.Proofs.Machine.Cycle
import NetReactor.Proofs.Socket.Timeout
/-!
One poll call. Entries are watched and reported by position, also where several have one descriptor, and what lay in
the memory of the call before it makes no difference, nor where that memory is.
-/
namespace NetReactor

variable {σ : Type} {kernel : Kernel σ} {entries : List PollEntry} {timeout : Option Duration}

namespace Interest

structure AskedFor (mask : Interest) : Prop where
  input : mask.toEvents &&& pollIn ≠ 0 ↔ mask.contains read
  output : mask.toEvents &&& pollOut ≠ 0 ↔ mask.contains write
  only : mask.toEvents &&& ~~~(pollIn ||| pollOut) = 0

theorem askedFor (mask : Interest) : mask.AskedFor := by
  constructor
  all_goals
    unfold toEvents
    cases mask.contains read <;> cases mask.contains write <;> decide

def gathered (input output failure gone : Bool) : Interest :=
  (read.given input).union <| (write.given output).union <| (error.given failure).union <| hangUp.given gone

theorem ofEvents_eq (events : UInt16) : ofEvents events =
    gathered (events &&& pollIn != 0) (events &&& pollOut != 0) (events &&& (pollError ||| pollInvalid) != 0)
      (events &&& pollHangUp != 0) := rfl

theorem contains_gathered : ∀ input output failure gone : Bool,
    (gathered input output failure gone).contains read = input ∧
    (gathered input output failure gone).contains write = output ∧
    (gathered input output failure gone).contains error = failure ∧
    (gathered input output failure gone).contains hangUp = gone ∧
    (gathered input output failure gone).unknownPart = empty := by decide

structure ReadFrom (events : UInt16) : Prop where
  input : (ofEvents events).contains read ↔ events &&& pollIn ≠ 0
  output : (ofEvents events).contains write ↔ events &&& pollOut ≠ 0
  failure : (ofEvents events).contains error ↔ events &&& pollError ≠ 0 ∨ events &&& pollInvalid ≠ 0
  gone : (ofEvents events).contains hangUp ↔ events &&& pollHangUp ≠ 0
  known : (ofEvents events).unknownPart = empty

theorem and_or_ne_zero (events first second : UInt16) :
    events &&& (first ||| second) ≠ 0 ↔ events &&& first ≠ 0 ∨ events &&& second ≠ 0 := by
  have apart : events &&& (first ||| second) = events &&& first ||| events &&& second :=
    UInt16.toBitVec_inj.mp BitVec.and_or_distrib_left
  rw [apart, Ne, UInt16.or_eq_zero_iff, Decidable.not_and_iff_not_or_not]

theorem readFrom (events : UInt16) : ReadFrom events := by
  obtain ⟨input, output, failure, gone, known⟩ := contains_gathered (events &&& pollIn != 0) (events &&& pollOut != 0)
    (events &&& (pollError ||| pollInvalid) != 0) (events &&& pollHangUp != 0)
  rw [← ofEvents_eq] at input output failure gone known
  constructor
  case input => rw [input, bne_iff_ne]
  case output => rw [output, bne_iff_ne]
  case failure => rw [failure, bne_iff_ne, and_or_ne_zero]
  case gone => rw [gone, bne_iff_ne]
  case known => exact known

end Interest

structure PollRecord where
  descriptor : Descriptor := Descriptor.closed
  events : UInt16 := 0
  reported : UInt16 := 0
deriving DecidableEq

namespace PollRecord

variable {records : List PollRecord}

def watch (record : PollRecord) : Watch := (record.descriptor, record.events)

def stackRoom : Nat := 64

def room (count : Nat) : List PollRecord :=
  if count ≤ stackRoom then (List.replicate stackRoom {}).take count else List.replicate count {}

def fill : List PollRecord → List PollEntry → List PollRecord × List PollEntry
  | _ :: records, entry :: entries =>
    let rest := fill records entries
    (⟨entry.descriptor, entry.requested.toEvents, 0⟩ :: rest.1, entry.reset :: rest.2)
  | records, entries => (records, entries)

def write : List PollRecord → List UInt16 → List PollRecord
  | record :: records, events :: rest => { record with reported := events } :: write records rest
  | records, _ => records

def collect : List PollRecord → List PollEntry → List PollEntry
  | record :: records, entry :: entries =>
    { entry with returned := Interest.ofEvents record.reported } :: collect records entries
  | _, entries => entries

def pollUsing (kernel : Kernel σ) (records : List PollRecord) (entries : List PollEntry) (timeout : Option Duration) :
    StateM σ (Outcome Nat × List PollEntry) := do
  let filled := fill records entries
  let reply ← kernel (.poll (filled.1.map watch) (Duration.pollTimeout timeout))
  if reply.result < 0 then return (.error reply.error, filled.2)
  else
    let read := if 0 < reply.result then collect (write filled.1 reply.events) filled.2 else filled.2
    return (.ok (read.countP PollEntry.isReady), read)

def pollStored (kernel : Kernel σ) (entries : List PollEntry) (timeout : Option Duration) :
    StateM σ (Outcome Nat × List PollEntry) :=
  if entries.isEmpty then pure (.ok 0, []) else pollUsing kernel (room entries.length) entries timeout

theorem length_room (count : Nat) : (room count).length = count := by
  unfold room
  split
  · next small => rw [List.length_take, List.length_replicate, Nat.min_eq_left small]
  · exact List.length_replicate

def ofEntry (entry : PollEntry) : PollRecord := ⟨entry.descriptor, entry.requested.toEvents, 0⟩

/-- Nothing is left of what was in the memory. -/
theorem fill_eq (fits : records.length = entries.length) :
    fill records entries = (entries.map ofEntry, entries.map PollEntry.reset) := by
  induction records generalizing entries with
  | nil =>
    cases List.eq_nil_of_length_eq_zero fits.symm
    rfl
  | cons record records ih =>
    cases entries with
    | nil => cases fits
    | cons entry entries => rw [fill, ih (Nat.succ.inj fits), List.map_cons, List.map_cons, ofEntry]

theorem map_watch_ofEntry (entries : List PollEntry) :
    (entries.map ofEntry).map watch = entries.map PollEntry.watch := by
  rw [List.map_map]
  rfl

theorem write_nil (records : List PollRecord) : write records [] = records := by cases records <;> rfl

/-- What is read back at a position is what the kernel wrote there. -/
theorem collect_write (entries : List PollEntry) (events : List UInt16) :
    collect (write (entries.map ofEntry) events) (entries.map PollEntry.reset) = PollEntry.report entries events := by
  fun_induction PollEntry.report entries events with
  | case1 => rfl
  | case2 entry entries ih =>
    have blank : ({ entry.reset with returned := Interest.ofEvents (ofEntry entry).reported } : PollEntry) =
      entry.reset := congrArg (PollEntry.mk _ _) Machine.ofEvents_zero
    rw [write_nil] at ih ⊢
    rw [← ih, List.map_cons, List.map_cons, collect, blank]
  | case3 entry entries mask masks ih =>
    rw [← ih]
    rfl

theorem pollUsing_eq (fits : records.length = entries.length) (nonempty : entries ≠ []) :
    pollUsing kernel records entries timeout = poll kernel entries timeout := by
  have watched : entries.isEmpty = false := by simpa using nonempty
  unfold pollUsing poll
  rw [watched, if_neg Bool.false_ne_true]
  dsimp only
  rw [fill_eq fits, map_watch_ofEntry]
  refine bind_congr fun reply => ?_
  dsimp only
  rw [collect_write]
  by_cases negative : reply.result < 0
  · have failed : reply.failed = true := decide_eq_true negative
    rw [if_pos negative, if_pos failed, if_neg (show ¬ 0 < reply.result by omega)]
  · have done : reply.failed = false := decide_eq_false negative
    rw [if_neg negative, done, if_neg Bool.false_ne_true]

theorem pollStored_eq (kernel : Kernel σ) (entries : List PollEntry) (timeout : Option Duration) :
    pollStored kernel entries timeout = poll kernel entries timeout := by
  cases entries with
  | nil => rfl
  | cons entry rest => exact pollUsing_eq (length_room _) (by simp)

end PollRecord

def pollOf (entries : List PollEntry) (timeout : Option Duration) : Syscall :=
  .poll (entries.map PollEntry.watch) (Duration.pollTimeout timeout)

def reportedBy (entries : List PollEntry) (events : List UInt16) : List PollEntry :=
  entries.mapIdx fun position entry => { entry with returned := Interest.ofEvents (events.getD position 0) }

inductive Polls (entries : List PollEntry) (timeout : Option Duration) :
    List (Syscall × Reply) → Outcome Nat → List PollEntry → Prop
  | nothing (empty : entries = []) : Polls entries timeout [] (.ok 0) []
  | failed {reply : Reply} (nonempty : entries ≠ []) (negative : reply.result < 0) :
    Polls entries timeout [(pollOf entries timeout, reply)] (.error (Error.ofNumber reply.number))
      (entries.map PollEntry.reset)
  | idle {reply : Reply} (nonempty : entries ≠ []) (zero : reply.result = 0) :
    Polls entries timeout [(pollOf entries timeout, reply)] (.ok 0) (entries.map PollEntry.reset)
  -- The number of what was found counts, not the one that the kernel gave.
  | ready {reply : Reply} (nonempty : entries ≠ []) (positive : 0 < reply.result) :
    Polls entries timeout [(pollOf entries timeout, reply)]
      (.ok ((reportedBy entries reply.events).countP PollEntry.isReady)) (reportedBy entries reply.events)

structure PollEntry.Kept (entries reported : List PollEntry) : Prop where
  descriptors : reported.map (·.descriptor) = entries.map (·.descriptor)
  requested : reported.map (·.requested) = entries.map (·.requested)

theorem Polls.kept {calls : List (Syscall × Reply)} {result : Outcome Nat} {reported : List PollEntry}
    (polls : Polls entries timeout calls result reported) : PollEntry.Kept entries reported := by
  have reset : PollEntry.Kept entries (entries.map PollEntry.reset) := by
    constructor <;> rw [List.map_map] <;> rfl
  cases polls with
  | nothing empty =>
    subst empty
    exact ⟨rfl, rfl⟩
  | failed => exact reset
  | idle => exact reset
  | ready =>
    constructor <;> exact List.ext_getElem (by simp [reportedBy]) fun _ _ _ => by simp [reportedBy]

theorem countP_reset (entries : List PollEntry) : (entries.map PollEntry.reset).countP PollEntry.isReady = 0 := by
  rw [List.countP_map]
  exact List.countP_eq_zero.mpr fun _ _ => Bool.false_ne_true

section
variable {reply : Reply}

def afterReply (entries : List PollEntry) (reply : Reply) : List PollEntry :=
  if 0 < reply.result then reportedBy entries reply.events else entries.map PollEntry.reset

def resultOf (entries : List PollEntry) (reply : Reply) : Outcome Nat :=
  if reply.failed then .error reply.error else .ok ((afterReply entries reply).countP PollEntry.isReady)

theorem poll_answered {state after : σ} (nonempty : entries ≠ [])
    (asked : kernel (pollOf entries timeout) state = (reply, after)) :
    poll kernel entries timeout state = ((resultOf entries reply, afterReply entries reply), after) := by
  have watched : entries.isEmpty = false := by simpa using nonempty
  unfold poll
  rw [watched, if_neg Bool.false_ne_true]
  simp only [Bind.bind, StateT.bind, pollOf] at asked ⊢
  rw [asked]
  dsimp only
  rw [Machine.report_eq, resultOf, afterReply, reportedBy]
  split <;> rfl

theorem polls_answered (nonempty : entries ≠ []) (timeout : Option Duration) (reply : Reply) :
    Polls entries timeout [(pollOf entries timeout, reply)] (resultOf entries reply) (afterReply entries reply) := by
  rcases Int.lt_trichotomy reply.result 0 with negative | zero | positive
  · have failed : reply.failed = true := decide_eq_true negative
    rw [resultOf, afterReply, if_pos failed, if_neg (by omega)]
    exact .failed nonempty negative
  · have done : reply.failed = false := decide_eq_false (by omega)
    rw [resultOf, afterReply, done, if_neg Bool.false_ne_true, if_neg (by omega), countP_reset]
    exact .idle nonempty zero
  · have done : reply.failed = false := decide_eq_false (by omega)
    rw [resultOf, afterReply, done, if_neg Bool.false_ne_true, if_pos positive]
    exact .ready nonempty positive

end

structure PollRecord.Indifferent (kernel : Kernel σ) (entries : List PollEntry) (timeout : Option Duration) :
    Prop where
  anywhere : ∀ records : List PollRecord, records.length = entries.length → entries ≠ [] →
    pollUsing kernel records entries timeout = poll kernel entries timeout
  found : pollStored kernel entries timeout = poll kernel entries timeout

theorem PollRecord.indifferent (kernel : Kernel σ) (entries : List PollEntry) (timeout : Option Duration) :
    Indifferent kernel entries timeout :=
  ⟨fun _ fits nonempty => pollUsing_eq fits nonempty, pollStored_eq kernel entries timeout⟩

/-- Entries of any number are polled by at most one call, with a record for each of them in their order, and its answer
is read back in the same order. -/
theorem poll_by_position (kernel : Kernel σ) (entries : List PollEntry) (timeout : Option Duration) (state : σ) :
    (∃ result reported calls after, poll kernel entries timeout state = ((result, reported), after) ∧
      poll kernel.logged entries timeout (state, []) = ((result, reported), after, calls) ∧
      Polls entries timeout calls result reported ∧ PollEntry.Kept entries reported) ∧
    PollRecord.Indifferent kernel entries timeout ∧
    (∀ mask : Interest, mask.AskedFor) ∧ ∀ events, Interest.ReadFrom events := by
  refine ⟨?_, PollRecord.indifferent kernel entries timeout, Interest.askedFor, Interest.readFrom⟩
  by_cases nonempty : entries = []
  · subst nonempty
    exact ⟨.ok 0, [], [], state, rfl, rfl, .nothing rfl, rfl, rfl⟩
  · rcases asked : kernel (pollOf entries timeout) state with ⟨reply, after⟩
    have polls := polls_answered nonempty timeout reply
    exact ⟨_, _, _, after, poll_answered nonempty asked, poll_answered nonempty (Socket.logged_eq asked), polls,
      polls.kept⟩

/-- Two entries of one descriptor, and a kernel that counts more than it reports, partly in bits without a meaning. -/
example : (poll (fun _ => pure { result := 9, events := [4096, 33] })
    [⟨5, Interest.read, Interest.hangUp⟩, ⟨5, Interest.write, Interest.empty⟩] none ()).1.2.map (·.returned) =
      [Interest.empty, ⟨5⟩] := by decide

end NetReactor
