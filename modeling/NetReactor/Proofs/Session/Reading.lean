import NetReactor.Proofs.Session.Conserving
/-!
When a call to receive reads from the stream. It does so once at the most, and only when nothing waits to be
decrypted or when the provider has reported just what waits to be incomplete. A read that gives nothing leaves
the session where it was.
-/
namespace NetReactor

variable {σ : Type} {session short : Session} {buffer left start : Bytes} {past early late deeds : List Deed}
variable {deed : Deed} {answer : Decrypted} {received : Session.Received} {receipt : Receipt}
variable {receipts : List Receipt} {law : List Deed → Deed → Prop}

def Deed.reports (known : Option Bytes) : Deed → Option Bytes
  | .decrypted message answer left =>
    if answer.status = .incompleteMessage then some (message.overlay left) else none
  | .received _ (.ok (_ + 1)) _ => none
  | _ => known

def reported (past : List Deed) : Option Bytes := past.foldl Deed.reports none

@[simp] theorem reported_append : reported (past ++ [deed]) = deed.reports (reported past) := by
  rw [reported, List.foldl_append]
  rfl

def Throughout (law : List Deed → Deed → Prop) : List Deed → List Deed → Prop
  | _, [] => True
  | past, deed :: deeds => law past deed ∧ Throughout law (past ++ [deed]) deeds

theorem Throughout.append (h : Throughout law past early) (h' : Throughout law (past ++ early) late) :
    Throughout law past (early ++ late) := by
  induction early generalizing past with
  | nil => exact List.append_nil past ▸ h'
  | cons deed early ih =>
    rw [List.append_cons] at h'
    exact ⟨h.1, ih h.2 h'⟩

theorem Throughout.mem (h : Throughout law past deeds) : ∀ deed ∈ deeds, ∃ earlier, law earlier deed := by
  induction deeds generalizing past with
  | nil => simp
  | cons deed deeds ih => exact List.forall_mem_cons.mpr ⟨⟨past, h.1⟩, ih h.2⟩

/-- When a deed of receiving is due: bytes are received when none wait or those that do were reported to be
incomplete, and else what waits is to be decrypted. -/
def Due (start : Bytes) (past : List Deed) : Deed → Prop
  | .received buffer _ _ => buffer = Bytes.zeros Session.chunk ∧
    (waiting start past = [] ∨ reported past = some (waiting start past))
  | .decrypted message _ _ => message = waiting start past ∧ reported past ≠ some message
  | _ => False

def ReadInVain (deeds : List Deed) : Prop :=
  ∃ early count left message answer left', deeds = early ++
    [.received (Bytes.zeros Session.chunk) (.ok count) left, .decrypted message answer left'] ∧
      count ≠ 0 ∧ answer.status = .incompleteMessage

structure Disciplined (past : List Deed) (receipt : Receipt) : Prop where
  once : receipt.deeds.countP Deed.isRead ≤ 1
  quiet : receipt.buffer = [] ∨ receipt.before.held ≠ [] → receipt.deeds = []
  -- Bytes that wait are tried first, unless they were reported to be incomplete.
  tries : receipt.buffer ≠ [] → receipt.before.held = [] → receipt.before.carried ≠ [] →
    reported past ≠ some receipt.before.carried →
    ∃ answer left late, receipt.deeds = .decrypted receipt.before.carried answer left :: late
  reads : receipt.buffer ≠ [] → receipt.before.held = [] →
    receipt.before.carried = [] ∨ reported past = some receipt.before.carried →
    ∃ result left late, receipt.deeds = .received (Bytes.zeros Session.chunk) result left :: late
  ended : receipt.buffer ≠ [] → receipt.received.result = .ok 0 →
    ∃ left, .received (Bytes.zeros Session.chunk) (.ok 0) left ∈ receipt.deeds
  blocked : receipt.received.result = .error .wouldBlock →
    (∃ left, .received (Bytes.zeros Session.chunk) (.error .wouldBlock) left ∈ receipt.deeds) ∨
      ReadInVain receipt.deeds
  -- A read that fails or finds the end is the last thing that is done, and leaves what is carried and held.
  vain : ∀ early scratch result left late, receipt.deeds = early ++ .received scratch result left :: late →
    (∀ count, result = .ok count → count = 0) →
    late = [] ∧ receipt.received.result = result ∧ receipt.received.buffer = receipt.buffer ∧
      receipt.received.session.held = receipt.before.held ∧
      receipt.received.session.carried = waiting receipt.before.carried early

namespace Session

structure Tracks (start : Bytes) (past : List Deed) (session : Session) : Prop where
  ready : ∃ sizing, session.establishedSizing = .ok sizing
  carried : session.carried = waiting start past
  known : reported past = if session.carriedIncomplete then some session.carried else none

theorem Tracks.reported_iff (h : session.Tracks start past) :
    reported past = some session.carried ↔ session.carriedIncomplete = true := by
  rw [h.known]
  cases session.carriedIncomplete <;> simp

theorem Tracks.unreported (h : session.Tracks start past) (untried : session.carriedIncomplete = false) :
    reported past ≠ some session.carried := by
  rw [Ne, h.reported_iff, untried]
  exact Bool.false_ne_true

theorem carriedIncomplete_accept (session : Session) (decrypted : Decrypted) (message buffer : Bytes) :
    (session.accept decrypted message buffer).session.carriedIncomplete = session.carriedIncomplete := by
  rw [accept]
  split <;> rfl

/-- Bytes that wait are marked by a try that finds them incomplete, and by no other. -/
theorem Tracks.tries {attempt : Attempt} (h : session.Tracks start past)
    (untried : session.carriedIncomplete = false) (tries : session.Tries buffer answer left attempt) :
    attempt.left.Tracks start (past ++ [.decrypted session.carried answer left]) where
  ready := h.ready.imp fun _ ready => tries.sameStage.establishedSizing_ok ready
  carried := by
    rw [waiting_append, ← h.carried]
    cases attempt with
    | ended => exact tries.conserves_ended.carried
    | incomplete => exact tries.conserves_incomplete.carried
  known := by
    rw [reported_append, Deed.reports]
    cases tries with
    | opened done =>
      rw [Attempt.left, carriedIncomplete_accept, untried]
      exact if_neg (by simp [done])
    | incomplete short => exact if_pos short
    | refused closed whole =>
      rw [Attempt.left, untried]
      exact if_neg whole

theorem Tracks.fed {count : Nat} (h : session.Tracks start past) (some : count ≠ 0) (left : Bytes) :
    (session.fed count left).Tracks start (past ++ [.received (Bytes.zeros chunk) (.ok count) left]) where
  ready := h.ready
  carried := by
    rw [waiting_append, ← h.carried]
    rfl
  known := by
    obtain ⟨count, rfl⟩ := Nat.exists_eq_succ_of_ne_zero some
    rw [reported_append]
    rfl

theorem Tracks.vain {scratch : Bytes} {result : Outcome Nat} (h : session.Tracks start past)
    (vain : ∀ count, result = .ok count → count = 0) (left : Bytes) :
    session.Tracks start (past ++ [.received scratch result left]) := by
  match result, vain with
  | .error failure, _ =>
    exact ⟨h.ready, by rw [waiting_append, ← h.carried]; rfl, by rw [reported_append]; exact h.known⟩
  | .ok count, vain =>
    obtain rfl := vain count rfl
    refine ⟨h.ready, ?_, by rw [reported_append]; exact h.known⟩
    rw [waiting_append, ← h.carried]
    exact (List.append_nil _).symm

theorem Tracks.reads (h : session.Tracks start past) (reads : session.Reads buffer deeds received) :
    received.session.Tracks start (past ++ deeds) := by
  cases reads with
  | failed => exact h.vain (fun _ is => by cases is) _
  | closed => exact h.vain (fun _ is => (Except.ok.inj is).symm) _
  | tried some tries =>
    rw [List.append_cons]
    exact (h.fed some _).tries rfl tries
  | short some tries =>
    rw [List.append_cons]
    exact (h.fed some _).tries rfl tries

theorem Tracks.due_decrypted (h : session.Tracks start past) (untried : session.carriedIncomplete = false) :
    Due start past (.decrypted session.carried answer left) := ⟨h.carried, h.unreported untried⟩

theorem Tracks.due_received {result : Outcome Nat} (h : session.Tracks start past)
    (known : session.carried = [] ∨ session.carriedIncomplete = true) :
    Due start past (.received (Bytes.zeros chunk) result left) := by
  refine ⟨rfl, ?_⟩
  rw [← h.carried, h.reported_iff]
  exact known

theorem Tracks.due_reads (h : session.Tracks start past)
    (known : session.carried = [] ∨ session.carriedIncomplete = true)
    (reads : session.Reads buffer deeds received) : Throughout (Due start) past deeds := by
  cases reads with
  | failed => exact ⟨h.due_received known, trivial⟩
  | closed => exact ⟨h.due_received known, trivial⟩
  | tried some => exact ⟨h.due_received known, (h.fed some _).due_decrypted rfl, trivial⟩
  | short some => exact ⟨h.due_received known, (h.fed some _).due_decrypted rfl, trivial⟩

theorem Tracks.goes (h : receipt.before.Tracks start past) (goes : receipt.Goes) :
    receipt.received.session.Tracks start (past ++ receipt.deeds) := by
  cases goes with
  | refused => exact (List.append_nil past).symm ▸ h
  | empty => exact (List.append_nil past).symm ▸ h
  | held => exact (List.append_nil past).symm ▸ ⟨h.ready, h.carried, h.known⟩
  | read _ _ _ reads => exact h.reads reads
  | tried _ _ _ untried tries => exact h.tries untried tries
  | readAfter _ _ _ untried tries reads =>
    rw [List.append_cons]
    exact (h.tries untried tries).reads reads

theorem Tracks.due_goes (h : receipt.before.Tracks start past) (goes : receipt.Goes) :
    Throughout (Due start) past receipt.deeds := by
  cases goes with
  | refused => trivial
  | empty => trivial
  | held => trivial
  | read _ _ known reads => exact h.due_reads known reads
  | tried _ _ _ untried => exact ⟨h.due_decrypted untried, trivial⟩
  | readAfter _ _ _ untried tries reads =>
    refine ⟨h.due_decrypted untried, (h.tries untried tries).due_reads (.inr ?_) reads⟩
    cases tries with
    | incomplete => rfl

theorem deliver_result_ne (room : buffer ≠ []) (held : session.held ≠ []) :
    (session.deliver buffer).result ≠ .ok 0 := by
  have here := List.length_pos_iff.mpr room
  have there := List.length_pos_iff.mpr held
  intro none
  have none : min session.held.length buffer.length = 0 := Except.ok.inj none
  omega

/-- A region that is not empty, inside the message, has plaintext in it. -/
theorem payload_ne_nil {message data : Bytes} (h : answer.payload?.bind (·.bytes? message) = some data) :
    data ≠ [] := by
  obtain ⟨region, found, bytes⟩ := Option.bind_eq_some_iff.mp h
  have some := List.find?_some found
  rw [Bool.and_eq_true, Bool.not_eq_true', Region.isEmpty, decide_eq_false_iff_not, Nat.not_le] at some
  have length : data.length = region.past - region.first := Bytes.length_of_slice? bytes
  exact List.length_pos_iff.mp (by omega)

/-- A try that ends a call gives plaintext, or fails and does not ask to call again. -/
theorem Tries.result (h : session.Tries buffer answer left (.ended received)) (room : buffer ≠ []) :
    received.result ≠ .ok 0 ∧ received.result ≠ .error .wouldBlock := by
  cases h with
  | opened =>
    rw [accept]
    split
    · next data payload =>
      have some := List.append_ne_nil_of_right_ne_nil session.held (payload_ne_nil payload)
      exact ⟨deliver_result_ne room some, by simp [deliver]⟩
    · exact ⟨by simp, by simp⟩
  | refused => exact ⟨by simp, by simp⟩

namespace Reads

variable (h : session.Reads buffer deeds received)
include h

theorem first : ∃ result left late, deeds = .received (Bytes.zeros chunk) result left :: late := by
  cases h <;> exact ⟨_, _, _, rfl⟩

theorem once : deeds.countP Deed.isRead = 1 := by
  cases h <;> rfl

theorem ended (room : buffer ≠ []) (none : received.result = .ok 0) :
    ∃ left, .received (Bytes.zeros chunk) (.ok 0) left ∈ deeds := by
  cases h with
  | failed => cases none
  | closed => exact ⟨_, List.mem_singleton_self _⟩
  | tried _ tries => exact absurd none (tries.result room).1
  | short => cases none

theorem blocked (room : buffer ≠ []) (blocked : received.result = .error .wouldBlock) :
    (∃ left, .received (Bytes.zeros chunk) (.error .wouldBlock) left ∈ deeds) ∨ ReadInVain deeds := by
  cases h with
  | @failed failure left =>
    cases blocked
    exact .inl ⟨left, List.mem_singleton_self _⟩
  | closed => cases blocked
  | tried _ tries => exact absurd blocked (tries.result room).2
  | short some tries =>
    cases tries with
    | incomplete short => exact .inr ⟨[], _, _, _, _, _, rfl, some, short⟩

theorem vain {scratch : Bytes} {result : Outcome Nat}
    (split : deeds = early ++ .received scratch result left :: late)
    (vain : ∀ count, result = .ok count → count = 0) :
    early = [] ∧ late = [] ∧ received = { result, buffer, session } := by
  cases early with
  | nil =>
    cases h with
    | failed =>
      cases split
      exact ⟨rfl, rfl, rfl⟩
    | closed =>
      cases split
      exact ⟨rfl, rfl, rfl⟩
    | tried some =>
      cases split
      exact absurd (vain _ rfl) some
    | short some =>
      cases split
      exact absurd (vain _ rfl) some
  | cons deed early =>
    -- Only the first deed is a read.
    cases h <;> simp [List.cons_eq_append_iff] at split

end Reads

end Session

theorem ReadInVain.cons (h : ReadInVain deeds) : ReadInVain (deed :: deeds) := by
  obtain ⟨early, count, left, message, answer, left', rfl, some, short⟩ := h
  exact ⟨deed :: early, count, left, message, answer, left', rfl, some, short⟩

/-- Nothing is done for a call without room, or with plaintext to give. -/
theorem disciplined_quiet {before : Session} (quiet : buffer = [] ∨ before.held ≠ [])
    (ended : buffer ≠ [] → received.result ≠ .ok 0) (blocked : received.result ≠ .error .wouldBlock) :
    Disciplined past ⟨before, buffer, [], received⟩ where
  once := Nat.zero_le 1
  quiet _ := rfl
  tries room held := (quiet.elim room (· held)).elim
  reads room held := (quiet.elim room (· held)).elim
  ended room none := absurd none (ended room)
  blocked would := absurd would blocked
  vain early _ _ _ _ split := by simp at split

theorem disciplined_read {before : Session} (room : buffer ≠ []) (held : before.held = [])
    (known : before.carried = [] ∨ reported past = some before.carried)
    (reads : before.Reads buffer deeds received) : Disciplined past ⟨before, buffer, deeds, received⟩ where
  once := Nat.le_of_eq reads.once
  quiet quiet := absurd quiet (by simp [room, held])
  tries _ _ carried untried := absurd known (by simp [carried, untried])
  reads _ _ _ := reads.first
  ended room := reads.ended room
  blocked := reads.blocked room
  vain early _ _ _ _ split vain := by
    obtain ⟨rfl, rfl, rfl⟩ := reads.vain split vain
    exact ⟨rfl, rfl, rfl, rfl, rfl⟩

theorem disciplined_tried {before : Session} (room : buffer ≠ []) (held : before.held = [])
    (carried : before.carried ≠ []) (untried : reported past ≠ some before.carried)
    (tries : before.Tries buffer answer left (.ended received)) :
    Disciplined past ⟨before, buffer, [.decrypted before.carried answer left], received⟩ where
  once := Nat.zero_le 1
  quiet quiet := absurd quiet (by simp [room, held])
  tries _ _ _ _ := ⟨_, _, _, rfl⟩
  reads _ _ known := absurd known (by simp [carried, untried])
  ended room none := absurd none (tries.result room).1
  blocked would := absurd would (tries.result room).2
  vain early _ _ _ _ split := by simp [List.cons_eq_append_iff] at split

theorem disciplined_readAfter {before : Session} (room : buffer ≠ []) (held : before.held = [])
    (carried : before.carried ≠ []) (untried : reported past ≠ some before.carried)
    (tries : before.Tries buffer answer left (.incomplete short))
    (reads : short.Reads buffer deeds received) :
    Disciplined past ⟨before, buffer, .decrypted before.carried answer left :: deeds, received⟩ where
  once := Nat.le_of_eq reads.once
  quiet quiet := absurd quiet (by simp [room, held])
  tries _ _ _ _ := ⟨_, _, _, rfl⟩
  reads _ _ known := absurd known (by simp [carried, untried])
  ended room none := (reads.ended room none).imp fun _ => List.mem_cons_of_mem _
  blocked would := (reads.blocked room would).imp
    (fun ⟨left, mem⟩ => ⟨left, List.mem_cons_of_mem _ mem⟩) .cons
  vain early _ _ _ _ split vain := by
    cases early with
    | nil => cases split
    | cons deed early =>
      obtain ⟨rfl, rest⟩ := List.cons.inj split
      obtain ⟨rfl, rfl, rfl⟩ := reads.vain rest vain
      refine ⟨rfl, rfl, rfl, ?_, tries.conserves_incomplete.carried⟩
      cases tries with
      | incomplete => rfl

theorem Session.Tracks.disciplined (h : receipt.before.Tracks start past) (goes : receipt.Goes) :
    Disciplined past receipt := by
  cases goes with
  | refused unready =>
    obtain ⟨sizing, ready⟩ := h.ready
    cases ready.symm.trans unready
  | empty => exact disciplined_quiet (.inl rfl) (absurd rfl) nofun
  | held room held => exact disciplined_quiet (.inr held) (deliver_result_ne · held) nofun
  | read room held known reads => exact disciplined_read room held (known.imp_right h.reported_iff.mpr) reads
  | tried room held carried untried tries =>
    exact disciplined_tried room held carried (h.unreported untried) tries
  | readAfter room held carried untried tries reads =>
    exact disciplined_readAfter room held carried (h.unreported untried) tries reads

theorem Linked.due (h : Linked session receipts) (tracks : session.Tracks start past) :
    Throughout (Due start) past (receipts.flatMap (·.deeds)) := by
  induction receipts generalizing session past with
  | nil => trivial
  | cons receipt receipts ih =>
    obtain ⟨rfl, goes, later⟩ := h
    exact (tracks.due_goes goes).append (ih later (tracks.goes goes))

theorem Linked.disciplined (h : Linked session receipts) (tracks : session.Tracks start past)
    {early late : List Receipt} (split : receipts = early ++ receipt :: late) :
    Disciplined (past ++ early.flatMap (·.deeds)) receipt := by
  induction early generalizing session past receipts with
  | nil =>
    subst split
    obtain ⟨rfl, goes, -⟩ := h
    exact (List.append_nil past).symm ▸ tracks.disciplined goes
  | cons first early ih =>
    subst split
    obtain ⟨rfl, goes, later⟩ := h
    rw [List.flatMap_cons, ← List.append_assoc]
    exact ih later (tracks.goes goes) rfl

/-- However a session that its first handshake has established receives, it reads only when it has to, and
loses nothing by a read that gives nothing. -/
theorem receiveEach_disciplined (h : FirstEstablished session) (transport : Transport σ)
    (channel : SecureChannel σ) (buffers : List Bytes) (state : σ) :
    ∃ receipts after, Accounted transport channel session buffers state receipts after ∧
      Throughout (Due session.carried) [] (receipts.flatMap (·.deeds)) ∧
      ∀ early receipt late, receipts = early ++ receipt :: late →
        Disciplined (early.flatMap (·.deeds)) receipt := by
  obtain ⟨receipts, after, accounted⟩ := accounted_receiveEach transport channel session buffers state
  obtain ⟨⟨sizing, -, ready⟩, -, untried⟩ := h.untried
  have tracks : session.Tracks session.carried [] :=
    ⟨⟨sizing, ready⟩, rfl, by rw [untried]; rfl⟩
  exact ⟨receipts, after, accounted, accounted.linked.due tracks,
    fun early receipt late split => accounted.linked.disciplined tracks split⟩

/-- The bytes that came with the handshake are tried before any are read, and a read that fails is not the end. -/
theorem receiveEach_disciplined_awkward :
    FirstEstablished (settled [3, 0x5b]) ∧
      ∃ receipts after,
        Accounted scriptedStream scripted (settled [3, 0x5b]) [[0], [0, 0], [0, 0], [0, 0], [0, 0]] awkward
          receipts after ∧
        receipts.map (·.received.result) =
          [.ok 1, .ok 1, .error .receiveFailed, .error .timeout, .ok 0] ∧
        ∀ early receipt late, receipts = early ++ receipt :: late →
          Disciplined (early.flatMap (·.deeds)) receipt := by
  have established : FirstEstablished (settled [3, 0x5b]) :=
    firstEstablished_settled { unread := frame [7, 8] ++ frame [9] ++ [3, 0x5b], cuts := [6] }
      (by decide +kernel)
  obtain ⟨receipts, after, accounted, -, disciplined⟩ :=
    receiveEach_disciplined established scriptedStream scripted [[0], [0, 0], [0, 0], [0, 0], [0, 0]] awkward
  refine ⟨established, receipts, after, accounted, ?_, disciplined⟩
  have results : ((settled [3, 0x5b]).receiveEach scriptedStream scripted
      [[0], [0, 0], [0, 0], [0, 0], [0, 0]] awkward).1.map (·.result) =
    [.ok 1, .ok 1, .error .receiveFailed, .error .timeout, .ok 0] := by decide +kernel
  rw [accounted.plain, List.map_map] at results
  exact results

end NetReactor
