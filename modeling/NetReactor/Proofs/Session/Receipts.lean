import NetReactor.Proofs.Session.Observed
import NetReactor.Proofs.Session.RoundTrip
import NetReactor.Proofs.Session.Stages
/-!
Calls to receive, one after another, and all that is asked of the provider and of the stream for each of them.
A call goes in one of a few ways, and what it leaves of the session is what the next one starts with.
-/
namespace NetReactor

variable {σ : Type} {transport : Transport σ} {channel : SecureChannel σ} {session : Session}
variable {buffer : Bytes}

namespace Session

def fed (session : Session) (count : Nat) (left : Bytes) : Session :=
  { session with carried := session.carried ++ left.take count, carriedIncomplete := false }

inductive Tries (session : Session) (buffer : Bytes) (answer : Decrypted) (left : Bytes) : Attempt → Prop
  | opened (done : answer.status = .done) : Tries session buffer answer left
    (.ended ({ session with carried := [] }.accept answer (session.carried.overlay left) buffer))
  | incomplete (short : answer.status = .incompleteMessage) : Tries session buffer answer left
    (.incomplete { session with carried := session.carried.overlay left, carriedIncomplete := true })
  | refused (closed : answer.status ≠ .done) (whole : answer.status ≠ .incompleteMessage) :
    Tries session buffer answer left
      (.ended { result := .error .receiveFailed, buffer, session := { session with carried := [] } })

inductive Reads (session : Session) (buffer : Bytes) : List Deed → Received → Prop
  | failed {failure : Error} {left : Bytes} :
    Reads session buffer [.received (Bytes.zeros chunk) (.error failure) left]
      { result := .error failure, buffer, session }
  | closed {left : Bytes} :
    Reads session buffer [.received (Bytes.zeros chunk) (.ok 0) left] { result := .ok 0, buffer, session }
  | tried {count : Nat} {left left' : Bytes} {answer : Decrypted} {received : Received} (some : count ≠ 0)
    (tries : (session.fed count left).Tries buffer answer left' (.ended received)) :
    Reads session buffer [.received (Bytes.zeros chunk) (.ok count) left,
      .decrypted (session.fed count left).carried answer left'] received
  | short {count : Nat} {left left' : Bytes} {answer : Decrypted} {short : Session} (some : count ≠ 0)
    (tries : (session.fed count left).Tries buffer answer left' (.incomplete short)) :
    Reads session buffer [.received (Bytes.zeros chunk) (.ok count) left,
      .decrypted (session.fed count left).carried answer left']
      { result := .error .wouldBlock, buffer, session := short }

theorem tries_decryptCarried (session : Session) (buffer : Bytes) (seen : Observed σ) :
    ∃ answer left attempt state,
      session.decryptCarried channel.observed buffer seen =
        (attempt, { state, deeds := seen.deeds ++ [.decrypted session.carried answer left] }) ∧
      session.Tries buffer answer left attempt := by
  rcases asked : channel.decrypt session.carried seen.state with ⟨⟨⟨status, regions⟩, left⟩, next⟩
  rw [decryptCarried, bind_of_eq (observed_decrypt asked)]
  refine ⟨⟨status, regions⟩, left, ?_⟩
  cases status with
  | done => exact ⟨_, next, rfl, .opened rfl⟩
  | incompleteMessage => exact ⟨_, next, rfl, .incomplete rfl⟩
  | continueNeeded => exact ⟨_, next, rfl, .refused (by simp) (by simp)⟩
  | error => exact ⟨_, next, rfl, .refused (by simp) (by simp)⟩

theorem reads_receiveMore (session : Session) (buffer : Bytes) (seen : Observed σ) :
    ∃ deeds received state,
      session.receiveMore transport.observed channel.observed buffer seen =
        (received, { state, deeds := seen.deeds ++ deeds }) ∧
      session.Reads buffer deeds received := by
  rcases asked : transport.recv (Bytes.zeros chunk) seen.state with ⟨⟨result, left⟩, next⟩
  rw [receiveMore, bind_of_eq (observed_recv asked)]
  cases result with
  | error failure => exact ⟨_, _, next, rfl, .failed⟩
  | ok count =>
    cases count with
    | zero => exact ⟨_, _, next, rfl, .closed⟩
    | succ count =>
      obtain ⟨answer, left', attempt, state, tried, tries⟩ :=
        @tries_decryptCarried _ channel (session.fed (count + 1) left) buffer
          { state := next
            deeds := seen.deeds ++ [.received (Bytes.zeros chunk) (.ok (count + 1)) left] }
      rw [List.append_assoc] at tried
      cases attempt with
      | ended received =>
        exact ⟨_, received, state, bind_of_eq tried, .tried (Nat.succ_ne_zero count) tries⟩
      | incomplete short => exact ⟨_, _, state, bind_of_eq tried, .short (Nat.succ_ne_zero count) tries⟩

theorem Tries.sameStage {answer : Decrypted} {left : Bytes} {attempt : Attempt}
    (h : session.Tries buffer answer left attempt) : SameStage attempt.left session := by
  cases h with
  | opened =>
    have same := sameStage_accept { session with carried := [] } answer (session.carried.overlay left) buffer
    exact ⟨same.stage, same.sizing⟩
  | incomplete => exact ⟨rfl, rfl⟩
  | refused => exact ⟨rfl, rfl⟩

theorem Reads.sameStage {deeds : List Deed} {received : Received} (h : session.Reads buffer deeds received) :
    SameStage received.session session := by
  cases h with
  | failed => exact ⟨rfl, rfl⟩
  | closed => exact ⟨rfl, rfl⟩
  | tried _ tries => exact tries.sameStage.trans ⟨rfl, rfl⟩
  | short _ tries => exact tries.sameStage.trans ⟨rfl, rfl⟩

theorem mirrors_decryptCarried (session : Session) (buffer : Bytes) :
    Mirrors (session.decryptCarried channel.observed buffer) (session.decryptCarried channel buffer) := by
  refine .bind (.note _ _) fun (answer, left) => ?_
  dsimp only
  cases answer.status <;> exact .pure _

theorem mirrors_receiveMore (session : Session) (buffer : Bytes) :
    Mirrors (session.receiveMore transport.observed channel.observed buffer)
      (session.receiveMore transport channel buffer) := by
  refine .bind (.note _ _) fun (result, left) => ?_
  match result with
  | .error _ => exact .pure _
  | .ok 0 => exact .pure _
  | .ok (_ + 1) =>
    refine .bind (mirrors_decryptCarried _ _) fun attempt => ?_
    cases attempt <;> exact .pure _

end Session

structure Receipt where
  before : Session
  buffer : Bytes
  deeds : List Deed
  received : Session.Received

namespace Receipt

inductive Goes : Receipt → Prop
  | refused {before : Session} {buffer : Bytes} {failure : Error}
    (unready : before.establishedSizing = .error failure) :
    Goes ⟨before, buffer, [], { result := .error failure, buffer, session := before }⟩
  | empty {before : Session} : Goes ⟨before, [], [], { result := .ok 0, buffer := [], session := before }⟩
  | held {before : Session} {buffer : Bytes} (room : buffer ≠ []) (held : before.held ≠ []) :
    Goes ⟨before, buffer, [], before.deliver buffer⟩
  | read {before : Session} {buffer : Bytes} {deeds : List Deed} {received : Session.Received}
    (room : buffer ≠ []) (held : before.held = [])
    (known : before.carried = [] ∨ before.carriedIncomplete = true)
    (reads : before.Reads buffer deeds received) : Goes ⟨before, buffer, deeds, received⟩
  | tried {before : Session} {buffer left : Bytes} {answer : Decrypted} {received : Session.Received}
    (room : buffer ≠ []) (held : before.held = []) (carried : before.carried ≠ [])
    (untried : before.carriedIncomplete = false)
    (tries : before.Tries buffer answer left (.ended received)) :
    Goes ⟨before, buffer, [.decrypted before.carried answer left], received⟩
  | readAfter {before short : Session} {buffer left : Bytes} {answer : Decrypted} {deeds : List Deed}
    {received : Session.Received} (room : buffer ≠ []) (held : before.held = [])
    (carried : before.carried ≠ []) (untried : before.carriedIncomplete = false)
    (tries : before.Tries buffer answer left (.incomplete short))
    (reads : short.Reads buffer deeds received) :
    Goes ⟨before, buffer, .decrypted before.carried answer left :: deeds, received⟩

/-- Receiving leaves an established session established. -/
theorem Goes.sameStage {receipt : Receipt} (h : receipt.Goes) :
    Session.SameStage receipt.received.session receipt.before := by
  cases h with
  | refused => exact ⟨rfl, rfl⟩
  | empty => exact ⟨rfl, rfl⟩
  | held => exact ⟨rfl, rfl⟩
  | read _ _ _ reads => exact reads.sameStage
  | tried _ _ _ _ tries => exact tries.sameStage
  | readAfter _ _ _ _ tries reads => exact reads.sameStage.trans tries.sameStage

end Receipt

theorem goes_recv (session : Session) (buffer : Bytes) (seen : Observed σ) :
    ∃ receipt : Receipt, ∃ state,
      session.recv transport.observed channel.observed buffer seen =
        (receipt.received, { state, deeds := seen.deeds ++ receipt.deeds }) ∧
      receipt.before = session ∧ receipt.buffer = buffer ∧ receipt.Goes := by
  rw [Session.recv]
  cases ready : session.establishedSizing with
  | error failure =>
    exact ⟨⟨session, buffer, [], _⟩, seen.state, by rw [List.append_nil]; rfl, rfl, rfl, .refused ready⟩
  | ok =>
    dsimp only
    by_cases room : buffer = []
    · subst room
      rw [List.isEmpty_nil, if_pos rfl]
      exact ⟨_, seen.state, by rw [List.append_nil]; rfl, rfl, rfl, .empty⟩
    rw [List.isEmpty_eq_false_iff.mpr room, if_neg Bool.false_ne_true]
    by_cases held : session.held = []
    · rw [held, if_neg (by simp)]
      cases known : session.carried.isEmpty || session.carriedIncomplete with
      | true =>
        rw [if_pos rfl]
        rw [Bool.or_eq_true, List.isEmpty_iff] at known
        obtain ⟨deeds, received, state, ran, reads⟩ :=
          @Session.reads_receiveMore _ transport channel session buffer seen
        exact ⟨⟨session, buffer, deeds, received⟩, state, ran, rfl, rfl, .read room held known reads⟩
      | false =>
        rw [if_neg Bool.false_ne_true]
        obtain ⟨carried, untried⟩ := Bool.or_eq_false_iff.mp known
        rw [List.isEmpty_eq_false_iff] at carried
        obtain ⟨answer, left, attempt, middle, tried, tries⟩ :=
          @Session.tries_decryptCarried _ channel session buffer seen
        cases attempt with
        | ended received =>
          exact ⟨⟨session, buffer, _, received⟩, middle, bind_of_eq tried, rfl, rfl,
            .tried room held carried untried tries⟩
        | incomplete short =>
          obtain ⟨deeds, received, state, ran, reads⟩ :=
            @Session.reads_receiveMore _ transport channel short buffer
              { state := middle, deeds := seen.deeds ++ [.decrypted session.carried answer left] }
          rw [List.append_assoc] at ran
          exact ⟨⟨session, buffer, _, received⟩, state, (bind_of_eq tried).trans ran, rfl, rfl,
            .readAfter room held carried untried tries reads⟩
    · rw [if_pos (by simp [held])]
      exact ⟨⟨session, buffer, [], _⟩, seen.state, by rw [List.append_nil]; rfl, rfl, rfl, .held room held⟩

theorem mirrors_recv (session : Session) (buffer : Bytes) :
    Mirrors (session.recv transport.observed channel.observed buffer)
      (session.recv transport channel buffer) := by
  unfold Session.recv
  split
  · exact .pure _
  · split
    · exact .pure _
    · split
      · exact .pure _
      · split
        · exact Session.mirrors_receiveMore _ _
        · refine .bind (Session.mirrors_decryptCarried _ _) fun attempt => ?_
          cases attempt with
          | ended => exact .pure _
          | incomplete => exact Session.mirrors_receiveMore _ _

def Session.after (session : Session) (results : List Session.Received) : Session :=
  results.foldl (fun _ received => received.session) session

def Linked : Session → List Receipt → Prop
  | _, [] => True
  | session, receipt :: receipts =>
    receipt.before = session ∧ receipt.Goes ∧ Linked receipt.received.session receipts

structure Accounted (transport : Transport σ) (channel : SecureChannel σ) (session : Session)
    (buffers : List Bytes) (state : σ) (receipts : List Receipt) (after : σ) : Prop where
  plain : session.receiveEach transport channel buffers state = (receipts.map (·.received), after)
  observed : session.receiveEach transport.observed channel.observed buffers { state } =
    (receipts.map (·.received), { state := after, deeds := receipts.flatMap (·.deeds) })
  buffers : receipts.map (·.buffer) = buffers
  linked : Linked session receipts

theorem linked_receiveEach (session : Session) (buffers : List Bytes) (seen : Observed σ) :
    ∃ receipts : List Receipt, ∃ state,
      session.receiveEach transport.observed channel.observed buffers seen =
        (receipts.map (·.received), { state, deeds := seen.deeds ++ receipts.flatMap (·.deeds) }) ∧
      receipts.map (·.buffer) = buffers ∧ Linked session receipts := by
  induction buffers generalizing session seen with
  | nil => exact ⟨[], seen.state, by rw [List.flatMap_nil, List.append_nil]; rfl, rfl, trivial⟩
  | cons buffer buffers ih =>
    obtain ⟨receipt, middle, ran, rfl, same, goes⟩ :=
      @goes_recv _ transport channel session buffer seen
    obtain ⟨receipts, state, later, rest, linked⟩ :=
      ih receipt.received.session { state := middle, deeds := seen.deeds ++ receipt.deeds }
    refine ⟨receipt :: receipts, state, ?_, by rw [List.map_cons, same, rest], rfl, goes, linked⟩
    rw [Session.receiveEach, bind_of_eq ran, bind_of_eq later, List.flatMap_cons, ← List.append_assoc]
    rfl

theorem mirrors_receiveEach (session : Session) (buffers : List Bytes) :
    Mirrors (session.receiveEach transport.observed channel.observed buffers)
      (session.receiveEach transport channel buffers) := by
  induction buffers generalizing session with
  | nil => exact .pure _
  | cons buffer buffers ih =>
    exact .bind (mirrors_recv session buffer) fun received => .bind (ih received.session) fun _ => .pure _

/-- Every sequence of calls to receive can be accounted for. -/
theorem accounted_receiveEach (transport : Transport σ) (channel : SecureChannel σ) (session : Session)
    (buffers : List Bytes) (state : σ) :
    ∃ receipts after, Accounted transport channel session buffers state receipts after := by
  obtain ⟨receipts, after, ran, same, linked⟩ :=
    @linked_receiveEach _ transport channel session buffers { state }
  obtain ⟨results, last⟩ := @mirrors_receiveEach _ transport channel session buffers { state }
  rw [ran] at results last
  exact ⟨receipts, after, Prod.ext results.symm last.symm, ran, same, linked⟩

end NetReactor
