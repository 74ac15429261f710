import NetReactor.Proofs.Session.Paired
/-!
A receive call. Plaintext that is held, bytes that are carried and bytes that the stream has yet to give make
up the records that are on their way; a call hands out the start of their plaintext.
-/
namespace NetReactor

variable {π ρ τ : Type} {sender : SecureChannel π} {receiver : SecureChannel ρ} {sizing : RecordSizing}
variable {Record : Bytes → Prop} {ahead : π → ρ → Flight → Prop} {transport : Transport τ}
variable {unread : τ → Bytes} {one : π} {session : Session} {sides : Sides ρ τ}
variable {seen after : Observed (Sides ρ τ)} {flight more : Flight}
variable {buffer due pending : Bytes} {received : Session.Received} {deeds made : List Deed}

def Session.Received.given (received : Session.Received) : Bytes :=
  match received.result with
  | .ok count => received.buffer.take count
  | .error _ => []

/-- The plaintext that is still to be given: what is held, and what is on its way. -/
def Session.owed (session : Session) (flight : Flight) : Bytes := session.held ++ flight.plaintext

def Deed.isFailure : Deed → Bool
  | .received _ (.error _) _ => true
  | _ => false

def failures (deeds : List Deed) : Nat := deeds.countP Deed.isFailure

structure Receiving (Record : Bytes → Prop) (ahead : π → ρ → Flight → Prop) (unread : τ → Bytes) (one : π)
    (session : Session) (sides : Sides ρ τ) (flight : Flight) : Prop where
  established : ∃ sizing, session.establishedSizing = .ok sizing
  ahead : ahead one sides.provider flight
  records : ∀ pair ∈ flight, pair.1 ≠ [] ∧ Record pair.2
  stream : session.carried ++ unread sides.stream = flight.wire
  incomplete : session.carriedIncomplete = true → Starved Record session.carried

structure Serves (Record : Bytes → Prop) (ahead : π → ρ → Flight → Prop) (unread : τ → Bytes) (one : π)
    (due pending : Bytes) (deeds : List Deed) (received : Session.Received) (after : Observed (Sides ρ τ))
    (more : Flight) (made : List Deed) : Prop where
  receiving : Receiving Record ahead unread one received.session after.state more
  called : after.deeds = deeds ++ made
  given : due = received.given ++ received.session.owed more
  failed : ∀ failure, received.result = .error failure →
    failure = .wouldBlock ∨ ∃ scratch left, .received scratch (.error failure) left ∈ made
  ended : received.result = .ok 0 → due = []
  -- Unless it came to the end, the call gave plaintext, read bytes or met with a failure.
  progress : received.result ≠ .ok 0 → (received.session.owed more).length + (unread after.state.stream).length <
    due.length + pending.length + failures made

theorem deliver_given (session : Session) (buffer : Bytes) :
    session.held = (session.deliver buffer).given ++ (session.deliver buffer).session.held := by
  have first : (session.deliver buffer).given =
      session.held.take (min session.held.length buffer.length) := by
    simp only [Session.deliver, Session.Received.given, Bytes.overlay]
    have fits : min session.held.length buffer.length = (session.held.take buffer.length).length := by
      rw [List.length_take, Nat.min_comm]
    rw [List.take_append_of_le_length (Nat.le_of_eq fits), List.take_take]
    congr 1
    omega
  rw [first]
  exact (List.take_append_drop _ _).symm

/-- A record that was opened gives its plaintext, and what follows it is carried. -/
theorem accept_opens {decrypted : Decrypted} {message data rest : Bytes}
    (opens : Opens decrypted message data rest) (nonempty : data ≠ []) (empty : session.carried = [])
    (buffer : Bytes) : session.accept decrypted message buffer =
      ({ session with carried := rest, held := session.held ++ data } : Session).deliver buffer := by
  rw [Session.accept, opens.payload nonempty, empty, opens.carried]

theorem Serves.of_reads {pending' : Bytes} {reads : List Deed}
    (h : Serves Record ahead unread one due pending' (deeds ++ reads) received after more made)
    (less : pending'.length ≤ pending.length) :
    Serves Record ahead unread one due pending deeds received after more (reads ++ made) where
  receiving := h.receiving
  called := by rw [h.called, List.append_assoc]
  given := h.given
  failed failure failed :=
    (h.failed failure failed).imp_right
      fun ⟨scratch, left, mem⟩ => ⟨scratch, left, List.mem_append_right reads mem⟩
  ended := h.ended
  progress unended := by
    have rest := h.progress unended
    have total : failures (reads ++ made) = failures reads + failures made := List.countP_append
    omega

namespace Receiving

section

variable (h : Receiving Record ahead unread one session sides flight)
include h

/-- The carried bytes hold no whole record, or start with the first one on its way. -/
theorem carried_cases (pair : Paired sender receiver sizing Record ahead) :
    Starved Record session.carried ∨ ∃ data record rest, ∃ others : Flight,
      flight = (data, record) :: others ∧ session.carried = record ++ rest ∧
        rest ++ unread sides.stream = others.wire := by
  refine (starved_or Record session.carried).imp_right fun ⟨record, rest, is, whole⟩ => ?_
  have stream := h.stream
  rw [whole, List.append_assoc] at stream
  cases flight with
  | nil => exact absurd (List.append_eq_nil_iff.mp stream).1 (pair.delimited.nonempty is)
  | cons first others =>
    obtain ⟨data, bytes⟩ := first
    rw [Flight.wire_cons] at stream
    obtain ⟨rfl, rest'⟩ :=
      pair.delimited.first_unique is (h.records _ List.mem_cons_self).2 stream
    exact ⟨data, record, rest, others, rfl, whole, rest'⟩

/-- At the end of the stream nothing is on its way any more, unless a whole record is carried. -/
theorem flight_eq_nil (starved : Starved Record session.carried) (ends : unread sides.stream = []) :
    flight = [] := by
  have stream := h.stream
  rw [ends, List.append_nil] at stream
  cases flight with
  | nil => rfl
  | cons first others =>
    refine absurd ?_ (starved first.2 (h.records first List.mem_cons_self).2)
    rw [stream]
    exact List.prefix_append _ _

/-- A session that carries other bytes of the same stream, and has not tried them yet. -/
theorem fill (carried : Bytes) (stream : τ)
    (same : carried ++ unread stream = session.carried ++ unread sides.stream) :
    Receiving Record ahead unread one { session with carried, carriedIncomplete := false }
      { sides with stream } flight where
  established := h.established
  ahead := h.ahead
  records := h.records
  stream := same.trans h.stream
  incomplete := nofun

theorem mark (starved : Starved Record session.carried) :
    Receiving Record ahead unread one { session with carriedIncomplete := true } sides flight where
  established := h.established
  ahead := h.ahead
  records := h.records
  stream := h.stream
  incomplete _ := starved

end

variable (h : Receiving Record ahead unread one session seen.state flight)
include h

theorem deliver (held : session.held ≠ []) (room : buffer ≠ []) :
    Serves Record ahead unread one (session.owed flight) (unread seen.state.stream) seen.deeds
      (session.deliver buffer) seen flight [] := by
  have positive := List.length_pos_iff.mpr held
  have positive' := List.length_pos_iff.mpr room
  constructor
  case receiving => exact ⟨h.established, h.ahead, h.records, h.stream, h.incomplete⟩
  case called => exact (List.append_nil _).symm
  case given =>
    rw [Session.owed, Session.owed, ← List.append_assoc, ← deliver_given]
  case failed => nofun
  case ended =>
    intro none
    have zero : min session.held.length buffer.length = 0 := Except.ok.inj none
    omega
  case progress =>
    intro _
    simp only [Session.owed, Session.deliver, List.length_append, List.length_drop]
    omega

/-- A try to decrypt the carried bytes finds no whole record, or gives plaintext of the first one. -/
theorem decryptCarried (pair : Paired sender receiver sizing Record ahead)
    (fresh : session.carriedIncomplete = false) (room : buffer ≠ []) :
    ∃ decrypted left,
      (Starved Record session.carried ∧ session.decryptCarried receiver.beside.observed buffer seen =
        (.incomplete { session with carriedIncomplete := true },
          { seen with deeds := seen.deeds ++ [.decrypted session.carried decrypted left] })) ∨
      ∃ received after more,
        session.decryptCarried receiver.beside.observed buffer seen = (.ended received, after) ∧
          Serves Record ahead unread one (session.owed flight) (unread seen.state.stream) seen.deeds received
            after more [.decrypted session.carried decrypted left] := by
  obtain starved | ⟨data, record, rest, others, rfl, whole, stream⟩ := h.carried_cases pair
  · obtain ⟨decrypted, left, answer, status, same⟩ := pair.incomplete seen.state.provider starved
    refine ⟨decrypted, left, .inl ⟨starved, ?_⟩⟩
    rw [Session.decryptCarried, bind_of_eq (observed_decrypt (beside_decrypt answer))]
    dsimp only
    rw [status, same]
    rfl
  · obtain ⟨decrypted, left, next, answer, opens, start⟩ := pair.decrypts h.ahead rest
    have nonempty := (h.records _ List.mem_cons_self).1
    let opened : Session := { session with carried := rest, held := session.held ++ data }
    let after : Observed (Sides ρ τ) :=
      { state := { seen.state with provider := next },
        deeds := seen.deeds ++ [.decrypted (record ++ rest) decrypted left] }
    have receiving : Receiving Record ahead unread one opened after.state others := by
      refine ⟨h.established, start, fun pair mem => h.records pair (List.mem_cons_of_mem _ mem), stream, ?_⟩
      exact fun marked => nomatch fresh.symm.trans marked
    have serves := receiving.deliver (List.append_ne_nil_of_right_ne_nil session.held nonempty) room
    have due : opened.owed others = session.owed ((data, record) :: others) := by
      rw [Session.owed, Session.owed, Flight.plaintext_cons, ← List.append_assoc]
    refine ⟨decrypted, left, .inr ⟨opened.deliver buffer, after, others, ?_, ?_⟩⟩
    · rw [Session.decryptCarried, whole, bind_of_eq (observed_decrypt (beside_decrypt answer))]
      dsimp only
      rw [opens.done, accept_opens opens nonempty rfl]
      rfl
    · rw [whole, ← due]
      exact serves.of_reads Nat.le.refl

/-- A read that failed changes nothing, and its failure is the result. -/
theorem readFailed {failure : Error} {scratch left : Bytes} {next : τ}
    (same : unread next = unread seen.state.stream) :
    Serves Record ahead unread one (session.owed flight) (unread seen.state.stream) seen.deeds
      { result := .error failure, buffer, session }
      { state := { seen.state with stream := next },
        deeds := seen.deeds ++ [.received scratch (.error failure) left] } flight
      [.received scratch (.error failure) left] := by
  constructor
  case receiving => exact ⟨h.established, h.ahead, h.records, by rw [← h.stream, same], h.incomplete⟩
  case called => rfl
  case given => rfl
  case failed =>
    intro failure' failed
    cases failed
    exact .inr ⟨scratch, left, List.mem_singleton_self _⟩
  case ended => nofun
  case progress =>
    intro _
    have one : failures [.received scratch (.error failure) left] = 1 := rfl
    dsimp only
    rw [same, one]
    exact Nat.lt_succ_self _

/-- The stream ends only when nothing is left to give. -/
theorem readEnded {scratch left : Bytes} {next : τ} (held : session.held = [])
    (starved : Starved Record session.carried) (ends : unread seen.state.stream = [])
    (same : unread next = unread seen.state.stream) :
    Serves Record ahead unread one (session.owed flight) (unread seen.state.stream) seen.deeds
      { result := .ok 0, buffer, session }
      { state := { seen.state with stream := next }, deeds := seen.deeds ++ [.received scratch (.ok 0) left] }
      flight [.received scratch (.ok 0) left] := by
  constructor
  case receiving => exact ⟨h.established, h.ahead, h.records, by rw [← h.stream, same], h.incomplete⟩
  case called => rfl
  case given => rfl
  case failed => nofun
  case ended =>
    intro _
    rw [Session.owed, held, h.flight_eq_nil starved ends]
    rfl
  case progress => exact fun unended => absurd rfl unended

/-- A read at the end of which no whole record is there would block; at the end of the stream there is
nothing left to give. -/
theorem receiveMore (pair : Paired sender receiver sizing Record ahead) (delivers : Delivers transport unread)
    (held : session.held = []) (starved : Starved Record session.carried) (room : buffer ≠ []) :
    ∃ received after more made,
      session.receiveMore transport.beside.observed receiver.beside.observed buffer seen = (received, after) ∧
        Serves Record ahead unread one (session.owed flight) (unread seen.state.stream) seen.deeds received
          after more made := by
  rcases read : transport.recv (Bytes.zeros Session.chunk) seen.state.stream with ⟨⟨result, left⟩, next⟩
  rw [Session.receiveMore, bind_of_eq (observed_recv (beside_recv read))]
  cases result with
  | error failure => exact ⟨_, _, flight, _, rfl, h.readFailed (delivers.recv_error read)⟩
  | ok count =>
    obtain ⟨le, length, split, ends⟩ := delivers.recv_ok (List.cons_ne_nil _ _) read
    cases count with
    | zero => exact ⟨_, _, flight, _, rfl, h.readEnded held starved (ends rfl) split.symm⟩
    | succ count =>
      have shorter : (unread next).length < (unread seen.state.stream).length := by
        rw [split, List.length_append, List.length_take, length, Nat.min_eq_left le]
        exact Nat.lt_add_of_pos_left (Nat.succ_pos count)
      let middle : Observed (Sides ρ τ) :=
        { state := { seen.state with stream := next },
          deeds := seen.deeds ++ [.received (Bytes.zeros Session.chunk) (.ok (count + 1)) left] }
      have fuller : Receiving Record ahead unread one _ middle.state flight :=
        h.fill (session.carried ++ left.take (count + 1)) next (by rw [split, List.append_assoc])
      obtain ⟨decrypted, left', ⟨starved, tried⟩ | ⟨received, after, more, tried, serves⟩⟩ :=
        fuller.decryptCarried pair rfl room
      · refine ⟨_, _, flight, [.received (Bytes.zeros Session.chunk) (.ok (count + 1)) left,
          .decrypted (session.carried ++ left.take (count + 1)) decrypted left'], bind_of_eq tried, ?_⟩
        constructor
        case receiving => exact fuller.mark starved
        case called => exact List.append_assoc ..
        case given => rfl
        case failed => exact fun failure failed => .inl (Except.error.inj failed).symm
        case ended => nofun
        case progress =>
          intro _
          exact Nat.add_lt_add_left shorter _
      · exact ⟨received, after, more, _, bind_of_eq tried, serves.of_reads (Nat.le_of_lt shorter)⟩

/-- A receive call with room gives the start of the plaintext that is on its way. -/
theorem recv (pair : Paired sender receiver sizing Record ahead) (delivers : Delivers transport unread)
    (room : buffer ≠ []) :
    ∃ received after more made,
      session.recv transport.beside.observed receiver.beside.observed buffer seen = (received, after) ∧
        Serves Record ahead unread one (session.owed flight) (unread seen.state.stream) seen.deeds received
          after more made := by
  obtain ⟨sizing, established⟩ := h.established
  have space : buffer.isEmpty = false := List.isEmpty_eq_false_iff.mpr room
  rw [Session.recv, established]
  dsimp only
  rw [space, if_neg Bool.false_ne_true]
  by_cases held : session.held = []
  · rw [held, if_neg (by simp)]
    cases known : session.carried.isEmpty || session.carriedIncomplete with
    | true =>
      rw [if_pos rfl]
      refine h.receiveMore pair delivers held ?_ room
      simp only [Bool.or_eq_true, List.isEmpty_iff] at known
      cases known with
      | inl empty => exact empty ▸ pair.delimited.starved_nil
      | inr marked => exact h.incomplete marked
    -- Carried bytes that were not tried yet may hold a whole record; only if not there is a read.
    | false =>
      rw [if_neg Bool.false_ne_true]
      obtain ⟨decrypted, left, ⟨starved, tried⟩ | ⟨received, after, more, tried, serves⟩⟩ :=
        h.decryptCarried pair (Bool.or_eq_false_iff.mp known).2 room
      · let tested : Observed (Sides ρ τ) :=
          { seen with deeds := seen.deeds ++ [.decrypted session.carried decrypted left] }
        have marked : Receiving Record ahead unread one _ tested.state flight := h.mark starved
        obtain ⟨received, after, more, made, ran, serves⟩ :=
          marked.receiveMore pair delivers held starved room
        exact ⟨received, after, more, _, (bind_of_eq tried).trans ran, serves.of_reads Nat.le.refl⟩
      · exact ⟨received, after, more, _, bind_of_eq tried, serves⟩
  · rw [if_pos (by simp [held])]
    exact ⟨_, _, flight, [], rfl, h.deliver held room⟩

end Receiving
end NetReactor
