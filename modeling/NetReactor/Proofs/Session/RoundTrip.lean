import NetReactor.Proofs.Session.Framed
import NetReactor.Proofs.Session.Receiving
import NetReactor.Session.Handshake
/-!
What one session sends the other one receives: the bytes of the messages in their order, whatever the cuts on
the wire, the failures between two reads and the room in the buffers.
-/
namespace NetReactor

variable {π ρ τ υ : Type} {sender : SecureChannel π} {receiver : SecureChannel ρ} {sizing : RecordSizing}
variable {Record : Bytes → Prop} {ahead : π → ρ → Flight → Prop} {transport : Transport τ}
variable {unread : τ → Bytes} {one : π} {session : Session} {seen : Observed (Sides ρ τ)} {flight : Flight}
variable {buffers : List Bytes}

/-- A session that its first handshake has established, with whatever provider and stream. -/
def FirstEstablished (session : Session) : Prop :=
  ∃ (σ : Type) (transport : Transport σ) (channel : SecureChannel σ) (budget : Nat) (context : Context)
    (before after : σ), Session.handshake transport channel budget { context, credentials := true } before =
      some ((.ok (), session), after)

/-- The handshake of a new session sets nothing but the stage, the record sizes and the carried bytes. -/
theorem handshake_established {σ : Type} {wire : Transport σ} {provider : SecureChannel σ} {budget : Nat}
    {context : Context} {before after : σ}
    (ran : Session.handshake wire provider budget { context, credentials := true } before =
      some ((.ok (), session), after)) :
    ∃ sizing carried, session =
      { context, credentials := true, stage := .established, sizing := some sizing, carried } := by
  let exchanging : Session := { context, credentials := true, stage := .exchanging }
  cases exchanged : exchanging.exchangeTokens wire provider budget before with
  | none =>
    have stuck : Session.handshake wire provider budget { context, credentials := true } before = none :=
      congrArg (Option.bind · _) exchanged
    exact nomatch ran.symm.trans stuck
  | some pair =>
    obtain ⟨result, state⟩ := pair
    have ended : Session.handshake wire provider budget { context, credentials := true } before = _ :=
      budgeted_bind_of_eq exchanged
    rw [ran] at ended
    cases result with
    | error failure => cases ended
    | ok agreement =>
      cases ended
      exact ⟨agreement.sizing, agreement.carried, rfl⟩

/-- It holds no plaintext, and its carried bytes were not tried yet. -/
theorem FirstEstablished.untried (h : FirstEstablished session) :
    (∃ sizing, session.sizing = some sizing ∧ session.establishedSizing = .ok sizing) ∧ session.held = [] ∧
      session.carriedIncomplete = false := by
  obtain ⟨σ, transport, channel, budget, context, before, after, ran⟩ := h
  obtain ⟨sizing, carried, rfl⟩ := handshake_established ran
  exact ⟨⟨sizing, rfl, rfl⟩, rfl, rfl⟩

def Session.receiveEach {σ : Type} (transport : Transport σ) (channel : SecureChannel σ) (session : Session) :
    List Bytes → StateM σ (List Received)
  | [] => return []
  | buffer :: rest => do
    let received ← session.recv transport channel buffer
    return received :: (← received.session.receiveEach transport channel rest)

def delivered (results : List Session.Received) : Bytes := results.flatMap Session.Received.given

structure Streams (text pending : Bytes) (results : List Session.Received) (deeds : List Deed) : Prop where
  inOrder : delivered results <+: text
  failed : ∀ received ∈ results, ∀ failure, received.result = .error failure →
    failure = .wouldBlock ∨ ∃ scratch left, .received scratch (.error failure) left ∈ deeds
  ended : ∀ received ∈ results, received.result = .ok 0 → delivered results = text
  complete : text.length + pending.length + failures deeds < results.length → delivered results = text

theorem Streams.nil (text pending : Bytes) : Streams text pending [] [] where
  inOrder := List.nil_prefix
  failed _ mem := nomatch mem
  ended _ mem := nomatch mem
  complete enough := absurd enough (Nat.not_lt_zero _)

/-- A first call that gave the start of the text, before those that give the rest of it. -/
theorem Streams.cons {text rest pending pending' : Bytes} {received : Session.Received}
    {results : List Session.Received} {deeds more : List Deed}
    (h : Streams rest pending' results more) (given : text = received.given ++ rest)
    (failed : ∀ failure, received.result = .error failure →
      failure = .wouldBlock ∨ ∃ scratch left, .received scratch (.error failure) left ∈ deeds)
    (ended : received.result = .ok 0 → text = [])
    (progress : received.result ≠ .ok 0 →
      rest.length + pending'.length < text.length + pending.length + failures deeds) :
    Streams text pending (received :: results) (deeds ++ more) := by
  have split : delivered (received :: results) = received.given ++ delivered results := List.flatMap_cons
  have inOrder : delivered (received :: results) <+: text := by
    rw [split, given]
    exact (List.prefix_append_right_inj _).mpr h.inOrder
  have whole (rest' : delivered results = rest) : delivered (received :: results) = text := by
    rw [split, rest', given]
  have atEnd (none : received.result = .ok 0) : delivered (received :: results) = text := by
    rw [ended none] at inOrder ⊢
    exact List.prefix_nil.mp inOrder
  constructor
  case inOrder => exact inOrder
  case failed =>
    intro received' mem failure failing
    cases List.mem_cons.mp mem with
    | inl first =>
      subst first
      exact (failed failure failing).imp_right
        fun ⟨scratch, left, mem⟩ => ⟨scratch, left, List.mem_append_left more mem⟩
    | inr late =>
      exact (h.failed received' late failure failing).imp_right
        fun ⟨scratch, left, mem⟩ => ⟨scratch, left, List.mem_append_right deeds mem⟩
  case ended =>
    intro received' mem none
    cases List.mem_cons.mp mem with
    | inl first => exact atEnd (first ▸ none)
    | inr late => exact whole (h.ended received' late none)
  case complete =>
    intro enough
    by_cases none : received.result = .ok 0
    · exact atEnd none
    · have total : failures (deeds ++ more) = failures deeds + failures more := List.countP_append
      have less := progress none
      rw [List.length_cons] at enough
      exact whole (h.complete (by omega))

/-- The calls of a receiving session give what is owed. -/
theorem Receiving.receiveEach (pair : Paired sender receiver sizing Record ahead)
    (delivers : Delivers transport unread)
    (h : Receiving Record ahead unread one session seen.state flight) (room : ∀ buffer ∈ buffers, buffer ≠ []) :
    ∃ results after made,
      session.receiveEach transport.beside.observed receiver.beside.observed buffers seen = (results, after) ∧
        after.deeds = seen.deeds ++ made ∧ results.length = buffers.length ∧
        Streams (session.owed flight) (unread seen.state.stream) results made := by
  -- Each call leaves a receiving session behind, for the plaintext that it did not give.
  induction buffers generalizing session seen flight with
  | nil =>
    exact ⟨[], seen, [], rfl, (List.append_nil _).symm, rfl, .nil _ _⟩
  | cons buffer buffers ih =>
    obtain ⟨received, middle, more, made, first, serves⟩ :=
      h.recv pair delivers (room buffer List.mem_cons_self)
    obtain ⟨results, after, later, rest, called, length, streams⟩ :=
      ih serves.receiving fun buffer mem => room buffer (List.mem_cons_of_mem _ mem)
    refine ⟨received :: results, after, made ++ later, ?_, ?_, congrArg Nat.succ length,
      streams.cons serves.given serves.failed serves.ended serves.progress⟩
    · rw [Session.receiveEach, bind_of_eq first, bind_of_eq rest]
      rfl
    · rw [called, serves.called, List.append_assoc]

/-- What a session receives is the start of what the other one sent, nothing lost and nothing twice. Failures
are those of the stream, or tell that a record is not whole yet. The end of the stream is told only when all
was received, and all is received by enough calls. -/
theorem received_is_sent {wire : Transport υ} (pair : Paired sender receiver sizing Record ahead)
    (delivers : Delivers transport unread) {writer reader : Session} (established : FirstEstablished writer)
    (sizes : writer.sizing = some sizing) (established' : FirstEstablished reader) {one : π} {other : ρ}
    (start : ahead one other []) {stream : υ} {after : Observed (Sides π υ)} {messages : List Bytes}
    {results : List (Outcome Nat)} (nonempty : ∀ data ∈ messages, data ≠ [])
    (sent : writer.sendEach wire.beside.observed sender.beside.observed messages
      { state := { provider := one, stream } } = (results, after))
    (accepted : ∀ result ∈ results, ∃ count, result = .ok count) {inbound : τ}
    (arrives : reader.carried ++ unread inbound = handedOver after.deeds)
    (room : ∀ buffer ∈ buffers, buffer ≠ []) :
    ∃ received last,
      reader.receiveEach transport.beside.observed receiver.beside.observed buffers
        { state := { provider := other, stream := inbound } } = (received, last) ∧
        received.length = buffers.length ∧ Streams messages.flatten (unread inbound) received last.deeds := by
  obtain ⟨⟨sizing', sizes', agreed⟩, -, -⟩ := established.untried
  obtain rfl : sizing' = sizing := Option.some.inj (sizes'.symm.trans sizes)
  obtain ⟨⟨sizing, -, known⟩, held, untried⟩ := established'.untried
  obtain ⟨flight, onWay, plaintext, records, bytes⟩ := sendEach_ahead pair agreed start nonempty sent accepted
  let opened : Observed (Sides ρ τ) := { state := { provider := other, stream := inbound } }
  have receiving : Receiving Record ahead unread after.state.provider reader opened.state flight := by
    constructor
    case established => exact ⟨sizing, known⟩
    case ahead => exact onWay
    case records => exact records
    case stream => exact arrives.trans bytes
    case incomplete => exact fun marked => nomatch untried.symm.trans marked
  obtain ⟨received, last, made, ran, called, length, streams⟩ := receiving.receiveEach pair delivers room
  rw [Session.owed, held, plaintext] at streams
  exact ⟨received, last, ran, length, called ▸ streams⟩

def settled (carried : Bytes) : Session :=
  { context := Context.client "host", credentials := true, stage := .established,
    sizing := some ⟨1, 0, 255⟩, carried }

theorem firstEstablished_settled (stream : Pieces) {carried : Bytes}
    (ran : (Session.handshake pieces.beside framed.beside 14
        { context := Context.client "host", credentials := true }
        ({ provider := 0, stream } : Sides Nat Pieces)).map
          (fun run => (run.1.1.isOk, run.1.2.sizing, run.1.2.carried)) =
      some (true, some ⟨1, 0, 255⟩, carried)) : FirstEstablished (settled carried) := by
  obtain ⟨⟨⟨result, session⟩, after⟩, ran', same⟩ := Option.map_eq_some_iff.mp ran
  cases result with
  | error failure => cases same
  | ok =>
    obtain ⟨sizing, carried, rfl⟩ := handshake_established ran'
    cases same
    exact ⟨_, _, _, _, _, _, after, ran'⟩

def tail : Pieces := { unread := [0x58, 0x59, 1, 0x5e], cuts := [0, 5] }

def outgoing : Observed (Sides Nat Pieces) := { state := { provider := 2, stream := { unread := [] } } }

def incoming : Observed (Sides Nat Pieces) := { state := { provider := 2, stream := tail } }

/-- Two messages are received, though the first call finds only a part of the first record. -/
theorem received_is_sent_framed :
    Paired framed framed ⟨1, 0, 255⟩ IsFrame Masked ∧ Delivers pieces Pieces.unread ∧
      FirstEstablished (settled []) ∧ FirstEstablished (settled [3, 0x5b]) ∧ Masked 2 2 [] ∧
      ∃ results after received last,
        (settled []).sendEach pieces.beside.observed framed.beside.observed [[1, 2, 3], [4]] outgoing =
          (results, after) ∧
        (∀ result ∈ results, ∃ count, result = .ok count) ∧
        [3, 0x5b] ++ tail.unread = handedOver after.deeds ∧
        (settled [3, 0x5b]).receiveEach pieces.beside.observed framed.beside.observed (List.replicate 9 [0, 0])
          incoming = (received, last) ∧
        received.length = 9 ∧ delivered received = [1, 2, 3, 4] := by
  have established : FirstEstablished (settled []) :=
    firstEstablished_settled { unread := frame [7, 8] ++ frame [9] } (by decide +kernel)
  have established' : FirstEstablished (settled [3, 0x5b]) :=
    firstEstablished_settled
      { unread := frame [7, 8] ++ frame [9] ++ [3, 0x5b] ++ tail.unread, cuts := [6] } (by decide +kernel)
  have start : Masked 2 2 [] := fun _ mem => nomatch mem
  have counted : ((settled []).sendEach pieces.beside.observed framed.beside.observed [[1, 2, 3], [4]]
      outgoing).1.all Except.isOk := by decide +kernel
  have arrives : [3, 0x5b] ++ tail.unread =
      handedOver ((settled []).sendEach pieces.beside.observed framed.beside.observed [[1, 2, 3], [4]]
        outgoing).2.deeds := by decide +kernel
  rcases sent : (settled []).sendEach pieces.beside.observed framed.beside.observed [[1, 2, 3], [4]]
    outgoing with ⟨results, after⟩
  rw [sent] at counted arrives
  have accepted : ∀ result ∈ results, ∃ count, result = .ok count := by
    intro result mem
    have ok := List.all_eq_true.mp counted result mem
    cases result with
    | ok count => exact ⟨count, rfl⟩
    | error => cases ok
  have room : ∀ buffer ∈ (List.replicate 9 [0, 0] : List Bytes), buffer ≠ [] := by decide
  obtain ⟨received, last, ran, length, streams⟩ :=
    received_is_sent paired_framed delivers_pieces established rfl established' start (by decide) sent
      accepted arrives room
  have unfailing : failures ((settled [3, 0x5b]).receiveEach pieces.beside.observed framed.beside.observed
      (List.replicate 9 [0, 0]) incoming).2.deeds = 0 := by decide +kernel
  rw [incoming, ran] at unfailing
  have whole := streams.complete (by rw [unfailing, length]; decide)
  exact ⟨paired_framed, delivers_pieces, established, established', start, results, after, received, last,
    rfl, accepted, arrives, ran, length, whole⟩

end NetReactor
