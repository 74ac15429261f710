import NetReactor.Proofs.Session.Guarded
import NetReactor.Proofs.Session.OneRecord
import NetReactor.Proofs.Session.Regions
/-!
No call of a session goes out of range, whatever its provider answers. Over a stream that reports no more than the
length of what it was given, and with record sizes that can be added up, no check of the guarded calls halts, and
they do what the plain ones do.
-/
namespace NetReactor

variable {σ α β : Type} {transport : Transport σ} {channel : SecureChannel σ} {session : Session} {limit : Nat}

/-- The guarded computation does what the plain one does, and its result has this property. -/
def Safe (property : α → Prop) (guarded : Guarded σ α) (plain : StateM σ α) : Prop :=
  ∀ state, guarded state = .ok (plain state) ∧ property (plain state).1

def SafeRun (property : α → Prop) (guarded : Guarded σ α) (plain : Budgeted σ α) : Prop :=
  ∀ state, guarded state = (plain state).elim (.error .exhausted) .ok ∧
    ∀ a after, plain state = some (a, after) → property a

section

variable {property first : α → Prop} {last : β → Prop}

namespace Safe

theorem pure {a : α} (h : property a) : Safe property (pure a : Guarded σ α) (pure a) := fun _ => ⟨rfl, h⟩

theorem lift {action : StateM σ α} (h : Session.Yields action property) :
    Safe property (liftM action : Guarded σ α) action := fun state => ⟨rfl, h state⟩

theorem bind {guarded : Guarded σ α} {plain : StateM σ α} {next : α → Guarded σ β} {plainly : α → StateM σ β}
    (h : Safe first guarded plain) (hn : ∀ a, first a → Safe last (next a) (plainly a)) :
    Safe last (guarded >>= next) (plain >>= plainly) := by
  intro state
  obtain ⟨same, holds⟩ := h state
  have both : (guarded >>= next) state = (guarded state).bind fun (a, state) => next a state := rfl
  rw [both, same]
  exact hn _ holds _

theorem yields {guarded : Guarded σ α} {plain : StateM σ α} (h : Safe first guarded plain)
    (holds : Session.Yields plain property) : Safe property guarded plain :=
  fun state => ⟨(h state).1, holds state⟩

end Safe

namespace SafeRun

theorem pure {a : α} (h : property a) : SafeRun property (pure a : Guarded σ α) (pure a) := by
  intro state
  refine ⟨rfl, fun _ _ same => ?_⟩
  cases same
  exact h

theorem lift {guarded : Guarded σ α} {plain : StateM σ α} (h : Safe property guarded plain) :
    SafeRun property guarded (liftM plain) := by
  intro state
  obtain ⟨same, holds⟩ := h state
  refine ⟨same, fun a after ran => ?_⟩
  have ran : (plain state).1 = a := congrArg Prod.fst (Option.some.inj ran)
  exact ran ▸ holds

theorem bind {guarded : Guarded σ α} {plain : Budgeted σ α} {next : α → Guarded σ β} {plainly : α → Budgeted σ β}
    (h : SafeRun first guarded plain) (hn : ∀ a, first a → SafeRun last (next a) (plainly a)) :
    SafeRun last (guarded >>= next) (plain >>= plainly) := by
  intro state
  obtain ⟨same, holds⟩ := h state
  have both : (guarded >>= next) state = (guarded state).bind fun (a, state) => next a state := rfl
  have plain' : (plain >>= plainly) state = (plain state).bind fun (a, state) => plainly a state := rfl
  rw [both, plain', same]
  cases ran : plain state with
  | none => exact ⟨rfl, nofun⟩
  | some pair => exact hn pair.1 (holds _ _ ran) pair.2

end SafeRun
end

namespace Guarded

variable {one other first past position count : Nat} {bytes front rest source : Bytes}

theorem demand_of {holds : Prop} [Decidable holds] (h : holds) : (demand holds : Guarded σ Unit) = pure () :=
  if_pos h

theorem add_of (h : one + other < limit) : (add limit one other : Guarded σ Nat) = pure (one + other) := by
  rw [add, demand_of h, pure_bind]

theorem sub_of (h : other ≤ one) : (sub one other : Guarded σ Nat) = pure (one - other) := by
  rw [sub, demand_of h, pure_bind]

/-- A range at the front. -/
theorem slice_of (h : count ≤ bytes.length) : (slice bytes 0 count : Guarded σ Bytes) = pure (bytes.take count) := by
  rw [slice, demand_of ⟨Nat.zero_le _, h⟩, pure_bind, List.drop_zero, Nat.sub_zero]

theorem drain_of (h : count ≤ bytes.length) : (drain bytes count : Guarded σ Bytes) = pure (bytes.drop count) := by
  rw [drain, demand_of h, pure_bind]

theorem splitAt_of (h : front.length = position) :
    (splitAt (front ++ rest) position : Guarded σ (Bytes × Bytes)) = pure (front, rest) := by
  rw [splitAt, demand_of (by rw [List.length_append]; omega), pure_bind, List.take_left' h, List.drop_left' h]

theorem copy_of (ordered : first ≤ past) (within : past ≤ bytes.length) (fits : past - first = source.length) :
    (copy bytes first past source : Guarded σ Bytes) = pure (bytes.take first ++ source ++ bytes.drop past) := by
  have length : ((bytes.drop first).take (past - first)).length = source.length := by
    rw [List.length_take, List.length_drop]
    omega
  rw [copy, slice, demand_of ⟨ordered, within⟩, pure_bind, pure_bind, demand_of length, pure_bind]

end Guarded

structure Transport.Honest (transport : Transport σ) : Prop where
  send : ∀ data, Session.Yields (transport.send data) fun result => ∀ count, result = .ok count → count ≤ data.length
  recv : ∀ buffer, Session.Yields (transport.recv buffer) fun answer =>
    answer.2.length = buffer.length ∧ ∀ count, answer.1 = .ok count → count ≤ buffer.length

/-- The bytes that a read reports are in the buffer. -/
theorem Transport.Honest.slices (honest : transport.Honest) (buffer : Bytes) :
    Session.Yields (transport.recv buffer) fun answer => ∀ count, answer.1 = .ok count →
      (Guarded.slice answer.2 0 count : Guarded σ Bytes) = pure (answer.2.take count) := by
  intro state count read
  obtain ⟨length, within⟩ := honest.recv buffer state
  exact Guarded.slice_of (length ▸ within count read)

def RecordSizing.FitsIn (limit : Nat) (sizing : RecordSizing) : Prop :=
  sizing.header + sizing.maxMessage + sizing.trailer < limit

def SecureChannel.SizesWithin (limit : Nat) (channel : SecureChannel σ) : Prop :=
  Session.Yields channel.streamSizes fun answer => ∀ sizing, answer = .ok sizing → sizing.FitsIn limit

def Session.SizedWithin (limit : Nat) (session : Session) : Prop :=
  ∀ sizing, session.sizing = some sizing → sizing.FitsIn limit

/-- The buffer of a record, with the data between zeros. -/
theorem copy_blank (sizing : RecordSizing) (data : Bytes) :
    (Guarded.copy (Bytes.zeros (sizing.header + data.length + sizing.trailer)) sizing.header
      (sizing.header + data.length) data : Guarded σ Bytes) =
      pure (Bytes.zeros sizing.header ++ (data ++ Bytes.zeros sizing.trailer)) := by
  rw [Guarded.copy_of (Nat.le_add_right _ _) (by simp) (by omega)]
  simp only [Bytes.zeros, List.take_replicate, List.drop_replicate, List.append_assoc]
  rw [Nat.min_eq_left (by omega), Nat.add_sub_cancel_left]

/-- The start of the buffer, up to the end of what is used of the trailer. -/
theorem slice_record (sizing : RecordSizing) (data : Bytes) (left : Record) (used : Nat) :
    (Guarded.slice ((Bytes.zeros sizing.header).overlay left.header ++ data.overlay left.body ++
        (Bytes.zeros sizing.trailer).overlay left.trailer) 0
      (sizing.header + data.length + min used sizing.trailer) : Guarded σ Bytes) =
      pure (Session.wireBytes (Session.written (Session.blank sizing data) left) used) := by
  have front : ((Bytes.zeros sizing.header).overlay left.header ++ data.overlay left.body).length =
      sizing.header + data.length := by simp
  have room : sizing.header + data.length + min used sizing.trailer ≤
      ((Bytes.zeros sizing.header).overlay left.header ++ data.overlay left.body ++
        (Bytes.zeros sizing.trailer).overlay left.trailer).length := by
    rw [List.length_append, front, Bytes.length_overlay, Bytes.length_zeros]
    omega
  rw [Guarded.slice_of room, ← front, List.take_length_add_append, ← wireBytes_blank]

section
variable (honest : transport.Honest)
include honest

theorem safe_sendAll (data : Bytes) :
    Safe (fun _ => True) (Guarded.sendAll transport data) (transport.sendAll data) := by
  fun_induction Transport.sendAll transport data with
  | case1 =>
    rw [Guarded.sendAll]
    exact .pure trivial
  | case2 byte rest ih =>
    rw [Guarded.sendAll]
    refine .bind (.lift (honest.send _)) fun result within => ?_
    cases result with
    | error failure => exact .pure trivial
    | ok count =>
      cases count with
      | zero => exact .pure trivial
      | succ sent =>
        dsimp only
        rw [Guarded.demand_of (within _ rfl), pure_bind]
        exact ih sent

theorem safe_send (sized : session.SizedWithin limit) (data : Bytes) :
    Safe (fun _ => True) (Guarded.send limit transport channel session data)
      (session.send transport channel data) := by
  rw [Guarded.send, Session.send]
  cases ready : session.establishedSizing with
  | error failure => exact .pure trivial
  | ok sizing =>
    dsimp only
    split
    · exact .pure trivial
    · next fits =>
      have room : sizing.header + sizing.maxMessage + sizing.trailer < limit :=
        sized sizing ((Session.establishedSizing_ok ready).2)
      rw [Guarded.add_of (by omega), pure_bind, Guarded.add_of (by omega), pure_bind, copy_blank, pure_bind,
        Guarded.splitAt_of (by simp), pure_bind, Guarded.splitAt_of rfl, pure_bind]
      refine .bind (.lift (.any _)) fun answer _ => ?_
      obtain ⟨answer, left⟩ := answer
      cases answer with
      | error reason => exact .pure trivial
      | ok used =>
        dsimp only
        rw [Guarded.add_of (by omega), pure_bind]
        dsimp only [Session.written]
        rw [slice_record, pure_bind]
        refine .bind (safe_sendAll honest _) fun result _ => ?_
        cases result <;> exact .pure trivial

omit honest

theorem deliver_eq (session : Session) (buffer : Bytes) :
    (Guarded.deliver session buffer : Guarded σ Session.Received) = pure (session.deliver buffer) := by
  have part : (session.held.take (min session.held.length buffer.length)).length =
      min session.held.length buffer.length := by simp
  rw [Guarded.deliver, Guarded.slice_of (Nat.min_le_left _ _), pure_bind,
    Guarded.copy_of (Nat.zero_le _) (Nat.min_le_right _ _) (by rw [part, Nat.sub_zero]), pure_bind,
    Guarded.drain_of (Nat.min_le_left _ _), pure_bind, Session.deliver, Bytes.overlay_eq, List.take_zero,
    List.nil_append]

theorem accept_eq (session : Session) (decrypted : Decrypted) (message buffer : Bytes) :
    (Guarded.accept session decrypted message buffer : Guarded σ Session.Received) =
      pure (session.accept decrypted message buffer) := by
  rw [Guarded.accept, Session.accept]
  cases decrypted.payload?.bind (·.bytes? message) with
  | some data => exact deliver_eq _ _
  | none => rfl

theorem safe_decryptCarried (session : Session) (buffer : Bytes) :
    Safe (fun _ => True) (Guarded.decryptCarried channel session buffer) (session.decryptCarried channel buffer) := by
  refine .bind (.lift (.any _)) fun answer _ => ?_
  dsimp only
  cases answer.1.status with
  | done =>
    dsimp only
    rw [accept_eq, pure_bind]
    exact .pure trivial
  | _ => exact .pure trivial

include honest

theorem safe_receiveMore (session : Session) (buffer : Bytes) :
    Safe (fun _ => True) (Guarded.receiveMore transport channel session buffer)
      (session.receiveMore transport channel buffer) := by
  refine .bind (.lift (honest.slices _)) fun answer slices => ?_
  obtain ⟨result, left⟩ := answer
  match result with
  | .error failure => exact .pure trivial
  | .ok 0 => exact .pure trivial
  | .ok (count + 1) =>
    dsimp only
    rw [slices _ rfl, pure_bind]
    refine .bind (safe_decryptCarried _ _) fun attempt _ => ?_
    cases attempt <;> exact .pure trivial

theorem safe_recv (session : Session) (buffer : Bytes) :
    Safe (fun _ => True) (Guarded.recv transport channel session buffer) (session.recv transport channel buffer) := by
  rw [Guarded.recv, Session.recv]
  cases session.establishedSizing with
  | error failure => exact .pure trivial
  | ok sizing =>
    dsimp only
    cases buffer.isEmpty with
    | true => exact .pure trivial
    | false =>
      cases session.held.isEmpty with
      | false => exact deliver_eq session buffer ▸ .pure trivial
      | true =>
        cases session.carried.isEmpty || session.carriedIncomplete with
        | true => exact safe_receiveMore honest session buffer
        | false =>
          refine .bind (safe_decryptCarried _ _) fun attempt _ => ?_
          cases attempt with
          | ended received => exact .pure trivial
          | incomplete session => exact safe_receiveMore honest session buffer

omit honest

/-- What is dropped of an input is no more than there is. -/
theorem settle_eq (exchange : Exchange) (step : HandshakeStep) :
    (Guarded.settle exchange step : Guarded σ Exchange) = pure (exchange.settle step) := by
  rw [Guarded.settle, Exchange.settle]
  cases step.extra with
  | none => rfl
  | some extra =>
    dsimp only
    by_cases possible : 0 < extra ∧ extra ≤ exchange.pending.length
    · rw [if_pos possible, if_pos possible, Guarded.sub_of possible.2, pure_bind,
        Guarded.drain_of (Nat.sub_le _ _), pure_bind]
    · rw [if_neg possible, if_neg possible]

include honest

theorem safe_receive (exchange : Exchange) :
    Safe (fun _ => True) (Guarded.receive transport exchange) (exchange.receive transport) := by
  refine .bind (.lift (honest.slices _)) fun answer slices => ?_
  obtain ⟨result, left⟩ := answer
  match result with
  | .error failure => exact .pure trivial
  | .ok 0 => exact .pure trivial
  | .ok (count + 1) =>
    dsimp only
    rw [slices _ rfl, pure_bind]
    exact .pure trivial

theorem safe_feed (target : Option String) (exchange : Exchange) :
    Safe (fun _ => True) (Guarded.feed transport channel target exchange)
      (exchange.feed transport channel target) := by
  refine .bind (.lift (.any _)) fun step _ => .bind (safe_sendAll honest _) fun result _ => ?_
  cases result with
  | error failure => exact .pure trivial
  | ok =>
    dsimp only
    rw [settle_eq, pure_bind]
    exact .pure trivial

theorem safe_advance (target : Option String) (exchange : Exchange) :
    Safe (fun _ => True) (Guarded.advance transport channel target exchange)
      (exchange.advance transport channel target) := by
  rw [Guarded.advance, Exchange.advance]
  cases exchange.needsInput with
  | true =>
    refine .bind (safe_receive honest exchange) fun result _ => ?_
    cases result with
    | error failure => exact .pure trivial
    | ok next => exact safe_feed honest target next
  | false => exact safe_feed honest target exchange

theorem safeRun_run (target : Option String) (budget : Nat) (exchange : Exchange) :
    SafeRun (fun _ => True) (Guarded.run transport channel target budget exchange)
      (Exchange.run transport channel target budget exchange) := by
  induction budget generalizing exchange with
  | zero => exact fun _ => ⟨rfl, nofun⟩
  | succ budget ih =>
    rw [Guarded.run, Exchange.run]
    cases exchange.isOpen with
    | true =>
      refine .bind (.lift (safe_advance honest target exchange)) fun result _ => ?_
      cases result with
      | error failure => exact .pure trivial
      | ok next => exact ih next
    | false => exact .pure trivial

variable (sizes : channel.SizesWithin limit)
include sizes

omit honest in
theorem sizes_conclude (exchange : Exchange) : Session.Yields (Session.conclude channel exchange) fun result =>
    ∀ agreement, result = .ok agreement → agreement.sizing.FitsIn limit := by
  rw [Session.conclude]
  split
  · refine .bind sizes fun answer fits => ?_
    cases answer with
    | error reason => exact .pure nofun
    | ok sizing =>
      refine .pure fun agreement same => ?_
      cases same
      exact fits sizing rfl
  · exact .pure nofun

theorem safeRun_exchangeTokens (budget : Nat) (session : Session) :
    SafeRun (fun result => ∀ agreement, result = .ok agreement → agreement.sizing.FitsIn limit)
      (Guarded.exchangeTokens transport channel budget session)
      (session.exchangeTokens transport channel budget) := by
  refine .bind (.lift (.lift (.any _))) fun step _ => .bind (.lift (safe_sendAll honest _)) fun result _ => ?_
  cases result with
  | error failure => exact .pure nofun
  | ok =>
    refine .bind (safeRun_run honest _ budget _) fun outcome _ => ?_
    cases outcome with
    | error failure => exact .pure nofun
    | ok exchange => exact .lift (.lift (sizes_conclude sizes exchange))

/-- A handshake leaves record sizes that can be added up, if the provider gives such. -/
theorem safeRun_handshake (sized : session.SizedWithin limit) (budget : Nat) :
    SafeRun (fun answer => answer.2.SizedWithin limit) (Guarded.handshake transport channel budget session)
      (session.handshake transport channel budget) := by
  rw [Guarded.handshake, Session.handshake]
  cases session.stage with
  | notStarted =>
    cases session.credentials with
    | true =>
      refine .bind (safeRun_exchangeTokens honest sizes budget _) fun result fits => ?_
      cases result with
      | error failure => exact .pure sized
      | ok agreement =>
        refine .pure fun sizing same => ?_
        cases same
        exact fits agreement rfl
    | false => exact .pure sized
  | _ => exact .pure sized

omit sizes in
theorem safe_close (sized : session.SizedWithin limit) :
    Safe (fun next => next.SizedWithin limit) (Guarded.close transport channel session)
      (session.close transport channel) := by
  have shut : Session.SizedWithin limit { session with stage := .notStarted, sizing := none } := nofun
  rw [Guarded.close, Session.close]
  cases session.isEstablished with
  | true =>
    refine .bind (.lift (.any _)) fun token _ => ?_
    cases token with
    | error reason => exact .bind (.lift (.any _)) fun _ _ => .pure shut
    | ok token => exact .bind (safe_sendAll honest token) fun _ _ => .bind (.lift (.any _)) fun _ _ => .pure shut
  | false => exact .bind (.lift (.any _)) fun _ _ => .pure sized

theorem safeRun_answer (sized : session.SizedWithin limit) (request : Session.Request) :
    SafeRun (fun answer => answer.2.SizedWithin limit) (Guarded.answer limit transport channel session request)
      (session.answer transport channel request) := by
  cases request with
  | handshake budget => exact .bind (safeRun_handshake honest sizes sized budget) fun _ kept => .pure kept
  | send data => exact .bind (.lift (safe_send honest sized data)) fun _ _ => .pure sized
  | recv buffer =>
    have kept : Session.Yields (session.recv transport channel buffer) (·.session.SizedWithin limit) := fun state =>
      have same := Session.sameStage_recv session buffer state
      fun sizing is => sized sizing (same.sizing ▸ is)
    exact .bind (.lift ((safe_recv honest session buffer).yields kept)) fun _ kept => .pure kept
  | close => exact .bind (.lift (safe_close honest sized)) fun _ kept => .pure kept

theorem safeRun_converse (sized : session.SizedWithin limit) (requests : List Session.Request) :
    SafeRun (fun _ => True) (Guarded.converse limit transport channel session requests)
      (session.converse transport channel requests) := by
  induction requests generalizing session with
  | nil => exact .pure trivial
  | cons request requests ih =>
    exact .bind (safeRun_answer honest sizes sized request) fun _ kept => .bind (ih kept) fun _ _ => .pure trivial

end

structure StaysInRange (limit : Nat) (transport : Transport σ) (channel : SecureChannel σ) (session : Session)
    (requests : List Session.Request) : Prop where
  inRange : ∀ state, Guarded.converse limit transport channel session requests state ≠ .error .outOfRange
  -- The checks change nothing.
  same : ∀ state, Guarded.converse limit transport channel session requests state =
    (session.converse transport channel requests state).elim (.error .exhausted) .ok
  misplaced : ∀ (session : Session) buffer state, ∃ received after deeds,
    session.recv transport channel buffer state = (received, after) ∧
      session.recv transport.observed channel.observed buffer { state } = (received, { state := after, deeds }) ∧
      ∀ message answer left, .decrypted message answer left ∈ deeds →
        answer.Misplaced (message.overlay left) → received.result = .error .receiveFailed
  -- Extra bytes outside of a message are none.
  absent : ∀ (session : Session) buffer,
    session.recv transport channel.curtailed buffer = session.recv transport channel buffer

/-- Whatever a provider answers, no sequence of calls goes out of range, over a stream that reports no more than the
length of what it was given, with record sizes that can be added up. -/
theorem converse_staysInRange (honest : transport.Honest) (sizes : channel.SizesWithin limit)
    (sized : session.SizedWithin limit) (requests : List Session.Request) :
    StaysInRange limit transport channel session requests where
  inRange state := by
    rw [(safeRun_converse honest sizes sized requests state).1]
    cases session.converse transport channel requests state <;> simp
  same state := (safeRun_converse honest sizes sized requests state).1
  misplaced session buffer state := by
    obtain ⟨receipt, after, ran, -, -, goes⟩ := @goes_recv _ transport channel session buffer { state }
    obtain ⟨result, last⟩ := @mirrors_recv _ transport channel session buffer { state }
    rw [ran] at result last
    exact ⟨receipt.received, after, receipt.deeds, Prod.ext result.symm last.symm, ran,
      fun _ _ _ mem misplaced => goes.misplaced mem misplaced⟩
  absent := recv_curtailed

theorem honest_connections : Session.connections.Honest where
  send _ _ _ same := Nat.le_of_eq (Except.ok.inj same).symm
  recv buffer streams := by
    refine ⟨Bytes.length_overlay _ _, fun count same => ?_⟩
    cases same
    exact Nat.min_le_right _ _

def boastful : SecureChannel (List Bytes) where
  acquireCredentials _ := pure (.ok ())
  handshakeStep _ input := pure <| input.elim { status := .continueNeeded }
    fun bytes => { status := .done, extra := some bytes.length }
  streamSizes := pure (.ok ⟨1, 2, 16⟩)
  encrypt record := pure (.ok 9, record)
  decrypt message := pure ({ status := .done, regions := [⟨.data, 3, 1⟩, ⟨.data, 2, 9⟩, ⟨.extra, 4, 40⟩] }, message)
  shutdownToken := pure (.ok [7])

def boasted : List Session.Request := [.handshake 2, .send [97, 98], .recv [0, 0], .recv [0, 0], .close]

theorem converse_staysInRange_boastful :
    StaysInRange UInt64.size Session.connections boastful (Session.granted (Context.client "host")) boasted ∧
      ((Session.granted (Context.client "host")).converse Session.connections boastful boasted [[1, 2, 3]]).map
          (fun ended => ended.1.map (·.answer)) =
        some [.shaken (.ok ()), .sent (.ok 2), .received (.error .receiveFailed) [0, 0], .received (.ok 0) [0, 0],
          .closed] := by
  have sizes : boastful.SizesWithin UInt64.size := by
    intro streams sizing same
    cases same
    exact show 1 + 16 + 2 < UInt64.size by decide
  have sized : (Session.granted (Context.client "host")).SizedWithin UInt64.size := by
    intro sizing same
    cases same
  exact ⟨converse_staysInRange honest_connections sizes sized boasted, by decide +kernel⟩

end NetReactor
