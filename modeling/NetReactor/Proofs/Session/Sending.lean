import NetReactor.Proofs.Session.Closing
import NetReactor.Proofs.Session.Observed
import NetReactor.Proofs.Session.Paired
/-!
What calls to send put on the wire. A call that succeeds has handed over its whole record; one that the stream
fails in the middle leaves the start of a record there, and no later call knows about it.
-/
namespace NetReactor

variable {σ : Type} {transport : Transport σ} {channel : SecureChannel σ} {sizing : RecordSizing}
variable {data rest : Bytes} {result : Outcome Unit} {deeds : List Deed}

def Deed.record? : Deed → Option Bytes
  | .encrypted record (.ok used) left => some (Session.wireBytes (Session.written record left) used)
  | _ => none

def records (deeds : List Deed) : List Bytes := deeds.filterMap Deed.record?

theorem records_encrypted (before left : Record) (used : Nat) (deeds : List Deed) :
    records (.encrypted before (.ok used) left :: deeds) =
      Session.wireBytes (Session.written before left) used :: records deeds := rfl

/-- Only the stream is asked for anything. -/
theorem Pours.records (h : Pours data result deeds rest) : records deeds = [] := by
  induction h with
  | done => rfl
  | failed => rfl
  | stuck => rfl
  | more _ _ _ ih => exact ih

structure Sending where
  data : Bytes
  answer : Outcome Nat
  deeds : List Deed

namespace Sending

inductive Goes (sizing : RecordSizing) : Sending → Prop
  | refused {data : Bytes} (long : sizing.maxMessage < data.length) : Goes sizing ⟨data, .error .sendFailed, []⟩
  | unencrypted {data : Bytes} {reason : ChannelError} {left : Record} (fits : data.length ≤ sizing.maxMessage) :
    Goes sizing ⟨data, .error .sendFailed, [.encrypted (Session.blank sizing data) (.error reason) left]⟩
  | whole {data : Bytes} {used : Nat} {left : Record} {deeds : List Deed}
    (fits : data.length ≤ sizing.maxMessage)
    (pours : Pours (Session.wireBytes (Session.written (Session.blank sizing data) left) used) (.ok ())
      deeds []) :
    Goes sizing ⟨data, .ok data.length, .encrypted (Session.blank sizing data) (.ok used) left :: deeds⟩
  | broken {data rest : Bytes} {used : Nat} {left : Record} {failure : Error} {deeds : List Deed}
    (fits : data.length ≤ sizing.maxMessage) (torn : rest ≠ [])
    (pours : Pours (Session.wireBytes (Session.written (Session.blank sizing data) left) used) (.error failure)
      deeds rest) :
    Goes sizing ⟨data, .error failure, .encrypted (Session.blank sizing data) (.ok used) left :: deeds⟩

def succeeded (sending : Sending) : Bool := sending.answer.toBool

def record (sending : Sending) : Bytes := (records sending.deeds).flatten

def wire (sending : Sending) : Bytes := handedOver sending.deeds

variable {sending : Sending}

theorem record_encrypted {data : Bytes} {answer : Outcome Nat} {before left : Record} {used : Nat}
    {made : Outcome Unit} {deeds : List Deed} {rest : Bytes}
    (pours : Pours (Session.wireBytes (Session.written before left) used) made deeds rest) :
    record ⟨data, answer, .encrypted before (.ok used) left :: deeds⟩ =
      Session.wireBytes (Session.written before left) used := by
  dsimp only [record]
  rw [records_encrypted, pours.records]
  exact List.append_nil _

/-- A call that succeeds puts its record on the wire. -/
theorem Goes.whole_wire (h : sending.Goes sizing) (ok : sending.succeeded = true) :
    sending.wire = sending.record := by
  cases h with
  | refused => cases ok
  | unencrypted => cases ok
  | whole fits pours =>
    rw [record_encrypted pours, ← pours.split, List.append_nil]
    rfl
  | broken => cases ok

/-- What a call that fails puts on the wire is the start of its record, and never all of it. -/
theorem Goes.torn_wire (h : sending.Goes sizing) (failed : sending.succeeded = false) :
    sending.wire = [] ∨ ∃ rest, rest ≠ [] ∧ sending.record = sending.wire ++ rest := by
  cases h with
  | refused => exact .inl rfl
  | unencrypted => exact .inl rfl
  | whole => cases failed
  | @broken data rest _ _ _ _ fits torn pours =>
    refine .inr ⟨rest, torn, ?_⟩
    rw [record_encrypted pours, ← pours.split]
    rfl

end Sending

theorem goes_send {session : Session} (stage : session.stage = .established)
    (sized : session.sizing = some sizing) (data : Bytes) (seen : Observed σ) :
    ∃ sending : Sending, ∃ state,
      session.send transport.observed channel.observed data seen =
        (sending.answer, { state, deeds := seen.deeds ++ sending.deeds }) ∧
      sending.data = data ∧ sending.Goes sizing := by
  have established : session.establishedSizing = .ok sizing := by
    rw [Session.establishedSizing, stage, sized]
  rw [Session.send, established]
  dsimp only
  split
  · next long =>
    refine ⟨_, seen.state, ?_, rfl, .refused long⟩
    rw [List.append_nil]
    rfl
  · next fits =>
    rcases asked : channel.encrypt (Session.blank sizing data) seen.state with ⟨⟨answer, left⟩, next⟩
    rw [bind_of_eq (observed_encrypt asked)]
    cases answer with
    | error reason => exact ⟨_, next, rfl, rfl, .unencrypted (Nat.le_of_not_lt fits)⟩
    | ok used =>
      obtain ⟨result, deeds, rest, state, poured, pours⟩ := pours_sendAll transport
        (Session.wireBytes (Session.written (Session.blank sizing data) left) used)
        { state := next, deeds := seen.deeds ++ [.encrypted (Session.blank sizing data) (.ok used) left] }
      dsimp only
      rw [bind_of_eq poured, List.append_assoc]
      cases result with
      | error failure =>
        have torn : rest ≠ [] := by
          intro none
          cases pours.ok_iff.mpr none
        exact ⟨_, state, rfl, rfl, .broken (Nat.le_of_not_lt fits) torn pours⟩
      | ok =>
        obtain rfl := pours.ok_iff.mp rfl
        exact ⟨_, state, rfl, rfl, .whole (Nat.le_of_not_lt fits) pours⟩

theorem mirrors_send (session : Session) (data : Bytes) :
    Mirrors (session.send transport.observed channel.observed data)
      (session.send transport channel data) := by
  unfold Session.send
  split
  · exact .pure _
  · split
    · exact .pure _
    · refine .bind (.note _ _) fun answer => ?_
      obtain ⟨used, left⟩ := answer
      cases used with
      | error => exact .pure _
      | ok used =>
        refine .bind (mirrors_sendAll _ _) fun result => ?_
        cases result <;> exact .pure _

theorem goes_sendEach {session : Session} (stage : session.stage = .established)
    (sized : session.sizing = some sizing) (messages : List Bytes) (seen : Observed σ) :
    ∃ sendings : List Sending, ∃ state,
      session.sendEach transport.observed channel.observed messages seen =
        (sendings.map (·.answer), { state, deeds := seen.deeds ++ sendings.flatMap (·.deeds) }) ∧
      sendings.map (·.data) = messages ∧ ∀ sending ∈ sendings, sending.Goes sizing := by
  induction messages generalizing seen with
  | nil => exact ⟨[], seen.state, by rw [List.flatMap_nil, List.append_nil]; rfl, rfl, by simp⟩
  | cons data messages ih =>
    obtain ⟨sending, middle, sent, same, goes⟩ :=
      @goes_send _ transport channel _ _ stage sized data seen
    obtain ⟨others, state, later, rest, go⟩ := ih { state := middle, deeds := seen.deeds ++ sending.deeds }
    refine ⟨sending :: others, state, ?_, by rw [List.map_cons, same, rest], ?_⟩
    · rw [Session.sendEach, bind_of_eq sent, bind_of_eq later, List.flatMap_cons, ← List.append_assoc]
      rfl
    · intro other mem
      cases List.mem_cons.mp mem with
      | inl first => exact first ▸ goes
      | inr late => exact go other late

theorem mirrors_sendEach (session : Session) (messages : List Bytes) :
    Mirrors (session.sendEach transport.observed channel.observed messages)
      (session.sendEach transport channel messages) := by
  induction messages with
  | nil => exact .pure _
  | cons data messages ih =>
    exact .bind (mirrors_send session data) fun _ => .bind ih fun _ => .pure _

theorem handedOver_flatMap (sendings : List Sending) :
    handedOver (sendings.flatMap (·.deeds)) = sendings.flatMap Sending.wire := by
  rw [handedOver, List.flatMap_assoc]
  rfl

/-- The wire is as long as the records of the calls that succeeded, and what the others left there. -/
theorem length_wire {sendings : List Sending} (h : ∀ sending ∈ sendings, sending.Goes sizing) :
    (sendings.flatMap Sending.wire).length =
      ((sendings.filter Sending.succeeded).flatMap Sending.record).length +
        ((sendings.filter (!·.succeeded)).flatMap Sending.wire).length := by
  induction sendings with
  | nil => rfl
  | cons sending sendings ih =>
    have later := ih fun other mem => h other (List.mem_cons_of_mem _ mem)
    rw [List.flatMap_cons, List.length_append, later]
    cases ok : sending.succeeded with
    | true =>
      rw [List.filter_cons_of_pos ok, List.filter_cons_of_neg (by simp [ok]), List.flatMap_cons,
        List.length_append, (h sending List.mem_cons_self).whole_wire ok]
      omega
    | false =>
      rw [List.filter_cons_of_neg (by simp [ok]), List.filter_cons_of_pos (by simp [ok]), List.flatMap_cons,
        List.length_append]
      omega

/-- The wire holds the records of the calls that succeeded, and nothing else, if and only if no call failed in
the middle of its record. -/
theorem wire_whole_iff {sendings : List Sending} (h : ∀ sending ∈ sendings, sending.Goes sizing) :
    sendings.flatMap Sending.wire = (sendings.filter Sending.succeeded).flatMap Sending.record ↔
      ∀ sending ∈ sendings, sending.succeeded = false → sending.wire = [] := by
  constructor
  · intro whole sending mem failed
    have length := length_wire h
    rw [whole] at length
    have none : (sendings.filter (!·.succeeded)).flatMap Sending.wire = [] :=
      List.length_eq_zero_iff.mp (by omega)
    exact List.flatMap_eq_nil_iff.mp none sending (List.mem_filter.mpr ⟨mem, by simp [failed]⟩)
  · intro clean
    induction sendings with
    | nil => rfl
    | cons sending sendings ih =>
      have later := ih (fun other mem => h other (List.mem_cons_of_mem _ mem))
        fun other mem => clean other (List.mem_cons_of_mem _ mem)
      rw [List.flatMap_cons, later]
      cases ok : sending.succeeded with
      | true =>
        rw [List.filter_cons_of_pos ok, List.flatMap_cons, (h sending List.mem_cons_self).whole_wire ok]
      | false =>
        rw [List.filter_cons_of_neg (by simp [ok]), clean sending List.mem_cons_self ok, List.nil_append]

structure Faltering where
  made : Nat := 0
  answers : List (Outcome Nat) := []

def numbered : SecureChannel Faltering where
  acquireCredentials _ := pure (.ok ())
  handshakeStep _ _ := pure { status := .done }
  streamSizes := pure (.ok ⟨1, 1, 16⟩)
  encrypt record := fun state =>
    ((.ok 1, ⟨[UInt8.ofNat (17 + state.made)], record.body, [153]⟩), { state with made := state.made + 1 })
  decrypt message := pure ({ status := .error }, message)
  shutdownToken := pure (.error .noContext)

def faltering : Transport Faltering where
  send data := fun state =>
    (state.answers.headD (.ok data.length), { state with answers := state.answers.tail })
  recv buffer := pure (.ok 0, buffer)
  close := pure ()

def timingOut : Observed Faltering := { state := { answers := [.ok 2, .error .timeout] } }

def faltered : Option (Session × Observed Faltering) :=
  let created := Session.create numbered.observed (Context.client "host") timingOut
  created.1.handleAll faltering.observed numbered.observed [.handshake 1] created.2

theorem lived_faltered {session : Session} {seen : Observed Faltering} (h : faltered = some (session, seen)) :
    Session.Lived faltering.observed numbered.observed session :=
  (Session.Lived.new (Context.client "host") timingOut).handleAll h

structure OnWire (sizing : RecordSizing) (sendings : List Sending) : Prop where
  goes : ∀ sending ∈ sendings, sending.Goes sizing
  whole : ∀ sending ∈ sendings, sending.succeeded = true → sending.wire = sending.record
  torn : ∀ sending ∈ sendings, sending.succeeded = false →
    sending.wire = [] ∨ ∃ rest, rest ≠ [] ∧ sending.record = sending.wire ++ rest
  -- The wire is made of the whole records of the calls that succeeded just when no other call left a piece of its
  -- record there.
  whole_iff : handedOver (sendings.flatMap (·.deeds)) =
      (sendings.filter Sending.succeeded).flatMap Sending.record ↔
    ∀ sending ∈ sendings, sending.succeeded = false → sending.wire = []

/-- Every sequence of calls to send on an established session puts whole records on the wire for the calls that
succeed, and for the others nothing or the start of a record, which spoils what comes after it. -/
theorem sendEach_onWire {session : Session} (stage : session.stage = .established)
    (sized : session.sizing = some sizing) (messages : List Bytes) (state : σ) :
    ∃ sendings : List Sending, ∃ after,
      session.sendEach transport channel messages state = (sendings.map (·.answer), after) ∧
      session.sendEach transport.observed channel.observed messages { state } =
        (sendings.map (·.answer), { state := after, deeds := sendings.flatMap (·.deeds) }) ∧
      sendings.map (·.data) = messages ∧ OnWire sizing sendings := by
  obtain ⟨sendings, after, sent, same, goes⟩ :=
    @goes_sendEach _ transport channel _ _ stage sized messages { state }
  obtain ⟨answers, last⟩ := @mirrors_sendEach _ transport channel session messages { state }
  rw [sent] at answers last
  refine ⟨sendings, after, Prod.ext answers.symm last.symm, sent, same, goes,
    fun sending mem => (goes sending mem).whole_wire, fun sending mem => (goes sending mem).torn_wire, ?_⟩
  rw [handedOver_flatMap]
  exact wire_whole_iff goes

def torn (session : Session) (seen : Observed Faltering) : List (Outcome Nat) × Observed Faltering :=
  session.sendEach faltering.observed numbered.observed [[97, 98, 99], [100, 101]] seen

theorem torn_faltered : ∃ session seen after,
    faltered = some (session, seen) ∧ session.stage = .established ∧ session.sizing = some ⟨1, 1, 16⟩ ∧
      torn session seen = ([.error .timeout, .ok 2], after) ∧
      records after.deeds = [[17, 97, 98, 99, 153], [18, 100, 101, 153]] ∧
      handedOver after.deeds = [17, 97, 18, 100, 101, 153] := by
  have ran : faltered.map (fun (session, seen) => decide (
      (session.stage = .established ∧ session.sizing = some ⟨1, 1, 16⟩) ∧
      (torn session seen).1 = [.error .timeout, .ok 2] ∧
      records (torn session seen).2.deeds = [[17, 97, 98, 99, 153], [18, 100, 101, 153]] ∧
      handedOver (torn session seen).2.deeds = [17, 97, 18, 100, 101, 153])) = some true := by decide +kernel
  obtain ⟨⟨session, seen⟩, called, outcome⟩ := Option.map_eq_some_iff.mp ran
  obtain ⟨⟨stage, sized⟩, answers, made, taken⟩ := of_decide_eq_true outcome
  exact ⟨session, seen, (torn session seen).2, called, stage, sized, Prod.ext answers rfl, made, taken⟩

/-- The second of two calls succeeds after the first one left a piece of its record. -/
theorem sendEach_onWire_torn : ∃ session seen sendings after,
    faltered = some (session, seen) ∧ session.stage = .established ∧ session.sizing = some ⟨1, 1, 16⟩ ∧
      session.sendEach faltering numbered [[97, 98, 99], [100, 101]] seen.state =
        (List.map Sending.answer sendings, after) ∧ OnWire ⟨1, 1, 16⟩ sendings := by
  obtain ⟨session, seen, -, called, stage, sized, -⟩ := torn_faltered
  obtain ⟨sendings, after, sent, -, -, wire⟩ :=
    @sendEach_onWire _ faltering numbered _ _ stage sized [[97, 98, 99], [100, 101]] seen.state
  exact ⟨session, seen, sendings, after, called, stage, sized, sent, wire⟩

/-- A call succeeds right after one that failed in the middle of its record, and no whole records make up what is
on the wire then. -/
theorem torn_record_unnoticed : ∃ session seen after,
    Session.Lived faltering.observed numbered.observed session ∧ session.stage = .established ∧
      session.sendEach faltering.observed numbered.observed [[97, 98, 99], [100, 101]] seen =
        ([.error .timeout, .ok 2], after) ∧
      ∀ picked : List Bytes, (∀ record ∈ picked, record ∈ records after.deeds) →
        picked.flatten ≠ handedOver after.deeds := by
  obtain ⟨session, seen, after, called, stage, -, sent, made, taken⟩ := torn_faltered
  refine ⟨session, seen, after, lived_faltered called, stage, sent, fun picked whole same => ?_⟩
  rw [made] at whole
  rw [taken] at same
  cases picked with
  | nil => simp at same
  | cons record picked =>
    -- The wire starts with the first record's number, and goes on as that record does not.
    have first := whole record List.mem_cons_self
    simp only [List.mem_cons, List.not_mem_nil, or_false] at first
    obtain rfl | rfl := first <;> simp at same

end NetReactor
