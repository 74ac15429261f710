import NetReactor.Proofs.Session.Sending
import NetReactor.Proofs.Stretch
/-!
One call to send on an established session, for any record sizes. The provider makes one record of the data, in
place; the stream is offered what it has not taken of that record, until it has taken all of it or fails.
-/
namespace NetReactor

variable {σ : Type} {transport : Transport σ} {channel : SecureChannel σ} {session : Session} {sizing : RecordSizing}
variable {data rest : Bytes} {result : Outcome Unit} {answer : Outcome Nat} {failure : Error} {used : Nat}
variable {left : Record} {deed : Deed} {early late writes deeds : List Deed}

/-- The error that a write ends in. A stream that takes nothing has failed. -/
def Deed.failure? : Deed → Option Error
  | .sent _ (.error failure) => some failure
  | .sent _ (.ok 0) => some .sendFailed
  | _ => none

theorem failure?_sent {count : Nat} (took : count ≠ 0) : (Deed.sent data (.ok count)).failure? = none := by
  obtain ⟨count, rfl⟩ := Nat.exists_eq_succ_of_ne_zero took
  rfl

namespace Pours

variable (h : Pours data result writes rest)
include h

/-- Each write offers all that was not taken yet. -/
theorem offers {offered : Bytes} {count : Outcome Nat} (split : writes = early ++ .sent offered count :: late) :
    data = handedOver early ++ offered := by
  induction h generalizing early with
  | done => simp at split
  | failed =>
    obtain ⟨rfl, same, -⟩ := split_singleton split
    injection same with same
    exact same.symm
  | stuck =>
    obtain ⟨rfl, same, -⟩ := split_singleton split
    injection same with same
    exact same.symm
  | @more data rest count result writes _ _ _ ih =>
    cases early with
    | nil =>
      cases split
      rfl
    | cons deed early =>
      obtain ⟨rfl, inside⟩ := List.cons.inj split
      rw [handedOver_cons, List.append_assoc, ← ih inside]
      exact (List.take_append_drop count data).symm

theorem failure_iff : result = .error failure ↔ ∃ deed ∈ writes, deed.failure? = some failure := by
  induction h with
  | done => simp
  | failed => simp [Deed.failure?]
  | stuck => simp [Deed.failure?]
  | more _ took _ ih => simp [ih, failure?_sent took]

/-- Nothing is written after a write that failed. -/
theorem failure_last (split : writes = early ++ deed :: late) (failed : deed.failure? = some failure) :
    late = [] := by
  induction h generalizing early with
  | done => simp at split
  | failed => exact (split_singleton split).2.2
  | stuck => exact (split_singleton split).2.2
  | more _ took _ ih =>
    cases early with
    | nil =>
      cases split
      cases (failure?_sent took).symm.trans failed
    | cons first early => exact ih (List.cons.inj split).2

end Pours

structure Transmits (record : Bytes) (length : Nat) (answer : Outcome Nat) (writes : List Deed) : Prop where
  sent : ∀ deed ∈ writes, deed.isSent = true
  offers : ∀ early offered count late, writes = early ++ .sent offered count :: late →
    record = handedOver early ++ offered
  whole : answer = .ok length ↔ handedOver writes = record
  failed : ∀ failure, answer = .error failure ↔ ∃ deed ∈ writes, deed.failure? = some failure
  last : ∀ early deed late failure, writes = early ++ deed :: late → deed.failure? = some failure → late = []
  torn : ∀ failure, answer = .error failure → ∃ rest, rest ≠ [] ∧ record = handedOver writes ++ rest

/-- How a call to send goes: data that is too long is refused, and the rest becomes one record, in which the
provider was given zeros around the data. -/
structure SendsOne (sizing : RecordSizing) (data : Bytes) (answer : Outcome Nat) (deeds : List Deed) : Prop where
  long : sizing.maxMessage < data.length → answer = .error .sendFailed ∧ deeds = []
  fits : data.length ≤ sizing.maxMessage → ∃ made left writes,
    deeds = .encrypted (Session.blank sizing data) made left :: writes ∧
      (∀ reason, made = .error reason → answer = .error .sendFailed ∧ writes = []) ∧
      ∀ used, made = .ok used →
        Transmits
          ((Bytes.zeros sizing.header).overlay left.header ++ data.overlay left.body ++
            ((Bytes.zeros sizing.trailer).overlay left.trailer).take (min used sizing.trailer))
          data.length answer writes

/-- The provider cannot put more of the trailer on the wire than there is room for. -/
theorem wireBytes_blank (sizing : RecordSizing) (data : Bytes) (left : Record) (used : Nat) :
    Session.wireBytes (Session.written (Session.blank sizing data) left) used =
      (Bytes.zeros sizing.header).overlay left.header ++ data.overlay left.body ++
        ((Bytes.zeros sizing.trailer).overlay left.trailer).take (min used sizing.trailer) := by
  have room : ((Bytes.zeros sizing.trailer).overlay left.trailer).length = sizing.trailer := by simp
  have same : ((Bytes.zeros sizing.trailer).overlay left.trailer).take (min used sizing.trailer) =
      ((Bytes.zeros sizing.trailer).overlay left.trailer).take used := by
    rw [← List.take_take, List.take_of_length_le (Nat.le_of_eq room)]
  rw [same]
  rfl

/-- Sending everything transmits it, and the call tells the length of the data instead. -/
theorem Pours.transmits (h : Pours data result writes rest) (length : Nat) :
    Transmits data length (result.map fun _ => length) writes where
  sent := h.isSent
  offers _ _ _ _ split := h.offers split
  whole := by
    rw [← h.split]
    cases result with
    | ok =>
      rw [h.ok_iff.mp rfl, List.append_nil]
      exact iff_of_true rfl rfl
    | error failure =>
      have torn : rest ≠ [] := mt h.ok_iff.mpr (by simp)
      exact iff_of_false (by simp [Except.map]) fun whole => torn (List.self_eq_append_right.mp whole)
  failed failure := by
    rw [← h.failure_iff]
    cases result <;> simp [Except.map]
  last _ _ _ _ split failed := h.failure_last split failed
  torn failure failed := by
    refine ⟨rest, mt h.ok_iff.mpr ?_, h.split.symm⟩
    rintro rfl
    cases failed

theorem Sending.Goes.sendsOne {sending : Sending} (h : sending.Goes sizing) :
    SendsOne sizing sending.data sending.answer sending.deeds := by
  cases h with
  | refused long => exact ⟨fun _ => ⟨rfl, rfl⟩, fun fits => absurd long (Nat.not_lt.mpr fits)⟩
  | unencrypted fits =>
    exact ⟨fun long => absurd long (Nat.not_lt.mpr fits),
      fun _ => ⟨_, _, [], rfl, fun _ _ => ⟨rfl, rfl⟩, nofun⟩⟩
  | whole fits pours =>
    rw [wireBytes_blank] at pours
    refine ⟨fun long => absurd long (Nat.not_lt.mpr fits), fun _ => ⟨_, _, _, rfl, nofun, fun used same => ?_⟩⟩
    cases same
    exact pours.transmits _
  | broken fits _ pours =>
    rw [wireBytes_blank] at pours
    refine ⟨fun long => absurd long (Nat.not_lt.mpr fits), fun _ => ⟨_, _, _, rfl, nofun, fun used same => ?_⟩⟩
    cases same
    exact pours.transmits _

/-- Whatever the provider makes of the record and however the stream cuts it, a call to send on an established session
makes one record at most, hands over its bytes in order, and succeeds just when all of it was taken. The session
stays as it is. -/
theorem send_sendsOne (stage : session.stage = .established) (sized : session.sizing = some sizing)
    (transport : Transport σ) (channel : SecureChannel σ) (data : Bytes) (state : σ) :
    ∃ answer after deeds,
      session.send transport channel data state = (answer, after) ∧
      session.send transport.observed channel.observed data { state } = (answer, { state := after, deeds }) ∧
      session.handle transport channel (.send data) state = some (session, after) ∧
      SendsOne sizing data answer deeds := by
  obtain ⟨sending, after, sent, given, goes⟩ :=
    @goes_send _ transport channel _ _ stage sized data { state }
  obtain ⟨same, last⟩ := @mirrors_send _ transport channel session data { state }
  rw [sent] at same last
  have plain : session.send transport channel data state = (sending.answer, after) :=
    Prod.ext same.symm last.symm
  refine ⟨sending.answer, after, sending.deeds, plain, sent, ?_, given ▸ goes.sendsOne⟩
  rw [Session.handle, lift_bind_of_eq plain]
  rfl

def overstating : SecureChannel Faltering :=
  { numbered with
    streamSizes := pure (.ok ⟨1, 2, 16⟩)
    encrypt := fun record state => ((.ok 9, ⟨[17], record.body, [153]⟩), state) }

def overstated : Session :=
  { context := Context.client "host", credentials := true, stage := .established, sizing := some ⟨1, 2, 16⟩ }

/-- The record is taken in three pieces, and all of its trailer is sent. -/
theorem send_sendsOne_overstated : ∃ answer after deeds,
    overstated.send faltering overstating [97, 98] { answers := [.ok 2, .ok 1] } = (answer, after) ∧
      SendsOne ⟨1, 2, 16⟩ [97, 98] answer deeds ∧ answer = .ok 2 ∧
      handedOver deeds = [17, 97, 98, 153, 0] := by
  obtain ⟨answer, after, deeds, sent, observed, -, one⟩ :=
    @send_sendsOne _ overstated ⟨1, 2, 16⟩ rfl rfl faltering overstating [97, 98] { answers := [.ok 2, .ok 1] }
  have ran : (answer, handedOver deeds) = (.ok 2, [17, 97, 98, 153, 0]) := by
    have ended := congrArg (fun ended => (ended.1, handedOver ended.2.deeds)) observed
    exact ended.symm.trans (by decide +kernel)
  obtain ⟨answered, wire⟩ := Prod.mk.inj ran
  exact ⟨answer, after, deeds, sent, one, answered, wire⟩

end NetReactor
