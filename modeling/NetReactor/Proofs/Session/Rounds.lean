import NetReactor.Proofs.Session.Conversation
import NetReactor.Proofs.Session.Sides
import NetReactor.Proofs.Stretch
/-!
The rounds of a handshake with a provider that takes one message at a time, over a stream that may be cut in
any way. They come to an end and follow the conversation about the whole stream.
-/
namespace NetReactor

variable {π τ : Type} {channel : SecureChannel π} {transport : Transport τ} {target : Option String}
variable {Message : Bytes → Prop} {unread : τ → Bytes} {deeds more : List Deed}
variable {exchange : Exchange} {seen : Observed (Sides π τ)}

def unused (deeds : List Deed) : Bytes := (arrived deeds).drop (messages deeds).flatten.length

/-- The stream is read only while what it gave holds no complete message. -/
def ReadsStarved (Message : Bytes → Prop) (deeds : List Deed) : Prop :=
  ∀ early buffer result left late, deeds = early ++ .received buffer result left :: late →
    Starved Message (unused early)

namespace ReadsStarved

theorem append (h : ReadsStarved Message deeds) (others : ∀ deed ∈ more, deed.isRead = false) :
    ReadsStarved Message (deeds ++ more) := by
  intro early buffer result left late split
  obtain ⟨between, inside, -⟩ | ⟨between, inside, -⟩ := split_append split
  · exact h _ _ _ _ _ inside
  · have read := others (.received buffer result left) (by simp [inside])
    cases read

theorem receive (h : ReadsStarved Message deeds) (starved : Starved Message (unused deeds))
    (buffer : Bytes) (result : Outcome Nat) (left : Bytes) :
    ReadsStarved Message (deeds ++ [.received buffer result left]) := by
  intro early buffer' result' left' late split
  obtain ⟨between, inside, -⟩ | ⟨between, inside, rfl⟩ := split_append split
  · exact h _ _ _ _ _ inside
  · obtain ⟨rfl, -, -⟩ := split_singleton inside
    rwa [List.append_nil]

end ReadsStarved

structure Accumulates (Message : Bytes → Prop) (exchange : Exchange) (seen : Observed (Sides π τ)) : Prop where
  consumed : exchange.consumed = true
  room : exchange.scratch ≠ []
  received : arrived seen.deeds = (messages seen.deeds).flatten ++ exchange.pending
  reads : ReadsStarved Message seen.deeds

theorem Accumulates.unused_eq (h : Accumulates Message exchange seen) : unused seen.deeds = exchange.pending := by
  rw [unused, h.received, List.drop_left]

structure Fed (channel : SecureChannel π) (target : Option String) (Message : Bytes → Prop)
    (unread : τ → Bytes) (before : Exchange) (seen : Observed (Sides π τ)) (used : List Bytes) (output : Bytes)
    (exchange : Exchange) (after : Observed (Sides π τ)) : Prop where
  accumulates : Accumulates Message exchange after
  pending : before.pending = used.flatten ++ exchange.pending
  unread : unread after.state.stream = unread seen.state.stream
  messages : messages after.deeds = messages seen.deeds ++ used
  sent : handedOver after.deeds = handedOver seen.deeds ++ output
  took : (used = [] ∧ output = [] ∧ after.state.provider = seen.state.provider ∧
      exchange.status = .incompleteMessage ∧ Starved Message exchange.pending) ∨
    ∃ message, used = [message] ∧ Message message ∧
      Answers channel target seen.state.provider message exchange.status output after.state.provider

theorem settle_message {message rest output : Bytes} {status : Status} {extra : Option Nat}
    (whole : exchange.pending = message ++ rest) (nonempty : message ≠ [])
    (complete : status ≠ .incompleteMessage) (left : extra.getD 0 = rest.length) :
    exchange.settle { status, output, extra } =
      { exchange with status, consumed := true, pending := rest } := by
  have positive := List.length_pos_iff.mpr nonempty
  have none (empty : rest.length = 0) : Exchange.settle.settleWhole exchange { status, output, extra } =
      { exchange with status, consumed := true, pending := rest } := by
    rw [Exchange.settle.settleWhole, if_neg complete, List.length_eq_zero_iff.mp empty]
  cases extra with
  | none => exact none left.symm
  | some extra =>
    rw [Option.getD_some] at left
    unfold Exchange.settle
    dsimp only
    rw [whole, List.length_append, left]
    split
    · have dropped : (message ++ rest).drop (message.length + rest.length - rest.length) = rest := by
        rw [Nat.add_sub_cancel, List.drop_left]
      rw [dropped, decide_eq_true (by omega)]
    · next empty => exact none (by omega)

structure Stepped (transport : Transport τ) (unread : τ → Bytes) (input : Option Bytes)
    (answer : HandshakeStep) (next : π) (before after : Observed (Sides π τ)) : Prop where
  provider : after.state.provider = next
  unread : unread after.state.stream = unread before.state.stream
  received : arrived after.deeds = arrived before.deeds
  messages : messages after.deeds = messages before.deeds ++ (Deed.stepped input answer).message?.toList
  sent : handedOver after.deeds = handedOver before.deeds ++ answer.output
  reads : ∀ {Message : Bytes → Prop}, ReadsStarved Message before.deeds → ReadsStarved Message after.deeds

theorem stepped_sendAll (steady : Steady transport) (delivers : Delivers transport unread)
    (input : Option Bytes) (answer : HandshakeStep) (next : π) (seen : Observed (Sides π τ)) :
    ∃ after, transport.beside.observed.sendAll answer.output
        { state := { seen.state with provider := next }, deeds := seen.deeds ++ [.stepped input answer] } =
          (.ok (), after) ∧
      Stepped transport unread input answer next seen after := by
  obtain ⟨result, deeds, rest, stream, ran, pours, plain⟩ := pours_beside transport answer.output
    ({ state := { seen.state with provider := next }, deeds := seen.deeds ++ [.stepped input answer] } :
      Observed (Sides π τ))
  have ok := steady.sendAll answer.output seen.state.stream
  have kept := delivers.sendAll answer.output seen.state.stream
  rw [plain] at ok kept
  obtain rfl : result = .ok () := ok
  refine ⟨_, ran, ?_⟩
  constructor
  case provider => rfl
  case unread => exact kept
  case received => simp [arrived_eq_nil pours.isSent, arrived_cons, Deed.given]
  case messages => simp [messages_eq_nil pours.isSent]
  case sent => simp [pours.handedOver_eq, Deed.taken]
  case reads =>
    intro Message reads
    dsimp only
    rw [List.append_assoc]
    refine reads.append (List.forall_mem_cons.mpr ⟨rfl, fun deed mem => ?_⟩)
    exact Deed.isRead_of_isSent (pours.isSent deed mem)

structure Unmoved (before after : Observed (Sides π τ)) : Prop where
  provider : after.state.provider = before.state.provider
  messages : messages after.deeds = messages before.deeds
  sent : handedOver after.deeds = handedOver before.deeds

theorem Unmoved.refl (seen : Observed (Sides π τ)) : Unmoved seen seen := ⟨rfl, rfl, rfl⟩

def remaining (unread : τ → Bytes) (exchange : Exchange) (seen : Observed (Sides π τ)) : Nat :=
  2 * (unread seen.state.stream).length + exchange.pending.length +
    if exchange.status = .incompleteMessage then 0 else 1

theorem Fed.remaining_le {used : List Bytes} {output : Bytes} {exchange' : Exchange} {after : Observed (Sides π τ)}
    (h : Fed channel target Message unread exchange seen used output exchange' after)
    (law : MessageWise channel Message) : remaining unread exchange' after ≤
      2 * (unread seen.state.stream).length + exchange.pending.length := by
  have pending := congrArg List.length h.pending
  rw [List.length_append] at pending
  rw [remaining, h.unread]
  obtain ⟨-, -, -, waiting, -⟩ | ⟨message, rfl, is, -⟩ := h.took
  · rw [if_pos waiting]
    omega
  · have positive := List.length_pos_iff.mpr (law.delimited.nonempty is)
    rw [List.flatten_singleton] at pending
    split <;> omega

inductive Round (channel : SecureChannel π) (target : Option String) (Message : Bytes → Prop)
    (unread : τ → Bytes) (exchange : Exchange) (seen : Observed (Sides π τ)) :
    Outcome Exchange → Observed (Sides π τ) → Prop
  | closed {after : Observed (Sides π τ)} (same : Unmoved seen after) (reads : ReadsStarved Message after.deeds)
    (starved : Starved Message (exchange.pending ++ unread seen.state.stream)) :
    Round channel target Message unread exchange seen (.error .socketClosed) after
  | fed {middle exchange' : Exchange} {seen' after : Observed (Sides π τ)} {used : List Bytes} {output : Bytes}
    (same : Unmoved seen seen')
    (stream : middle.pending ++ unread seen'.state.stream = exchange.pending ++ unread seen.state.stream)
    (less : 2 * (unread seen'.state.stream).length + middle.pending.length < remaining unread exchange seen)
    (feeds : Fed channel target Message unread middle seen' used output exchange' after) :
    Round channel target Message unread exchange seen (.ok exchange') after

def Ending.Is (unread : τ → Bytes) (result : Outcome Exchange) (after : Sides π τ) : Ending → Prop
  | .starved => result = .error .socketClosed
  | .stopped status rest => ∃ exchange : Exchange, result = .ok exchange ∧ exchange.status = status ∧
    exchange.pending ++ unread after.stream = rest

section

variable {σ : Type} {wire : Transport σ} {provider : SecureChannel σ} {state state' : σ}
variable {exchange' : Exchange} {failure : Error}

theorem run_ok (waits : exchange.isOpen = true)
    (h : exchange.advance wire provider target state = (.ok exchange', state')) (budget : Nat) :
    Exchange.run wire provider target (budget + 1) exchange state =
      Exchange.run wire provider target budget exchange' state' := by
  rw [Exchange.run, if_pos waits, lift_bind_of_eq h]

theorem run_error (waits : exchange.isOpen = true)
    (h : exchange.advance wire provider target state = (.error failure, state')) (budget : Nat) :
    Exchange.run wire provider target (budget + 1) exchange state = some (.error failure, state') := by
  rw [Exchange.run, if_pos waits, lift_bind_of_eq h]
  rfl

theorem run_over (wire : Transport σ) (provider : SecureChannel σ) (target : Option String)
    (closed : exchange.isOpen = false) (budget : Nat) (state : σ) :
    Exchange.run wire provider target (budget + 1) exchange state = some (.ok exchange, state) := by
  rw [Exchange.run, closed]
  rfl

end

section

variable (law : MessageWise channel Message) (steady : Steady transport)
variable (delivers : Delivers transport unread)
include law steady delivers

/-- A step on what is pending uses up the message that it starts with, if there is one. -/
theorem fed_feed (target : Option String) (h : Accumulates Message exchange seen) :
    ∃ used output exchange' after,
      exchange.feed transport.beside.observed channel.beside.observed target seen = (.ok exchange', after) ∧
        Fed channel target Message unread exchange seen used output exchange' after := by
  obtain starved | ⟨message, rest, is, whole⟩ := starved_or Message exchange.pending
  · have answer : channel.handshakeStep target (some exchange.pending) seen.state.provider = _ :=
      law.incomplete seen.state.provider starved
    obtain ⟨after, sent, stepped⟩ := stepped_sendAll steady delivers (some exchange.pending)
      { status := .incompleteMessage } seen.state.provider seen
    refine ⟨[], [], { exchange with status := .incompleteMessage }, after, ?_, ?_⟩
    · rw [Exchange.feed, bind_of_eq (observed_step (beside_step answer)), bind_of_eq sent]
      rfl
    · constructor
      case accumulates =>
        refine ⟨h.consumed, h.room, ?_, stepped.reads h.reads⟩
        rw [stepped.received, h.received, stepped.messages]
        simp [Deed.message?]
      case pending => rfl
      case unread => exact stepped.unread
      case messages => rw [stepped.messages]; simp [Deed.message?]
      case sent => exact stepped.sent
      case took => exact .inl ⟨rfl, rfl, stepped.provider, rfl, starved⟩
  · obtain ⟨status, output, next, answers⟩ := law.complete target seen.state.provider is
    obtain ⟨extra, left, answer⟩ := answers.2 rest
    rw [← whole] at answer
    obtain ⟨after, sent, stepped⟩ := stepped_sendAll steady delivers (some exchange.pending)
      { status, output, extra } next seen
    have message? : (Deed.stepped (some exchange.pending) { status, output, extra }).message? =
        some message := by
      rw [Deed.message?, if_neg answers.1, whole, left, List.length_append, Nat.add_sub_cancel,
        List.take_left]
    refine ⟨[message], output, { exchange with status, consumed := true, pending := rest }, after, ?_, ?_⟩
    · rw [Exchange.feed, bind_of_eq (observed_step (beside_step answer)), bind_of_eq sent]
      rw [← settle_message whole (law.delimited.nonempty is) answers.1 left]
      rfl
    · constructor
      case accumulates =>
        refine ⟨rfl, h.room, ?_, stepped.reads h.reads⟩
        rw [stepped.received, h.received, stepped.messages, message?, whole]
        simp
      case pending => rw [whole]; simp
      case unread => exact stepped.unread
      case messages => rw [stepped.messages, message?]; rfl
      case sent => exact stepped.sent
      case took => exact .inr ⟨message, rfl, is, stepped.provider ▸ answers⟩

omit law in
/-- A read brings some of what is unread, or the end of the stream. -/
theorem receive_steady (h : Accumulates Message exchange seen)
    (starved : Starved Message exchange.pending) :
    ∃ after, Unmoved seen after ∧ ReadsStarved Message after.deeds ∧
      ((exchange.receive transport.beside.observed seen = (.error .socketClosed, after) ∧
          unread seen.state.stream = []) ∨
        ∃ exchange', exchange.receive transport.beside.observed seen = (.ok exchange', after) ∧
          Accumulates Message exchange' after ∧
          exchange'.pending ++ unread after.state.stream = exchange.pending ++ unread seen.state.stream ∧
          (unread after.state.stream).length < (unread seen.state.stream).length) := by
  obtain ⟨count, left, next, read⟩ := steady.gives exchange.scratch seen.state.stream h.room
  obtain ⟨le, length, split, ends⟩ := delivers.recv_ok h.room read
  let after : Observed (Sides π τ) :=
    { state := { seen.state with stream := next },
      deeds := seen.deeds ++ [.received exchange.scratch (.ok count) left] }
  have same : Unmoved seen after := by
    constructor
    case provider => rfl
    case messages => simp [after, Deed.message?]
    case sent => simp [after, Deed.taken]
  have reads : ReadsStarved Message after.deeds :=
    h.reads.receive (h.unused_eq ▸ starved) exchange.scratch (.ok count) left
  refine ⟨after, same, reads, ?_⟩
  have called := observed_recv (beside_recv read)
  cases count with
  | zero =>
    refine .inl ⟨?_, ends rfl⟩
    rw [Exchange.receive, bind_of_eq called]
    rfl
  | succ count =>
    refine .inr ⟨{ exchange with pending := exchange.pending ++ left.take (count + 1), scratch := left },
      ?_, ⟨h.consumed, ?_, ?_, reads⟩, ?_, ?_⟩
    · rw [Exchange.receive, bind_of_eq called]
      rfl
    · rintro (rfl : left = [])
      exact h.room (List.length_eq_zero_iff.mp length.symm)
    · rw [same.messages]
      simp [after, h.received, arrived_cons, Deed.given]
    · rw [split, List.append_assoc]
    · rw [split, List.length_append, List.length_take, length, Nat.min_eq_left le]
      exact Nat.lt_add_of_pos_left (Nat.succ_pos count)

theorem advance_steady (target : Option String) (h : Accumulates Message exchange seen)
    (starved : exchange.status = .incompleteMessage → Starved Message exchange.pending) :
    ∃ result after, exchange.advance transport.beside.observed channel.beside.observed target seen = (result, after) ∧
      Round channel target Message unread exchange seen result after := by
  cases needs : exchange.needsInput with
  | true =>
    have starved : Starved Message exchange.pending := by
      simp only [Exchange.needsInput, h.consumed, Bool.not_true, Bool.or_false, Bool.or_eq_true,
        List.isEmpty_iff, beq_iff_eq] at needs
      cases needs with
      | inl empty => exact empty ▸ law.delimited.starved_nil
      | inr waiting => exact starved waiting
    obtain ⟨middle, same, reads, ⟨read, ends⟩ | ⟨fuller, read, accumulates, stream, less⟩⟩ :=
      receive_steady steady delivers h starved
    · refine ⟨.error .socketClosed, middle, ?_, .closed same reads ?_⟩
      · rw [Exchange.advance, if_pos needs, bind_of_eq read]
        rfl
      · rwa [ends, List.append_nil]
    · obtain ⟨used, output, exchange', after, fed, feeds⟩ :=
        fed_feed law steady delivers target accumulates
      refine ⟨.ok exchange', after, ?_, .fed same stream ?_ feeds⟩
      · rw [Exchange.advance, if_pos needs, bind_of_eq read]
        exact fed
      · have total := congrArg List.length stream
        simp only [List.length_append] at total
        unfold remaining
        omega
  | false =>
    obtain ⟨used, output, exchange', after, fed, feeds⟩ := fed_feed law steady delivers target h
    refine ⟨.ok exchange', after, ?_, .fed (.refl seen) rfl ?_ feeds⟩
    · rw [Exchange.advance, needs]
      exact fed
    · have ready : exchange.status ≠ .incompleteMessage := by
        simp only [Exchange.needsInput, Bool.or_eq_false_iff, beq_eq_false_iff_ne] at needs
        exact needs.1.2
      rw [remaining, if_neg ready]
      exact Nat.lt_succ_self _

/-- The rounds come to an end, and follow the conversation about the stream. -/
theorem run_converses (target : Option String) {budget : Nat} (h : Accumulates Message exchange seen)
    (waits : exchange.isOpen = true)
    (starved : exchange.status = .incompleteMessage → Starved Message exchange.pending)
    (enough : remaining unread exchange seen < budget) :
    ∃ result after used said ending,
      Exchange.run transport.beside.observed channel.beside.observed target budget exchange seen =
          some (result, after) ∧
        Conversation channel target Message seen.state.provider (exchange.pending ++ unread seen.state.stream) used
          said ending after.state.provider ∧
        ending.Is unread result after.state ∧ messages after.deeds = messages seen.deeds ++ used ∧
        handedOver after.deeds = handedOver seen.deeds ++ said ∧ ReadsStarved Message after.deeds := by
  -- What remains falls in every round, whether the provider used up a message or the stream was read.
  induction budget generalizing exchange seen with
  | zero => exact absurd enough (Nat.not_lt_zero _)
  | succ budget ih =>
    obtain ⟨result, after, ran, round⟩ := advance_steady law steady delivers target h starved
    cases round with
    | closed same reads starved =>
      refine ⟨_, after, [], [], .starved, run_error waits ran budget, ?_, rfl, ?_, ?_, reads⟩
      · exact same.provider ▸ .starved starved
      · rw [same.messages, List.append_nil]
      · rw [same.sent, List.append_nil]
    | @fed middle exchange' seen' _ used output same stream less feeds =>
      have rest : remaining unread exchange' after < budget :=
        Nat.lt_of_lt_of_le (Nat.lt_of_le_of_lt (feeds.remaining_le law) less) (Nat.le_of_lt_succ enough)
      have stream : exchange.pending ++ unread seen.state.stream =
          used.flatten ++ (exchange'.pending ++ unread after.state.stream) := by
        rw [← stream, feeds.pending, feeds.unread, List.append_assoc]
      obtain ⟨rfl, rfl, provider, waiting, starving⟩ | ⟨message, rfl, is, answers⟩ := feeds.took
      · obtain ⟨result, last, later, said, ending, ran', converses, is, messages, sent, reads⟩ :=
          ih feeds.accumulates (by simp [Exchange.isOpen, waiting]) (fun _ => starving) rest
        refine ⟨result, last, later, said, ending, ?_, ?_, is, ?_, ?_, reads⟩
        · rw [run_ok waits ran budget, ran']
        · rw [stream, ← same.provider, ← provider]
          exact converses
        · rw [messages, feeds.messages, same.messages]
          simp
        · rw [sent, feeds.sent, same.sent]
          simp
      · rw [same.provider] at answers
        by_cases waits' : exchange'.status = .continueNeeded
        · obtain ⟨result, last, later, said, ending, ran', converses, is', messages, sent, reads⟩ :=
            ih feeds.accumulates (by simp [Exchange.isOpen, waits']) (by simp [waits']) rest
          refine ⟨result, last, message :: later, output ++ said, ending, ?_, ?_, is', ?_, ?_, reads⟩
          · rw [run_ok waits ran budget, ran']
          · rw [stream, List.flatten_singleton]
            exact .more is (waits' ▸ answers) converses
          · rw [messages, feeds.messages, same.messages]
            simp
          · rw [sent, feeds.sent, same.sent]
            simp
        · have closed : exchange'.isOpen = false := by
            simp [Exchange.isOpen, waits', answers.1]
          obtain ⟨budget, rfl⟩ := Nat.exists_eq_succ_of_ne_zero (Nat.ne_zero_of_lt rest)
          refine ⟨.ok exchange', after, [message], output, .stopped exchange'.status _, ?_, ?_,
            ⟨exchange', rfl, rfl, rfl⟩, ?_, ?_, feeds.accumulates.reads⟩
          · rw [run_ok waits ran (budget + 1), run_over _ _ _ closed budget]
          · rw [stream, List.flatten_singleton]
            exact .stopped _ is answers waits'
          · rw [feeds.messages, same.messages]
          · rw [feeds.sent, same.sent]

end

end NetReactor
