import NetReactor.Proofs.Session.Gathering
import NetReactor.Proofs.Session.Within
/-!
A handshake comes to an end if the stream does. Each round has the provider use a part of what is pending, or has
the stream give more; so a provider that never has enough is asked no more often than there are bytes and reads.
-/
namespace NetReactor

variable {σ α : Type} {transport : Transport σ} {channel : SecureChannel σ} {session : Session} {state : σ}
variable {exchange next : Exchange} {outcome : Outcome Exchange} {deeds early late : List Deed} {rounds : Nat}

def Deed.isStep : Deed → Bool
  | .stepped .. => true
  | _ => false

def Deed.isGift : Deed → Bool
  | .received _ (.ok (_ + 1)) _ => true
  | _ => false

def StepsWithin (slack : Nat) (deeds : List Deed) : Prop :=
  deeds.countP Deed.isStep ≤ slack + (arrived deeds).length + deeds.countP Deed.isRead

theorem Pours.steps {data rest : Bytes} {result : Outcome Unit} (h : Pours data result deeds rest) :
    deeds.countP Deed.isStep = 0 := by
  refine List.countP_eq_zero.mpr fun deed mem => ?_
  have sent := h.isSent deed mem
  cases deed with
  | sent => simp [Deed.isStep]
  | _ => cases sent

namespace Exchange

def patience (exchange : Exchange) : Nat :=
  exchange.pending.length + if exchange.needsInput then 0 else 1

theorem patience_ready (ready : exchange.needsInput = false) :
    exchange.patience = exchange.pending.length + 1 := by
  rw [patience, ready, if_neg Bool.false_ne_true]

theorem patience_needs (needs : exchange.needsInput = true) : exchange.patience = exchange.pending.length := by
  rw [patience, if_pos needs, Nat.add_zero]

theorem patience_le (exchange : Exchange) : exchange.patience ≤ exchange.pending.length + 1 := by
  cases needs : exchange.needsInput with
  | false => exact Nat.le_of_eq (patience_ready needs)
  | true => exact patience_needs needs ▸ Nat.le_succ _

theorem patience_settle (exchange : Exchange) (step : HandshakeStep) :
    (exchange.settle step).patience ≤ exchange.pending.length := by
  have whole : (settle.settleWhole exchange step).patience ≤ exchange.pending.length := by
    unfold settle.settleWhole
    by_cases short : step.status = .incompleteMessage
    · rw [if_pos short]
      simp [patience, needsInput, short]
    · rw [if_neg short]
      simp [patience, needsInput]
  unfold settle
  split
  · next extra _ =>
    dsimp only
    split
    · next possible =>
      by_cases used : extra < exchange.pending.length
      · simp only [patience, List.length_drop]
        split <;> omega
      · simp only [patience, needsInput, used, decide_false, Bool.not_false, Bool.or_true, if_true,
          List.length_drop]
        omega
    · exact whole
  · exact whole

def patienceLeft : Outcome Exchange → Nat
  | .ok exchange => exchange.patience
  | .error _ => 0

theorem Feeds.steps (h : exchange.Feeds deeds outcome) :
    deeds.countP Deed.isStep = 1 ∧ arrived deeds = [] ∧ patienceLeft outcome ≤ exchange.pending.length := by
  cases h with
  | fed pours =>
    rw [List.countP_cons_of_pos rfl, pours.steps, arrived_stepped]
    exact ⟨rfl, arrived_eq_nil pours.isSent, patience_settle _ _⟩
  | broken pours =>
    rw [List.countP_cons_of_pos rfl, pours.steps, arrived_stepped]
    exact ⟨rfl, arrived_eq_nil pours.isSent, Nat.zero_le _⟩

/-- A step costs patience, unless the stream was asked for more. -/
theorem Advances.steps (h : exchange.Advances deeds outcome) :
    deeds.countP Deed.isStep + patienceLeft outcome ≤
      exchange.patience + (arrived deeds).length + deeds.countP Deed.isRead := by
  cases h with
  | ready ready feeds =>
    obtain ⟨once, -, less⟩ := feeds.steps
    rw [patience_ready ready]
    omega
  | @read count left deeds _ needs _ feeds =>
    obtain ⟨once, none, less⟩ := feeds.steps
    simp only [fed, List.length_append] at less
    rw [patience_needs needs, arrived_cons, none, List.append_nil, List.countP_cons_of_neg (by simp [Deed.isStep]),
      List.countP_cons_of_pos rfl, once, Deed.given]
    omega
  | closed => exact Nat.zero_le _
  | failed => exact Nat.zero_le _

theorem Proceeds.steps (h : Proceeds rounds exchange deeds outcome) : StepsWithin exchange.patience deeds := by
  rw [StepsWithin]
  induction h with
  | start => exact Nat.zero_le _
  | ended => exact Nat.zero_le _
  | broken _ advances =>
    have steps := advances.steps
    omega
  | more _ advances _ ih =>
    have steps := advances.steps
    rw [patienceLeft] at steps
    rw [List.countP_append, List.countP_append, arrived_append, List.length_append]
    omega

/-- A stream that gives something only so many more times lets no exchange go on forever: each round without a
read leaves less patience, and each read that gives something is one of those. -/
theorem proceed_ends (target : Option String) (reads : Nat) (exchange : Exchange) (seen : Observed σ)
    (few : ∀ rounds, (proceed transport.observed channel.observed target rounds exchange seen).2.deeds.countP
      Deed.isGift ≤ seen.deeds.countP Deed.isGift + reads) :
    ∃ rounds, Ended (proceed transport.observed channel.observed target rounds exchange seen).1 := by
  cases waits : exchange.isOpen with
  | false => exact ⟨0, waits⟩
  | true =>
    obtain ⟨deeds, outcome, state, advanced, advances⟩ :=
      @advances_advance _ transport channel target exchange seen
    cases outcome with
    | error failure => exact ⟨1, by rw [proceed, if_pos waits, bind_of_eq advanced]; trivial⟩
    | ok next =>
      let middle : Observed σ := { state, deeds := seen.deeds ++ deeds }
      have later (rounds : Nat) :
          proceed transport.observed channel.observed target (rounds + 1) exchange seen =
            proceed transport.observed channel.observed target rounds next middle := by
        rw [proceed, if_pos waits, bind_of_eq advanced]
      suffices h : ∃ rounds, Ended (proceed transport.observed channel.observed target rounds next middle).1 by
        obtain ⟨rounds, ended⟩ := h
        exact ⟨rounds + 1, by rwa [later]⟩
      have given : middle.deeds.countP Deed.isGift =
          seen.deeds.countP Deed.isGift + deeds.countP Deed.isGift := List.countP_append
      have few (rounds : Nat) := later rounds ▸ few (rounds + 1)
      cases advances with
      | ready ready feeds =>
        have less : next.patience < exchange.patience := by
          rw [patience_ready ready]
          exact Nat.lt_succ_of_le feeds.steps.2.2
        exact proceed_ends target reads next middle fun rounds => by
          have := few rounds
          omega
      | @read count left _ _ _ some =>
        obtain ⟨count, rfl⟩ := Nat.exists_eq_succ_of_ne_zero some
        rw [List.countP_cons_of_pos rfl] at given
        have first : middle.deeds.countP Deed.isGift ≤ _ := few 0
        obtain ⟨reads, rfl⟩ : ∃ fewer, reads = fewer + 1 := Nat.exists_eq_succ_of_ne_zero (by omega)
        exact proceed_ends target reads next middle fun rounds => by
          have := few rounds
          omega
termination_by (reads, exchange.patience)

end Exchange

namespace Session

theorem Follows.steps (h : Follows rounds session deeds outcome) :
    StepsWithin (session.carried.length + 2) deeds := by
  cases h with
  | broken pours =>
    rw [StepsWithin, List.countP_cons_of_pos rfl, pours.steps]
    omega
  | @begun answer writes deeds _ pours proceeds =>
    have steps := proceeds.steps
    have start := Exchange.patience_le { pending := session.carried, status := answer.status }
    rw [StepsWithin] at steps ⊢
    rw [List.countP_cons_of_pos rfl, List.countP_cons_of_neg (by simp [Deed.isRead]), List.countP_append,
      List.countP_append, pours.steps, arrived_stepped, arrived_append, arrived_eq_nil pours.isSent, List.nil_append]
    dsimp only at start
    omega

theorem Ends.steps {closing : List Deed} {answer : Outcome Unit × Session}
    (h : session.Ends outcome closing answer) : closing.countP Deed.isStep = 0 := by
  cases h <;> rfl

/-- The stream has only so many reads left that give something, however long the handshake is followed. -/
def FewReads (transport : Transport σ) (channel : SecureChannel σ) (session : Session) (state : σ)
    (reads : Nat) : Prop :=
  ∀ rounds, (session.follow transport.observed channel.observed rounds { state }).2.deeds.countP Deed.isGift ≤ reads

theorem follow_ends {reads : Nat} (few : FewReads transport channel session state reads) :
    ∃ rounds, Exchange.Ended (session.follow transport.observed channel.observed rounds { state }).1 := by
  rcases asked : channel.observed.handshakeStep session.context.hostname none { state } with ⟨answer, first⟩
  rcases sent : transport.observed.sendAll answer.output first with ⟨result, second⟩
  cases result with
  | error failure => exact ⟨0, by rw [follow, bind_of_eq asked, bind_of_eq sent]; trivial⟩
  | ok =>
    have few (rounds : Nat) := few rounds
    have followed (rounds : Nat) : session.follow transport.observed channel.observed rounds { state } =
        Exchange.proceed transport.observed channel.observed session.context.hostname rounds
          { pending := session.carried, status := answer.status } second := by
      rw [follow, bind_of_eq asked, bind_of_eq sent]
    simp only [followed] at few ⊢
    exact Exchange.proceed_ends _ reads _ second fun rounds => Nat.le_add_left_of_le (few rounds)

/-- Over a stream that gives something only so many times, every handshake comes to an end, whatever the provider
answers. The provider is asked no more often than there were bytes at the start and since, and receives, and two
times more. -/
theorem handshake_returns {reads : Nat} (few : FewReads transport channel session state reads) :
    ∃ enough answer after deeds,
      (∀ budget, enough ≤ budget → Shakes transport channel session state budget answer after deeds) ∧
      StepsWithin (session.carried.length + 2) deeds := by
  obtain ⟨stage, credentials⟩ | idle := session.started_or_idle
  · obtain ⟨rounds, ended⟩ := follow_ends few
    obtain ⟨deeds, outcome, middle, followed, follows⟩ :=
      follows_follow transport channel rounds session { state }
    rw [followed] at ended
    obtain ⟨closing, answer, after, ends, shakes⟩ := shakes_of_follow stage credentials followed ended
    refine ⟨rounds + 1, answer, after, _, shakes, ?_⟩
    have steps := follows.steps
    rw [StepsWithin] at steps ⊢
    dsimp only
    rw [List.nil_append, List.countP_append, List.countP_append, arrived_append, List.length_append, ends.steps]
    omega
  · exact ⟨0, _, state, [], fun budget _ => shakes_idle idle transport channel budget state, Nat.zero_le _⟩

end Session

section
variable {kind : σ → σ → Prop} [IsPreorder σ kind]
variable (ht : transport.StaysWithin kind) (hc : channel.StaysWithin kind)
include ht hc

theorem within_proceed (target : Option String) (rounds : Nat) (exchange : Exchange) :
    Within kind (exchange.proceed transport channel target rounds) := by
  induction rounds generalizing exchange with
  | zero => exact .pure _
  | succ rounds ih =>
    unfold Exchange.proceed
    split
    · refine .bind (within_advance ht hc target exchange) fun result => ?_
      cases result with
      | error failure => exact .pure _
      | ok next => exact ih next
    · exact .pure _

theorem within_follow (rounds : Nat) (session : Session) :
    Within kind (session.follow transport channel rounds) := by
  refine .bind (hc.handshakeStep _ _) fun step => .bind (ht.sendAll _) fun sent => ?_
  cases sent with
  | error failure => exact .pure _
  | ok => exact within_proceed ht hc _ rounds _

end

def NoMore (left : σ → Nat) (before after : σ) : Prop := left after ≤ left before

structure Countdown (transport : Transport σ) (channel : SecureChannel σ) (left : σ → Nat) : Prop where
  stream : transport.StaysWithin (NoMore left)
  provider : channel.StaysWithin (NoMore left)
  gives : ∀ buffer rest state after count, transport.recv buffer state = ((.ok (count + 1), rest), after) →
    left after < left state

def Spends (left : σ → Nat) (before after : Observed σ) : Prop :=
  after.deeds.countP Deed.isGift + left after.state ≤ before.deeds.countP Deed.isGift + left before.state

instance (left : σ → Nat) : IsPreorder (Observed σ) (Spends left) where
  refl _ := Nat.le_refl _
  trans _ _ _ h h' := Nat.le_trans h' h

theorem spends_note {action : StateM σ α} {deed : α → Deed} {left : σ → Nat} (h : Within (NoMore left) action)
    (none : ∀ answer, (deed answer).isGift = false) : Within (Spends left) (Observed.note action deed) := by
  intro seen
  have less : left (action seen.state).2 ≤ left seen.state := h seen.state
  rcases acted : action seen.state with ⟨answer, state⟩
  rw [acted] at less
  simp only [Spends, Observed.note, acted, List.countP_append, List.countP_singleton, none]
  exact Nat.add_le_add_left less _

namespace Countdown

variable {left : σ → Nat} (h : Countdown transport channel left)
include h

theorem spends_stream : transport.observed.StaysWithin (Spends left) where
  send data := spends_note (h.stream.send data) fun _ => rfl
  recv buffer := by
    intro seen
    have less : left (transport.recv buffer seen.state).2 ≤ left seen.state := h.stream.recv buffer seen.state
    rcases asked : transport.recv buffer seen.state with ⟨⟨result, rest⟩, after⟩
    rw [asked] at less
    rw [observed_recv asked]
    simp only [Spends, List.countP_append, List.countP_singleton]
    match result with
    | .error _ => exact Nat.add_le_add_left less _
    | .ok 0 => exact Nat.add_le_add_left less _
    | .ok (count + 1) =>
      have less := h.gives buffer rest seen.state after count asked
      rw [Deed.isGift, if_pos rfl]
      omega

theorem spends_provider : channel.observed.StaysWithin (Spends left) where
  acquireCredentials context := spends_note (h.provider.acquireCredentials context) fun _ => rfl
  handshakeStep target input := spends_note (h.provider.handshakeStep target input) fun _ => rfl
  streamSizes := spends_note h.provider.streamSizes fun _ => rfl
  encrypt record := spends_note (h.provider.encrypt record) fun _ => rfl
  decrypt message := spends_note (h.provider.decrypt message) fun _ => rfl
  shutdownToken := spends_note h.provider.shutdownToken fun _ => rfl

/-- Over such a stream, no handshake is given more than there is. -/
theorem fewReads (session : Session) (state : σ) : session.FewReads transport channel state (left state) := by
  intro rounds
  have spent := within_follow h.spends_stream h.spends_provider rounds session { state }
  rw [Spends, List.countP_nil, Nat.zero_add] at spent
  exact Nat.le_trans (Nat.le_add_right _ _) spent

end Countdown

def insatiable : SecureChannel Cues :=
  { cued with
    handshakeStep := fun _ input => pure { status := .continueNeeded, extra := input.map List.length } }

theorem countdown_insatiable : Countdown cuedStream insatiable fun cues => cues.reads.length where
  stream := {
    send := fun _ _ => Nat.le_refl _
    recv := fun _ cues => by
      simp only [NoMore, cuedStream, List.length_tail]
      omega }
  provider := {
    acquireCredentials := fun _ _ => Nat.le_refl _
    handshakeStep := fun _ _ _ => Nat.le_refl _
    streamSizes := fun _ => Nat.le_refl _
    encrypt := fun _ _ => Nat.le_refl _
    decrypt := fun _ _ => Nat.le_refl _
    shutdownToken := fun _ => Nat.le_refl _ }
  gives buffer rest cues after count asked := by
    obtain ⟨steps, reads⟩ := cues
    cases reads with
    | nil => cases asked
    | cons first reads =>
      cases asked
      exact Nat.lt_succ_self _

def dryingUp : Cues := { reads := [(.ok 2, [4, 5]), (.ok 1, [6])] }

theorem handshake_returns_insatiable : ∃ enough answer after deeds,
    (∀ budget, enough ≤ budget →
      Session.Shakes cuedStream insatiable leftOver dryingUp budget answer after deeds) ∧
    StepsWithin (leftOver.carried.length + 2) deeds :=
  Session.handshake_returns (countdown_insatiable.fewReads leftOver dryingUp)

/-- It is asked without input, on what was left over, and after each read that gave something. -/
example : (leftOver.handshake cuedStream.observed insatiable.observed 4 { state := dryingUp }).map
    (fun (answer, seen) => (answer.1, seen.deeds.filterMap Deed.input?, seen.deeds.countP Deed.isRead)) =
      some (.error .handshakeFailed, [[1, 2, 3], [1, 2, 3, 4, 5], [1, 2, 3, 4, 5, 6]], 3) := by decide +kernel

end NetReactor
