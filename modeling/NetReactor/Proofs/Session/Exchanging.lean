import NetReactor.Proofs.Session.Rounds
import NetReactor.Proofs.Session.Sending
/-!
The rounds of a handshake, whatever the provider and the stream answer. A handshake need not come to an end, so it is
followed for any number of rounds; when it ends, it has been followed to its end.
-/
namespace NetReactor

variable {σ α β : Type} {transport : Transport σ} {channel : SecureChannel σ} {target : Option String}
variable {exchange next : Exchange} {outcome : Outcome Exchange} {state after : σ} {rounds : Nat}
variable {deeds : List Deed}

namespace Exchange

def fed (exchange : Exchange) (count : Nat) (left : Bytes) : Exchange :=
  { exchange with pending := exchange.pending ++ left.take count, scratch := left }

inductive Feeds (exchange : Exchange) : List Deed → Outcome Exchange → Prop
  | fed {answer : HandshakeStep} {writes : List Deed} (pours : Pours answer.output (.ok ()) writes []) :
    Feeds exchange (.stepped (some exchange.pending) answer :: writes) (.ok (exchange.settle answer))
  | broken {answer : HandshakeStep} {failure : Error} {writes : List Deed} {rest : Bytes}
    (pours : Pours answer.output (.error failure) writes rest) :
    Feeds exchange (.stepped (some exchange.pending) answer :: writes) (.error failure)

inductive Advances (exchange : Exchange) : List Deed → Outcome Exchange → Prop
  | ready {deeds : List Deed} {outcome : Outcome Exchange} (ready : exchange.needsInput = false)
    (feeds : exchange.Feeds deeds outcome) : Advances exchange deeds outcome
  | read {count : Nat} {left : Bytes} {deeds : List Deed} {outcome : Outcome Exchange}
    (needs : exchange.needsInput = true) (some : count ≠ 0) (feeds : (exchange.fed count left).Feeds deeds outcome) :
    Advances exchange (.received exchange.scratch (.ok count) left :: deeds) outcome
  | closed {left : Bytes} (needs : exchange.needsInput = true) :
    Advances exchange [.received exchange.scratch (.ok 0) left] (.error .socketClosed)
  | failed {failure : Error} {left : Bytes} (needs : exchange.needsInput = true) :
    Advances exchange [.received exchange.scratch (.error failure) left] (.error failure)

theorem feeds_feed (target : Option String) (exchange : Exchange) (seen : Observed σ) :
    ∃ deeds outcome state,
      exchange.feed transport.observed channel.observed target seen =
        (outcome, { state, deeds := seen.deeds ++ deeds }) ∧ exchange.Feeds deeds outcome := by
  rcases asked : channel.handshakeStep target (some exchange.pending) seen.state with ⟨answer, middle⟩
  obtain ⟨result, writes, rest, state, poured, pours⟩ := pours_sendAll transport answer.output
    { state := middle, deeds := seen.deeds ++ [.stepped (some exchange.pending) answer] }
  refine ⟨.stepped (some exchange.pending) answer :: writes, ?_⟩
  rw [feed, bind_of_eq (observed_step asked), bind_of_eq poured, List.append_assoc]
  cases result with
  | error failure => exact ⟨_, state, rfl, .broken pours⟩
  | ok =>
    obtain rfl := pours.ok_iff.mp rfl
    exact ⟨_, state, rfl, .fed pours⟩

theorem advances_advance (target : Option String) (exchange : Exchange) (seen : Observed σ) :
    ∃ deeds outcome state,
      exchange.advance transport.observed channel.observed target seen =
        (outcome, { state, deeds := seen.deeds ++ deeds }) ∧ exchange.Advances deeds outcome := by
  rw [advance]
  cases needs : exchange.needsInput with
  | false =>
    obtain ⟨deeds, outcome, state, fed, feeds⟩ := @feeds_feed _ transport channel target exchange seen
    exact ⟨deeds, outcome, state, fed, .ready needs feeds⟩
  | true =>
    rcases asked : transport.recv exchange.scratch seen.state with ⟨⟨result, left⟩, middle⟩
    rw [if_pos rfl, receive, bind_assoc, bind_of_eq (observed_recv asked)]
    cases result with
    | error failure => exact ⟨_, _, middle, rfl, .failed needs⟩
    | ok count =>
      cases count with
      | zero => exact ⟨_, _, middle, rfl, .closed needs⟩
      | succ count =>
        obtain ⟨deeds, outcome, state, fed, feeds⟩ :=
          @feeds_feed _ transport channel target (exchange.fed (count + 1) left)
            { state := middle, deeds := seen.deeds ++ [.received exchange.scratch (.ok (count + 1)) left] }
        rw [List.append_assoc] at fed
        exact ⟨_, outcome, state, fed, .read needs (Nat.succ_ne_zero count) feeds⟩

def proceed (transport : Transport σ) (channel : SecureChannel σ) (target : Option String) :
    (rounds : Nat) → Exchange → StateM σ (Outcome Exchange)
  | 0, exchange => pure (.ok exchange)
  | rounds + 1, exchange => do
    if exchange.isOpen then
      match ← exchange.advance transport channel target with
      | .error failure => return .error failure
      | .ok exchange => proceed transport channel target rounds exchange
    else return .ok exchange

def Ended : Outcome Exchange → Prop
  | .ok exchange => exchange.isOpen = false
  | .error _ => True

inductive Proceeds : Nat → Exchange → List Deed → Outcome Exchange → Prop
  | start {exchange : Exchange} : Proceeds 0 exchange [] (.ok exchange)
  | ended {rounds : Nat} {exchange : Exchange} (closed : exchange.isOpen = false) :
    Proceeds rounds exchange [] (.ok exchange)
  | broken {rounds : Nat} {exchange : Exchange} {deeds : List Deed} {failure : Error}
    (waits : exchange.isOpen = true) (advances : exchange.Advances deeds (.error failure)) :
    Proceeds (rounds + 1) exchange deeds (.error failure)
  | more {rounds : Nat} {exchange next : Exchange} {deeds later : List Deed} {outcome : Outcome Exchange}
    (waits : exchange.isOpen = true) (advances : exchange.Advances deeds (.ok next))
    (rest : Proceeds rounds next later outcome) : Proceeds (rounds + 1) exchange (deeds ++ later) outcome

theorem proceeds_proceed (target : Option String) (rounds : Nat) (exchange : Exchange) (seen : Observed σ) :
    ∃ deeds outcome state,
      proceed transport.observed channel.observed target rounds exchange seen =
        (outcome, { state, deeds := seen.deeds ++ deeds }) ∧ Proceeds rounds exchange deeds outcome := by
  induction rounds generalizing exchange seen with
  | zero => exact ⟨[], _, seen.state, by rw [List.append_nil]; rfl, .start⟩
  | succ rounds ih =>
    rw [proceed]
    cases waits : exchange.isOpen with
    | false => exact ⟨[], _, seen.state, by rw [List.append_nil]; rfl, .ended waits⟩
    | true =>
      obtain ⟨deeds, outcome, state, advanced, advances⟩ :=
        @advances_advance _ transport channel target exchange seen
      rw [if_pos rfl, bind_of_eq advanced]
      cases outcome with
      | error failure => exact ⟨_, _, state, rfl, .broken waits advances⟩
      | ok next =>
        obtain ⟨later, outcome, state, proceeded, rest⟩ := ih next { state, deeds := seen.deeds ++ deeds }
        rw [List.append_assoc] at proceeded
        exact ⟨_, outcome, state, proceeded, .more waits advances rest⟩

/-- A bounded exchange that ends is one that was followed to its end. -/
theorem proceed_of_run {budget : Nat}
    (h : run transport channel target budget exchange state = some (outcome, after)) :
    proceed transport channel target budget exchange state = (outcome, after) ∧ Ended outcome := by
  induction budget generalizing exchange state with
  | zero => cases h
  | succ budget ih =>
    cases waits : exchange.isOpen with
    | false =>
      rw [run_over _ _ _ waits] at h
      cases h
      rw [proceed, waits]
      exact ⟨rfl, waits⟩
    | true =>
      rcases advanced : exchange.advance transport channel target state with ⟨result, middle⟩
      rw [proceed, if_pos waits, bind_of_eq advanced]
      cases result with
      | error failure =>
        rw [run_error waits advanced] at h
        cases h
        exact ⟨rfl, trivial⟩
      | ok next =>
        rw [run_ok waits advanced] at h
        exact ih h

/-- Any budget beyond the rounds after which it has ended is enough for an exchange. -/
theorem run_of_proceed {budget : Nat}
    (h : proceed transport channel target rounds exchange state = (outcome, after))
    (ended : Ended outcome) (enough : rounds < budget) :
    run transport channel target budget exchange state = some (outcome, after) := by
  obtain ⟨budget, rfl⟩ := Nat.exists_eq_add_of_lt enough
  induction rounds generalizing exchange state with
  | zero =>
    cases h
    exact run_over _ _ _ ended _ _
  | succ rounds ih =>
    rw [proceed] at h
    cases waits : exchange.isOpen with
    | false =>
      rw [waits, if_neg Bool.false_ne_true] at h
      cases h
      exact run_over _ _ _ waits _ _
    | true =>
      rcases advanced : exchange.advance transport channel target state with ⟨result, middle⟩
      rw [waits, if_pos rfl, bind_of_eq advanced] at h
      have split : rounds + 1 + budget + 1 = rounds + budget + 1 + 1 := by omega
      rw [split]
      cases result with
      | error failure =>
        cases h
        exact run_error waits advanced _
      | ok next =>
        rw [run_ok waits advanced]
        exact ih h (by omega)

end Exchange

namespace Session

variable {session : Session}

def follow (transport : Transport σ) (channel : SecureChannel σ) (rounds : Nat) (session : Session) :
    StateM σ (Outcome Exchange) := do
  let target := session.context.hostname
  let step ← channel.handshakeStep target none
  match ← transport.sendAll step.output with
  | .error failure => return .error failure
  | .ok () => Exchange.proceed transport channel target rounds { pending := session.carried, status := step.status }

inductive Follows (rounds : Nat) (session : Session) : List Deed → Outcome Exchange → Prop
  | broken {answer : HandshakeStep} {failure : Error} {writes : List Deed} {rest : Bytes}
    (pours : Pours answer.output (.error failure) writes rest) :
    Follows rounds session (.stepped none answer :: writes) (.error failure)
  | begun {answer : HandshakeStep} {writes deeds : List Deed} {outcome : Outcome Exchange}
    (pours : Pours answer.output (.ok ()) writes [])
    (proceeds : Exchange.Proceeds rounds { pending := session.carried, status := answer.status } deeds outcome) :
    Follows rounds session (.stepped none answer :: (writes ++ deeds)) outcome

theorem follows_follow (transport : Transport σ) (channel : SecureChannel σ) (rounds : Nat) (session : Session)
    (seen : Observed σ) : ∃ deeds outcome state,
      session.follow transport.observed channel.observed rounds seen =
        (outcome, { state, deeds := seen.deeds ++ deeds }) ∧ Follows rounds session deeds outcome := by
  rcases asked : channel.handshakeStep session.context.hostname none seen.state with ⟨answer, middle⟩
  obtain ⟨result, writes, rest, state, poured, pours⟩ := pours_sendAll transport answer.output
    { state := middle, deeds := seen.deeds ++ [.stepped none answer] }
  rw [List.append_assoc] at poured
  rw [follow, bind_of_eq (observed_step asked), bind_of_eq poured]
  cases result with
  | error failure => exact ⟨_, _, state, rfl, .broken pours⟩
  | ok =>
    obtain rfl := pours.ok_iff.mp rfl
    obtain ⟨deeds, outcome, state, proceeded, proceeds⟩ :=
      @Exchange.proceeds_proceed _ transport channel session.context.hostname rounds
        { pending := session.carried, status := answer.status }
        { state, deeds := seen.deeds ++ ([.stepped none answer] ++ writes) }
    rw [List.append_assoc] at proceeded
    exact ⟨_, outcome, state, proceeded, .begun pours proceeds⟩

def agree (channel : SecureChannel σ) : Outcome Exchange → StateM σ (Outcome Agreement)
  | .error failure => pure (.error failure)
  | .ok exchange => conclude channel exchange

def shaken (session : Session) : Outcome Agreement → Outcome Unit × Session
  | .ok agreement => (.ok (), { session with
      stage := .established, sizing := some agreement.sizing, carried := agreement.carried })
  | .error _ => (.error .handshakeFailed, { session with stage := .failed })

inductive Ends (session : Session) : Outcome Exchange → List Deed → Outcome Unit × Session → Prop
  | broken {failure : Error} : Ends session (.error failure) [] (session.shaken (.error failure))
  | rejected {exchange : Exchange} (refused : exchange.status ≠ .done) :
    Ends session (.ok exchange) [] (session.shaken (.error .handshakeFailed))
  | unsized {exchange : Exchange} {reason : ChannelError} (done : exchange.status = .done) :
    Ends session (.ok exchange) [.sized (.error reason)] (session.shaken (.error .handshakeFailed))
  | agreed {exchange : Exchange} {sizing : RecordSizing} (done : exchange.status = .done) :
    Ends session (.ok exchange) [.sized (.ok sizing)] (session.shaken (.ok ⟨sizing, exchange.pending⟩))

theorem ends_agree (channel : SecureChannel σ) (session : Session) (outcome : Outcome Exchange)
    (seen : Observed σ) : ∃ deeds agreement state,
      agree channel.observed outcome seen = (agreement, { state, deeds := seen.deeds ++ deeds }) ∧
        Ends session outcome deeds (session.shaken agreement) := by
  cases outcome with
  | error failure => exact ⟨[], _, seen.state, by rw [List.append_nil]; rfl, .broken⟩
  | ok exchange =>
    rw [agree, conclude]
    by_cases done : exchange.status = .done
    · rcases asked : channel.streamSizes seen.state with ⟨answer, state⟩
      rw [if_pos done, bind_of_eq (observed_sizes asked)]
      cases answer with
      | error reason => exact ⟨_, _, state, rfl, .unsized done⟩
      | ok sizing => exact ⟨_, _, state, rfl, .agreed done⟩
    · rw [if_neg done]
      exact ⟨[], _, seen.state, by rw [List.append_nil]; rfl, .rejected done⟩

theorem handshake_eq (stage : session.stage = .notStarted) (credentials : session.credentials = true)
    (budget : Nat) (state : σ) : session.handshake transport channel budget state =
      (session.exchangeTokens transport channel budget state).map fun (agreement, after) =>
        (session.shaken agreement, after) := by
  obtain ⟨context, _, _, sizing, carried, incomplete, held⟩ := session
  subst stage credentials
  rw [handshake]
  have same : exchangeTokens transport channel budget ⟨context, true, .exchanging, sizing, carried, incomplete,
      held⟩ = exchangeTokens transport channel budget ⟨context, true, .notStarted, sizing, carried, incomplete,
      held⟩ := rfl
  dsimp only
  rw [same]
  cases exchanged : exchangeTokens transport channel budget ⟨context, true, .notStarted, sizing, carried,
      incomplete, held⟩ state with
  | none => exact congrArg (Option.bind · _) exchanged
  | some pair =>
    obtain ⟨agreement, after⟩ := pair
    rw [budgeted_bind_of_eq exchanged]
    cases agreement <;> rfl

/-- An exchange of tokens that comes to an end is one that was followed to its end. -/
theorem follow_of_exchangeTokens {budget : Nat} {agreement : Outcome Agreement}
    (h : session.exchangeTokens transport channel budget state = some (agreement, after)) :
    ∃ outcome middle, session.follow transport channel budget state = (outcome, middle) ∧
      Exchange.Ended outcome ∧ agree channel outcome middle = (agreement, after) := by
  rcases asked : channel.handshakeStep session.context.hostname none state with ⟨step, first⟩
  rcases sent : transport.sendAll step.output first with ⟨result, second⟩
  rw [exchangeTokens, lift_bind_of_eq asked, lift_bind_of_eq sent] at h
  rw [follow, bind_of_eq asked, bind_of_eq sent]
  cases result with
  | error failure =>
    cases h
    exact ⟨_, _, rfl, trivial, rfl⟩
  | ok =>
    obtain ⟨⟨outcome, middle⟩, ran, h⟩ := Option.bind_eq_some_iff.mp h
    obtain ⟨proceeded, ended⟩ := Exchange.proceed_of_run ran
    refine ⟨outcome, middle, proceeded, ended, ?_⟩
    cases outcome with
    | error failure => exact Option.some.inj h
    | ok exchange => exact Option.some.inj h

/-- Any budget beyond the rounds that it goes through is enough for an exchange of tokens. -/
theorem exchangeTokens_of_follow {budget : Nat} {outcome : Outcome Exchange} {middle : σ}
    (h : session.follow transport channel rounds state = (outcome, middle)) (ended : Exchange.Ended outcome)
    (enough : rounds < budget) :
    session.exchangeTokens transport channel budget state = some (agree channel outcome middle) := by
  rcases asked : channel.handshakeStep session.context.hostname none state with ⟨step, first⟩
  rcases sent : transport.sendAll step.output first with ⟨result, second⟩
  rw [follow, bind_of_eq asked, bind_of_eq sent] at h
  rw [exchangeTokens, lift_bind_of_eq asked, lift_bind_of_eq sent]
  cases result with
  | error failure =>
    cases h
    rfl
  | ok =>
    dsimp only
    rw [budgeted_bind_of_eq (Exchange.run_of_proceed h ended enough)]
    cases outcome <;> rfl

def MirrorsRun (action : Budgeted (Observed σ) α) (plain : Budgeted σ α) : Prop :=
  ∀ seen, (action seen).map (fun (answer, seen) => (answer, seen.state)) = plain seen.state

namespace MirrorsRun

theorem lift {action : StateM (Observed σ) α} {plain : StateM σ α} (h : Mirrors action plain) :
    MirrorsRun (liftM action : Budgeted (Observed σ) α) (liftM plain : Budgeted σ α) := by
  intro seen
  obtain ⟨answer, state⟩ := h seen
  exact congrArg some (Prod.ext answer state)

theorem pure (a : α) : MirrorsRun (pure a : Budgeted (Observed σ) α) (pure a) := fun _ => rfl

theorem bind {action : Budgeted (Observed σ) α} {plain : Budgeted σ α} {next : α → Budgeted (Observed σ) β}
    {plainly : α → Budgeted σ β} (h : MirrorsRun action plain) (hn : ∀ a, MirrorsRun (next a) (plainly a)) :
    MirrorsRun (action >>= next) (plain >>= plainly) := by
  intro seen
  have same : (plain >>= plainly) seen.state = (plain seen.state).bind fun (a, state) => plainly a state := rfl
  have both : (action >>= next) seen = (action seen).bind fun (a, seen) => next a seen := rfl
  rw [both, same, ← h seen]
  cases action seen with
  | none => rfl
  | some pair => exact hn pair.1 pair.2

end MirrorsRun

theorem mirrors_feed (target : Option String) (exchange : Exchange) :
    Mirrors (exchange.feed transport.observed channel.observed target) (exchange.feed transport channel target) := by
  refine .bind (.note _ _) fun step => .bind (mirrors_sendAll transport step.output) fun result => ?_
  cases result <;> exact .pure _

theorem mirrors_advance (target : Option String) (exchange : Exchange) :
    Mirrors (exchange.advance transport.observed channel.observed target)
      (exchange.advance transport channel target) := by
  unfold Exchange.advance
  split
  · refine .bind (.bind (.note _ _) fun (result, left) => ?_) fun result => ?_
    · match result with
      | .error _ => exact .pure _
      | .ok 0 => exact .pure _
      | .ok (_ + 1) => exact .pure _
    · cases result with
      | error failure => exact .pure _
      | ok next => exact mirrors_feed target next
  · exact mirrors_feed target exchange

theorem mirrors_run (target : Option String) (budget : Nat) (exchange : Exchange) :
    MirrorsRun (Exchange.run transport.observed channel.observed target budget exchange)
      (Exchange.run transport channel target budget exchange) := by
  induction budget generalizing exchange with
  | zero => exact fun _ => rfl
  | succ budget ih =>
    unfold Exchange.run
    split
    · refine .bind (.lift (mirrors_advance target exchange)) fun result => ?_
      cases result with
      | error failure => exact .pure _
      | ok next => exact ih next
    · exact .pure _

theorem mirrors_exchangeTokens (budget : Nat) (session : Session) :
    MirrorsRun (session.exchangeTokens transport.observed channel.observed budget)
      (session.exchangeTokens transport channel budget) := by
  refine .bind (.lift (.note _ _)) fun step => .bind (.lift (mirrors_sendAll transport step.output)) fun result => ?_
  cases result with
  | error failure => exact .pure _
  | ok =>
    refine .bind (mirrors_run _ budget _) fun outcome => ?_
    cases outcome with
    | error failure => exact .pure _
    | ok exchange =>
      refine .lift ?_
      unfold conclude
      split
      · refine .bind (.note _ _) fun answer => ?_
        cases answer <;> exact .pure _
      · exact .pure _

structure Shakes (transport : Transport σ) (channel : SecureChannel σ) (session : Session) (state : σ)
    (budget : Nat) (answer : Outcome Unit × Session) (after : σ) (deeds : List Deed) : Prop where
  plain : session.handshake transport channel budget state = some (answer, after)
  observed : session.handshake transport.observed channel.observed budget { state } =
    some (answer, { state := after, deeds })

/-- Nothing is done for a handshake that does not start. -/
theorem shakes_idle (idle : session.stage ≠ .notStarted ∨ session.credentials = false)
    (transport : Transport σ) (channel : SecureChannel σ) (budget : Nat) (state : σ) :
    Shakes transport channel session state budget
      (.error (if session.stage = .established then .alreadyConnected else .handshakeFailed), session) state [] where
  plain := by
    rw [handshake_idle idle]
    rfl
  observed := by
    rw [handshake_idle idle]
    rfl

variable (stage : session.stage = .notStarted) (credentials : session.credentials = true)
include stage credentials

/-- A handshake that comes to an end is one that was followed to the end of its rounds, and then ended. -/
theorem shakes_of_handshake {budget : Nat} {answer : Outcome Unit × Session}
    (h : session.handshake transport channel budget state = some (answer, after)) :
    ∃ outcome middle closing,
      session.follow transport.observed channel.observed budget { state } = (outcome, middle) ∧
      Exchange.Ended outcome ∧ Ends session outcome closing answer ∧
      Shakes transport channel session state budget answer after (middle.deeds ++ closing) := by
  have plain := h
  rw [handshake_eq stage credentials] at h
  obtain ⟨⟨agreement, _⟩, exchanged, same⟩ := Option.map_eq_some_iff.mp h
  cases same
  rw [← @mirrors_exchangeTokens _ transport channel budget session { state }] at exchanged
  obtain ⟨⟨_, last⟩, observed, same⟩ := Option.map_eq_some_iff.mp exchanged
  cases same
  obtain ⟨outcome, middle, followed, ended, agreed⟩ := follow_of_exchangeTokens observed
  obtain ⟨closing, _, _, agreed', ends⟩ := ends_agree channel session outcome middle
  cases agreed.symm.trans agreed'
  refine ⟨outcome, middle, closing, followed, ended, ends, plain, ?_⟩
  rw [handshake_eq stage credentials, observed]
  rfl

/-- A handshake whose rounds come to an end does so itself, with any budget beyond them. -/
theorem shakes_of_follow {outcome : Outcome Exchange} {middle : Observed σ}
    (followed : session.follow transport.observed channel.observed rounds { state } = (outcome, middle))
    (ended : Exchange.Ended outcome) :
    ∃ closing answer after, Ends session outcome closing answer ∧ ∀ budget, rounds < budget →
      Shakes transport channel session state budget answer after (middle.deeds ++ closing) := by
  obtain ⟨closing, agreement, after, agreed, ends⟩ := ends_agree channel session outcome middle
  refine ⟨closing, _, after, ends, fun budget enough => ?_⟩
  have exchanged := exchangeTokens_of_follow followed ended enough
  rw [agreed] at exchanged
  have plain := @mirrors_exchangeTokens _ transport channel budget session { state }
  rw [exchanged] at plain
  constructor
  · rw [handshake_eq stage credentials, ← plain]
    rfl
  · rw [handshake_eq stage credentials, exchanged]
    rfl

end Session
end NetReactor
