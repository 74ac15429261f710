import Mathlib.Control.Monad.Basic
import NetReactor.Proofs.Session.Rounds
import NetReactor.Proofs.Session.Stages
import NetReactor.Session.Plaintext
/-!
What a session keeps when it is closed. Closing forgets the stage and the record sizes, and nothing else: what
was received and not yet used is still there for the next handshake and the next receive.
-/
namespace NetReactor.Session

variable {σ : Type} {transport : Transport σ} {channel : SecureChannel σ} {session : Session}

inductive Answer where
  | shaken (result : Outcome Unit)
  | sent (result : Outcome Nat)
  | received (result : Outcome Nat) (buffer : Bytes)
  | closed
deriving DecidableEq

def answer (transport : Transport σ) (channel : SecureChannel σ) (session : Session) :
    Request → Budgeted σ (Answer × Session)
  | .handshake budget => do
    let (result, next) ← session.handshake transport channel budget
    return (.shaken result, next)
  | .send data => do return (.sent (← session.send transport channel data), session)
  | .recv buffer => do
    let received ← session.recv transport channel buffer
    return (.received received.result received.buffer, received.session)
  | .close => do return (.closed, ← session.close transport channel)

structure View where
  answer : Answer
  stage : Stage
  sizing : Option RecordSizing
deriving DecidableEq

def converse (transport : Transport σ) (channel : SecureChannel σ) :
    Session → List Request → Budgeted σ (List View)
  | _, [] => return []
  | session, request :: requests => do
    let (answer, next) ← session.answer transport channel request
    return ⟨answer, next.stage, next.sizing⟩ :: (← next.converse transport channel requests)

/-- These are the calls that bring sessions about. -/
theorem handle_eq_answer (session : Session) (request : Request) :
    session.handle transport channel request =
      Prod.snd <$> session.answer transport channel request := by
  funext state
  cases request with
  | handshake budget =>
    simp only [handle, answer, map_eq_pure_bind, bind_assoc, pure_bind]
  | _ => rfl

/-- No calls tell two sessions apart, whatever the provider and the transport answer. These may note down
all that they are asked for, so they are asked for the same. -/
def Alike (one other : Session) : Prop :=
  ∀ (σ : Type) (transport : Transport σ) (channel : SecureChannel σ) (requests : List Request),
    one.converse transport channel requests = other.converse transport channel requests

def granted (context : Context) : Session := { context, credentials := true }

theorem create_eq_granted {context : Context} {state : σ}
    (h : (channel.acquireCredentials context state).1 = .ok ()) :
    (create channel context state).1 = granted context := by
  rcases called : channel.acquireCredentials context state with ⟨answer, after⟩
  rw [called] at h
  subst h
  simp only [create, bind, StateT.bind, called]
  rfl

/-- What is left of a session that is closed while it is established. -/
theorem close_eq (stage : session.stage = .established) (credentials : session.credentials = true)
    (state : σ) :
    (session.close transport channel state).1 =
      { granted session.context with
        carried := session.carried, carriedIncomplete := session.carriedIncomplete,
        held := session.held } := by
  obtain ⟨context, _, _, sizing, carried, incomplete, held⟩ := session
  subst stage credentials
  have keeps : Yields (close transport channel ⟨context, true, .established, sizing, carried, incomplete, held⟩)
      (· = { granted context with carried, carriedIncomplete := incomplete, held }) := by
    refine .bind (.any _) fun token _ => ?_
    cases token with
    | error failure => exact .bind (.any _) fun _ _ => .pure rfl
    | ok token => exact .bind (.any _) fun _ _ => .bind (.any _) fun _ _ => .pure rfl
  exact keeps state

structure Asked where
  receives : Nat := 0
  decrypted : Option Bytes := none
deriving DecidableEq

def byteByByte : Transport Asked where
  send data := pure (.ok data.length)
  recv _ := fun asked => ((.ok 1, [0]), { asked with receives := asked.receives + 1 })
  close := pure ()

def leavesAll : SecureChannel Asked where
  acquireCredentials _ := pure (.ok ())
  handshakeStep _ input := pure <| input.elim { status := .continueNeeded }
    fun bytes => { status := .done, extra := some bytes.length }
  streamSizes := pure (.ok ⟨0, 0, 0⟩)
  encrypt record := pure (.ok 0, record)
  decrypt message := fun asked => (({ status := .done }, message), { asked with decrypted := some message })
  shutdownToken := pure (.ok [])

def telltale : List Request := [.handshake 2, .recv [0]]

def askedBy (session : Session) : Option Asked :=
  (session.converse byteByByte leavesAll telltale {}).map (·.2)

theorem Alike.askedBy {one other : Session} (h : one.Alike other) : one.askedBy = other.askedBy := by
  rw [Session.askedBy, Session.askedBy, h]

theorem sendAll_nil (transport : Transport σ) (state : σ) :
    transport.sendAll [] state = (.ok (), state) := by
  rw [Transport.sendAll]
  rfl

/-- A step on pending bytes ends the exchange and leaves them. -/
theorem feed_leavesAll {exchange : Exchange} (h : exchange.pending ≠ []) (target : Option String)
    (asked : Asked) :
    exchange.feed byteByByte leavesAll target asked =
      (.ok { exchange with status := .done, consumed := false }, asked) := by
  have stepped : leavesAll.handshakeStep target (some exchange.pending) asked =
      ({ status := .done, extra := some exchange.pending.length }, asked) := rfl
  have settled : exchange.settle { status := .done, extra := some exchange.pending.length } =
      { exchange with status := .done, consumed := false } := by
    simp [Exchange.settle, List.length_pos_iff.mpr h]
  rw [Exchange.feed, bind_of_eq stepped, bind_of_eq (sendAll_nil _ _), settled]
  rfl

theorem run_leavesAll {exchange next : Exchange} {asked after : Asked} {target : Option String}
    (h : exchange.advance byteByByte leavesAll target asked = (.ok next, after))
    (waits : exchange.isOpen = true) (done : next.status = .done) :
    Exchange.run byteByByte leavesAll target 2 exchange asked = some (.ok next, after) := by
  rw [run_ok waits h, run_over _ _ _ (by simp [Exchange.isOpen, done])]

/-- The provider is given what was carried over, or else one byte that is received for it. -/
theorem exchangeTokens_leavesAll (session : Session) :
    session.exchangeTokens byteByByte leavesAll 2 {} =
      some (.ok ⟨⟨0, 0, 0⟩, if session.carried = [] then [0] else session.carried⟩,
        { receives := if session.carried = [] then 1 else 0 }) := by
  have asked : leavesAll.handshakeStep session.context.hostname none {} =
      ({ status := .continueNeeded }, {}) := rfl
  rw [exchangeTokens, lift_bind_of_eq asked, lift_bind_of_eq (sendAll_nil _ _)]
  by_cases h : session.carried = []
  · let received : Exchange := { pending := [0], status := .continueNeeded, scratch := [0] }
    have advanced : Exchange.advance byteByByte leavesAll session.context.hostname
        { pending := session.carried, status := .continueNeeded } {} =
          (.ok { received with status := .done, consumed := false }, { receives := 1 }) := by
      rw [h, ← @feed_leavesAll received (List.cons_ne_nil _ _) session.context.hostname]
      rfl
    dsimp only
    rw [budgeted_bind_of_eq (run_leavesAll advanced rfl rfl), if_pos h, if_pos h]
    rfl
  · have advanced : Exchange.advance byteByByte leavesAll session.context.hostname
        { pending := session.carried, status := .continueNeeded } {} =
          (.ok { pending := session.carried, status := .done, consumed := false }, {}) := by
      rw [← @feed_leavesAll { pending := session.carried, status := .continueNeeded } h,
        Exchange.advance, if_neg (by simp [Exchange.needsInput, h])]
    dsimp only
    rw [budgeted_bind_of_eq (run_leavesAll advanced rfl rfl), if_neg h, if_neg h]
    rfl

def bound (session : Session) : Session :=
  { session with
    stage := .established, sizing := some ⟨0, 0, 0⟩
    carried := if session.carried = [] then [0] else session.carried }

theorem handshake_leavesAll (stage : session.stage = .notStarted) (credentials : session.credentials = true) :
    session.handshake byteByByte leavesAll 2 {} =
      some ((.ok (), session.bound), { receives := if session.carried = [] then 1 else 0 }) := by
  obtain ⟨context, _, _, sizing, carried, incomplete, held⟩ := session
  subst stage credentials
  rw [handshake]
  dsimp only
  rw [budgeted_bind_of_eq (exchangeTokens_leavesAll _)]
  rfl

/-- Held plaintext comes first; then what is carried is decrypted, after a receive if it is marked. -/
theorem recv_leavesAll (stage : session.stage = .established) (sized : session.sizing = some ⟨0, 0, 0⟩)
    (waiting : session.carried ≠ []) (asked : Asked) :
    (session.recv byteByByte leavesAll [0] asked).2 =
      if session.held ≠ [] then asked
      else if session.carriedIncomplete then
        { receives := asked.receives + 1, decrypted := some (session.carried ++ [0]) }
      else { asked with decrypted := some session.carried } := by
  obtain ⟨context, credentials, _, _, carried, incomplete, held⟩ := session
  subst stage sized
  cases carried with
  | nil => exact absurd rfl waiting
  | cons byte rest => cases held <;> cases incomplete <;> rfl

theorem askedBy_eq (stage : session.stage = .notStarted) (credentials : session.credentials = true) :
    session.askedBy = some (session.bound.recv byteByByte leavesAll [0]
      { receives := if session.carried = [] then 1 else 0 }).2 := by
  have answered : session.answer byteByByte leavesAll (.handshake 2) {} =
      some ((.shaken (.ok ()), session.bound), { receives := if session.carried = [] then 1 else 0 }) := by
    rw [answer, budgeted_bind_of_eq (handshake_leavesAll stage credentials)]
    rfl
  rw [askedBy, telltale, converse, budgeted_bind_of_eq answered]
  rfl

/-- Whatever waits in a session is told by that handshake and that receive. -/
theorem askedBy_eq_granted_iff (stage : session.stage = .notStarted)
    (credentials : session.credentials = true) (context : Context) :
    session.askedBy = (granted context).askedBy ↔
      session.carried = [] ∧ session.carriedIncomplete = false ∧ session.held = [] := by
  have waiting (session : Session) : session.bound.carried ≠ [] := by
    by_cases h : session.carried = [] <;> simp [bound, h]
  rw [askedBy_eq stage credentials, @askedBy_eq (granted context) rfl rfl,
    recv_leavesAll rfl rfl (waiting _), recv_leavesAll rfl rfl (waiting _)]
  obtain ⟨_, _, _, _, carried, incomplete, held⟩ := session
  cases held with
  | cons => simp [bound, granted]
  | nil => cases carried <;> cases incomplete <;> simp [bound, granted]

theorem alike_granted_iff (context : Context) (carried held : Bytes) (incomplete : Bool) :
    ({ granted context with carried, carriedIncomplete := incomplete, held } : Session).Alike
        (granted context) ↔
      carried = [] ∧ incomplete = false ∧ held = [] := by
  constructor
  · intro alike
    exact (askedBy_eq_granted_iff rfl rfl context).mp alike.askedBy
  · rintro ⟨rfl, rfl, rfl⟩
    exact fun _ _ _ _ => rfl

def connections : Transport (List Bytes) where
  send data := pure (.ok data.length)
  recv buffer := fun streams =>
    ((.ok (min (streams.headD []).length buffer.length), buffer.overlay (streams.headD [])),
      (streams.headD []).drop buffer.length :: streams.tail)
  close := fun streams => ((), streams.tail)

def twoConnections : Sides (Option Role) (List Bytes) :=
  { provider := none, stream := [[97, 98, 99, 100], [120, 121]] }

def handleAll (transport : Transport σ) (channel : SecureChannel σ) (session : Session)
    (requests : List Request) : Budgeted σ Session :=
  requests.foldlM (handle transport channel) session

theorem Lived.handleAll {requests : List Request} {next : Session} {state after : σ}
    (h : Lived transport channel session)
    (called : session.handleAll transport channel requests state = some (next, after)) :
    Lived transport channel next := by
  induction requests generalizing session state with
  | nil =>
    cases called
    exact h
  | cons request requests ih =>
    obtain ⟨⟨middle, between⟩, first, rest⟩ := Option.bind_eq_some_iff.mp called
    exact ih (h.handle request first) rest

def twoBytes : List Request := [.handshake 1, .recv [0, 0]]

/-- A closed session is what the provider's grant of credentials would make of its context, with what was
waiting when it was closed; it cannot be told from such a new session if and only if nothing was waiting. -/
theorem close_alike_create_iff (stage : session.stage = .established)
    (credentials : session.credentials = true) (state : σ) {τ : Type} {provider : SecureChannel τ}
    {start : τ} (grants : (provider.acquireCredentials session.context start).1 = .ok ()) :
    (session.close transport channel state).1 =
        { (create provider session.context start).1 with
          carried := session.carried, carriedIncomplete := session.carriedIncomplete,
          held := session.held } ∧
      ((session.close transport channel state).1.Alike (create provider session.context start).1 ↔
        session.carried = [] ∧ session.carriedIncomplete = false ∧ session.held = []) := by
  rw [create_eq_granted grants, close_eq stage credentials state]
  exact ⟨rfl, alike_granted_iff _ _ _ _⟩

/-- A session that holds two bytes of plaintext can be told from a new one once it is closed. -/
theorem close_alike_create_iff_held : ∃ session sides,
    Lived connections.beside Plaintext.channel.beside session ∧ session.stage = .established ∧
      session.credentials = true ∧
      (Plaintext.channel.beside.acquireCredentials session.context sides).1 = .ok () ∧
      ¬ (session.close connections.beside Plaintext.channel.beside sides).1.Alike
        (create Plaintext.channel.beside session.context sides).1 := by
  let created := create Plaintext.channel.beside (Context.client "host") twoConnections
  have ran : (created.1.handleAll connections.beside Plaintext.channel.beside twoBytes created.2).map
      (fun (session, _) => (session.stage, session.credentials, session.held)) =
        some (.established, true, [99, 100]) := by decide +kernel
  obtain ⟨⟨session, sides⟩, called, seen⟩ := Option.map_eq_some_iff.mp ran
  simp only [Prod.mk.injEq] at seen
  obtain ⟨stage, credentials, held⟩ := seen
  have grants : (Plaintext.channel.beside.acquireCredentials session.context sides).1 = .ok () := rfl
  have told := (@close_alike_create_iff _ connections.beside Plaintext.channel.beside _ stage credentials
    sides _ _ _ grants).2
  refine ⟨session, sides, (Lived.new _ twoConnections).handleAll called, stage, credentials, grants, ?_⟩
  rw [told, held]
  simp

def answers (session : Session) (sides : Sides (Option Role) (List Bytes)) : Option (List Answer) :=
  (session.converse connections.beside Plaintext.channel.beside twoBytes sides).map
    fun (views, _) => views.map (·.answer)

/-- A session that was closed with half of a record in hand gives it out on the next connection. -/
theorem closed_delivers_earlier : ∃ session sides,
    Lived connections.beside Plaintext.channel.beside session ∧ session.stage = .established ∧
      session.credentials = true ∧
      (session.close connections.beside Plaintext.channel.beside sides).1.answers
          (session.close connections.beside Plaintext.channel.beside sides).2 =
        some [.shaken (.ok ()), .received (.ok 2) [99, 100]] ∧
      (granted session.context).answers
          (session.close connections.beside Plaintext.channel.beside sides).2 =
        some [.shaken (.ok ()), .received (.ok 2) [120, 121]] := by
  let created := create Plaintext.channel.beside (Context.client "host") twoConnections
  have ran : (created.1.handleAll connections.beside Plaintext.channel.beside twoBytes created.2).map
      (fun (session, sides) =>
        let closed := session.close connections.beside Plaintext.channel.beside sides
        (session.stage, session.credentials, closed.1.answers closed.2,
          (granted session.context).answers closed.2)) =
      some (.established, true, some [.shaken (.ok ()), .received (.ok 2) [99, 100]],
        some [.shaken (.ok ()), .received (.ok 2) [120, 121]]) := by decide +kernel
  obtain ⟨⟨session, sides⟩, called, seen⟩ := Option.map_eq_some_iff.mp ran
  have lived : Lived connections.beside Plaintext.channel.beside session :=
    (Lived.new (Context.client "host") twoConnections).handleAll called
  simp only [Prod.mk.injEq] at seen
  exact ⟨session, sides, lived, seen.1, seen.2.1, seen.2.2.1, seen.2.2.2⟩

end NetReactor.Session
