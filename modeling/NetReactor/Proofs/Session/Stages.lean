import Mathlib.Logic.Relation
import NetReactor.Proofs.Session.Framed
import NetReactor.Proofs.Session.Sides
/-!
The stages of a session over all the calls that can be made on it. Nothing is assumed about the provider and
the stream, nor about what becomes of them between two calls.
-/
namespace NetReactor.Session

variable {σ α β : Type} {transport : Transport σ} {channel : SecureChannel σ}
variable {session next : Session} {state after : σ}

inductive Request where
  | handshake (budget : Nat)
  | send (data : Bytes)
  | recv (buffer : Bytes)
  | close

def handle (transport : Transport σ) (channel : SecureChannel σ) (session : Session) :
    Request → Budgeted σ Session
  | .handshake budget => do return (← session.handshake transport channel budget).2
  | .send data => do
    let _ ← session.send transport channel data
    return session
  | .recv buffer => do return (← session.recv transport channel buffer).session
  | .close => session.close transport channel

inductive Lived (transport : Transport σ) (channel : SecureChannel σ) : Session → Prop
  | new (context : Context) (state : σ) : Lived transport channel (create channel context state).1
  | handle {session next : Session} {state after : σ} (h : Lived transport channel session)
    (request : Request) (called : session.handle transport channel request state = some (next, after)) :
    Lived transport channel next

inductive Request.Moves : Request → Stage → Stage → Prop
  | stay {request : Request} {stage : Stage} : Moves request stage stage
  | establish {budget : Nat} : Moves (.handshake budget) .notStarted .established
  | fail {budget : Nat} : Moves (.handshake budget) .notStarted .failed
  | leave : Moves .close .established .notStarted

structure Settled (session : Session) : Prop where
  idle : session.stage ≠ .exchanging
  sized : session.sizing.isSome ↔ session.stage = .established

/-- Why a session that is not established refuses to send and to receive. -/
def refusal (session : Session) : Error :=
  if session.stage = .notStarted ∧ session.credentials = true then .notConnected else .handshakeFailed

structure SameStage (one other : Session) : Prop where
  stage : one.stage = other.stage
  sizing : one.sizing = other.sizing

theorem SameStage.settled (same : SameStage next session) (h : session.Settled) : next.Settled where
  idle := by rw [same.stage]; exact h.idle
  sized := by rw [same.stage, same.sizing]; exact h.sized

theorem SameStage.trans {third : Session} (same : SameStage next session) (same' : SameStage session third) :
    SameStage next third :=
  ⟨same.stage.trans same'.stage, same.sizing.trans same'.sizing⟩

theorem establishedSizing_ok {sizing : RecordSizing} (h : session.establishedSizing = .ok sizing) :
    session.stage = .established ∧ session.sizing = some sizing := by
  obtain ⟨context, credentials, stage, known, carried, incomplete, held⟩ := session
  cases stage <;> cases known <;> simp_all [establishedSizing]

theorem SameStage.establishedSizing_ok {sizing : RecordSizing} (same : SameStage next session)
    (h : session.establishedSizing = .ok sizing) : next.establishedSizing = .ok sizing := by
  obtain ⟨stage, sized⟩ := Session.establishedSizing_ok h
  rw [establishedSizing, same.stage, same.sizing, stage, sized]

def Yields (action : StateM σ α) (property : α → Prop) : Prop := ∀ state, property (action state).1

namespace Yields

theorem pure {property : α → Prop} {a : α} (h : property a) :
    Yields (pure a : StateM σ α) property := fun _ => h

theorem bind {action : StateM σ α} {rest : α → StateM σ β} {first : α → Prop} {last : β → Prop}
    (h : Yields action first) (hr : ∀ a, first a → Yields (rest a) last) :
    Yields (action >>= rest) last :=
  fun state => hr (action state).1 (h state) (action state).2

theorem any (action : StateM σ α) : Yields action fun _ => True := fun _ => trivial

end Yields

theorem establishedSizing_eq_refusal (settled : session.Settled) (h : session.stage ≠ .established) :
    session.establishedSizing = .error session.refusal := by
  obtain ⟨context, credentials, stage, sizing, carried, incomplete, held⟩ := session
  cases stage with
  | notStarted => cases credentials <;> rfl
  | exchanging => exact absurd rfl settled.idle
  | established => exact absurd rfl h
  | failed => rfl

theorem send_refused (settled : session.Settled) (h : session.stage ≠ .established) (data : Bytes) :
    session.send transport channel data = pure (.error session.refusal) := by
  rw [send, establishedSizing_eq_refusal settled h]

theorem recv_refused (settled : session.Settled) (h : session.stage ≠ .established) (buffer : Bytes) :
    session.recv transport channel buffer =
      pure { result := .error session.refusal, buffer, session } := by
  rw [recv, establishedSizing_eq_refusal settled h]

theorem sameStage_accept (session : Session) (decrypted : Decrypted) (message buffer : Bytes) :
    SameStage (session.accept decrypted message buffer).session session := by
  unfold accept
  dsimp only
  split <;> exact ⟨rfl, rfl⟩

def Attempt.left : Attempt → Session
  | .ended received => received.session
  | .incomplete session => session

theorem sameStage_decryptCarried (session : Session) (buffer : Bytes) :
    Yields (session.decryptCarried channel buffer) fun attempt => SameStage attempt.left session := by
  refine .bind (.any _) fun (decrypted, left) _ => ?_
  dsimp only
  split
  · have taken := sameStage_accept { session with carried := [] } decrypted
      (session.carried.overlay left) buffer
    exact .pure ⟨taken.stage, taken.sizing⟩
  · exact .pure ⟨rfl, rfl⟩
  · exact .pure ⟨rfl, rfl⟩

theorem sameStage_receiveMore (session : Session) (buffer : Bytes) :
    Yields (session.receiveMore transport channel buffer) fun received =>
      SameStage received.session session := by
  refine .bind (.any _) fun answer _ => ?_
  split
  · exact .pure ⟨rfl, rfl⟩
  · exact .pure ⟨rfl, rfl⟩
  · refine .bind (sameStage_decryptCarried _ buffer) fun attempt same => ?_
    cases attempt <;> exact .pure ⟨same.stage, same.sizing⟩

/-- Receiving leaves the stage and the record sizes alone. -/
theorem sameStage_recv (session : Session) (buffer : Bytes) :
    Yields (session.recv transport channel buffer) fun received =>
      SameStage received.session session := by
  unfold recv
  split
  · exact .pure ⟨rfl, rfl⟩
  · split
    · exact .pure ⟨rfl, rfl⟩
    · split
      · exact .pure ⟨rfl, rfl⟩
      · split
        · exact sameStage_receiveMore session buffer
        · refine .bind (sameStage_decryptCarried session buffer) fun attempt same => ?_
          cases attempt with
          | ended received => exact .pure same
          | incomplete left =>
            intro state
            have later : SameStage (left.receiveMore transport channel buffer state).1.session left :=
              sameStage_receiveMore left buffer state
            exact later.trans same

/-- A handshake either starts, or nothing is done for it. -/
theorem started_or_idle (session : Session) :
    (session.stage = .notStarted ∧ session.credentials = true) ∨
      (session.stage ≠ .notStarted ∨ session.credentials = false) := by
  cases session.credentials <;> simp [Classical.em]

theorem handshake_idle (h : session.stage ≠ .notStarted ∨ session.credentials = false) (budget : Nat) :
    session.handshake transport channel budget =
      pure (.error (if session.stage = .established then .alreadyConnected else .handshakeFailed),
        session) := by
  obtain ⟨context, credentials, stage, sizing, carried, incomplete, held⟩ := session
  cases stage with
  | notStarted =>
    obtain h | rfl := h
    · exact absurd rfl h
    · rfl
  | _ => rfl

/-- A handshake that is run ends established, with record sizes, or failed. -/
theorem handshake_started {budget : Nat} {result : Outcome Unit} (stage : session.stage = .notStarted)
    (credentials : session.credentials = true)
    (h : session.handshake transport channel budget state = some ((result, next), after)) :
    (result = .ok () ∧ next.stage = .established ∧ next.sizing.isSome) ∨
      (result = .error .handshakeFailed ∧ next.stage = .failed ∧ next.sizing = session.sizing) := by
  rw [handshake, stage, credentials] at h
  obtain ⟨⟨answer, middle⟩, exchanged, h⟩ := Option.bind_eq_some_iff.mp h
  cases answer with
  | ok agreement =>
    cases h
    exact .inl ⟨rfl, rfl, rfl⟩
  | error failure =>
    cases h
    exact .inr ⟨rfl, rfl, rfl⟩

theorem close_established (h : session.stage = .established) : Yields (session.close transport channel)
    fun next => next.stage = .notStarted ∧ next.sizing = none := by
  have established : session.isEstablished = true := by simp [isEstablished, h]
  rw [close, established]
  refine .bind (.any _) fun token _ => ?_
  cases token with
  | error failure => exact .bind (.any _) fun _ _ => .pure ⟨rfl, rfl⟩
  | ok token => exact .bind (.any _) fun _ _ => .bind (.any _) fun _ _ => .pure ⟨rfl, rfl⟩

theorem close_unestablished (h : session.stage ≠ .established) :
    Yields (session.close transport channel) fun next => next = session := by
  have unestablished : session.isEstablished = false := by simp [isEstablished, h]
  rw [close, unestablished]
  exact .bind (.any _) fun _ _ => .pure rfl

/-- What one call does to a settled session. -/
theorem Settled.handle (h : session.Settled) {request : Request}
    (called : session.handle transport channel request state = some (next, after)) :
    next.Settled ∧ request.Moves session.stage next.stage := by
  cases request with
  | handshake budget =>
    obtain ⟨⟨⟨result, last⟩, middle⟩, shaken, called⟩ := Option.bind_eq_some_iff.mp called
    cases called
    obtain ⟨stage, credentials⟩ | idle := session.started_or_idle
    · obtain ⟨-, ends, sizes⟩ | ⟨-, ends, sizes⟩ := handshake_started stage credentials shaken
      · rw [stage, ends]
        exact ⟨⟨by simp [ends], iff_of_true sizes ends⟩, .establish⟩
      · have unsized : ¬ last.sizing.isSome = true := by
          rw [sizes, h.sized, stage]
          nofun
        rw [stage, ends]
        exact ⟨⟨by simp [ends], iff_of_false unsized (by simp [ends])⟩, .fail⟩
    · rw [handshake_idle idle] at shaken
      cases shaken
      exact ⟨h, .stay⟩
  | send data =>
    cases called
    exact ⟨h, .stay⟩
  | recv buffer =>
    have same : SameStage (session.recv transport channel buffer state).1.session session :=
      sameStage_recv session buffer state
    cases called
    exact ⟨same.settled h, same.stage ▸ .stay⟩
  | close =>
    have closed : (session.close transport channel state).1 = next :=
      congrArg Prod.fst (Option.some.inj called)
    by_cases established : session.stage = .established
    · have left : (session.close transport channel state).1.stage = .notStarted ∧
          (session.close transport channel state).1.sizing = none := close_established established state
      rw [closed] at left
      refine ⟨⟨by simp [left.1], by simp [left.1, left.2]⟩, ?_⟩
      rw [established, left.1]
      exact .leave
    · have same : (session.close transport channel state).1 = session :=
        close_unestablished established state
      rw [closed] at same
      rw [same]
      exact ⟨h, .stay⟩

theorem settled_create (channel : SecureChannel σ) (context : Context) :
    Yields (create channel context) Settled := by
  refine .bind (.any _) fun answer _ => ?_
  cases answer <;> exact .pure ⟨nofun, by simp⟩

theorem Lived.settled (h : Lived transport channel session) : session.Settled := by
  induction h with
  | new context state => exact settled_create channel context state
  | handle _ request called ih => exact (ih.handle called).1

def Later (transport : Transport σ) (channel : SecureChannel σ) : Session → Session → Prop :=
  Relation.ReflTransGen fun session next =>
    ∃ request state after, session.handle transport channel request state = some (next, after)

theorem Request.Moves.failed {request : Request} {stage : Stage}
    (h : request.Moves .failed stage) : stage = .failed := by
  cases h
  rfl

theorem Later.lived (h : Later transport channel session next) (lived : Lived transport channel session) :
    Lived transport channel next := by
  induction h with
  | refl => exact lived
  | tail _ called ih =>
    obtain ⟨request, state, after, called⟩ := called
    exact .handle ih request called

theorem Later.failed (h : Later transport channel session next) (lived : Lived transport channel session)
    (stage : session.stage = .failed) : next.stage = .failed := by
  induction h with
  | refl => exact stage
  | tail earlier called ih =>
    obtain ⟨request, state, after, called⟩ := called
    have moves := ((Later.lived earlier lived).settled.handle called).2
    rw [ih] at moves
    exact moves.failed

structure KeepsStages (transport : Transport σ) (channel : SecureChannel σ) (session : Session) :
    Prop where
  settled : session.Settled
  moves : ∀ request state next after,
    session.handle transport channel request state = some (next, after) →
      request.Moves session.stage next.stage
  -- A session that failed stays so, and asks neither the provider nor the stream for anything.
  failed : session.stage = .failed → ∀ next, Later transport channel session next →
    next.stage = .failed ∧ ∀ budget,
      next.handshake transport channel budget = pure (.error .handshakeFailed, next)
  established : session.stage = .established → ∀ budget,
    session.handshake transport channel budget = pure (.error .alreadyConnected, session)
  started : session.stage = .notStarted → session.credentials = true →
    ∀ budget state result next after,
      session.handshake transport channel budget state = some ((result, next), after) →
        (result = .ok () ∧ next.stage = .established) ∨
          (result = .error .handshakeFailed ∧ next.stage = .failed)
  closed : session.stage = .established → ∀ state,
    (session.close transport channel state).1.stage = .notStarted
  -- Neither the provider nor the stream is asked for anything.
  gates : session.stage ≠ .established → ∀ data buffer,
    session.send transport channel data = pure (.error session.refusal) ∧
      session.recv transport channel buffer =
        pure { result := .error session.refusal, buffer, session }

/-- Every session goes from stage to stage in the same few ways, and is settled between its calls. -/
theorem lived_keepsStages (h : Lived transport channel session) :
    KeepsStages transport channel session where
  settled := h.settled
  moves _ _ _ _ called := (h.settled.handle called).2
  failed stage next later := by
    have same := later.failed h stage
    refine ⟨same, fun budget => ?_⟩
    rw [handshake_idle (.inl (by simp [same])), same, if_neg nofun]
  established stage budget := by
    rw [handshake_idle (.inl (by simp [stage])), stage, if_pos rfl]
  started stage credentials _ _ _ _ _ shaken :=
    (handshake_started stage credentials shaken).imp (fun ends => ⟨ends.1, ends.2.1⟩)
      fun ends => ⟨ends.1, ends.2.1⟩
  closed stage state := (close_established stage state).1
  gates unestablished data buffer :=
    ⟨send_refused h.settled unestablished data, recv_refused h.settled unestablished buffer⟩

def oneMessage : Sides Nat Pieces :=
  { provider := 0, stream := { unread := frame [7], cuts := [], room := 3 } }

/-- The session of a peer that goes in the middle of the handshake has failed. -/
theorem lived_keepsStages_peerGone :
    ∃ session, Lived pieces.beside framed.beside session ∧ session.stage = .failed ∧
      KeepsStages pieces.beside framed.beside session := by
  let fresh := (create framed.beside (Context.client "host") oneMessage).1
  have ran : (fresh.handle pieces.beside framed.beside (.handshake 4) oneMessage).map (·.1.stage) =
      some .failed := by decide +kernel
  obtain ⟨⟨session, after⟩, called, stage⟩ := Option.map_eq_some_iff.mp ran
  have lived : Lived pieces.beside framed.beside session :=
    .handle (.new (Context.client "host") oneMessage) (.handshake 4) called
  exact ⟨session, lived, stage, lived_keepsStages lived⟩

end NetReactor.Session
