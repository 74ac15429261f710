import Mathlib.Order.Defs.Unbundled
import NetReactor.Session.Handshake
import NetReactor.Session.Records
/-!
Secure sessions do nothing themselves: whatever relation between states the calls of the byte stream and of the
provider stay within, every call of a session stays within it too.
-/
namespace NetReactor

variable {σ α β : Type} {kind : σ → σ → Prop}

def Within (kind : σ → σ → Prop) (action : StateM σ α) : Prop :=
  ∀ state, kind state (action state).2

def RunsWithin (kind : σ → σ → Prop) (action : Budgeted σ α) : Prop :=
  ∀ state result after, action state = some (result, after) → kind state after

section
variable [IsPreorder σ kind]

namespace Within

theorem pure (a : α) : Within kind (pure a : StateM σ α) := fun state => refl_of kind state

theorem bind {action : StateM σ α} {next : α → StateM σ β} (h : Within kind action)
    (hn : ∀ a, Within kind (next a)) : Within kind (action >>= next) :=
  fun state => trans_of kind (h state) (hn _ _)

theorem get : Within kind (get : StateM σ σ) := fun state => refl_of kind state

end Within

/-- A computation that ends with `last`, before which it only moves between states that are related. -/
def EndsWith (kind : σ → σ → Prop) (action : StateM σ α) (last : StateM σ β) : Prop :=
  ∀ state, ∃ before, kind state before ∧ (action state).2 = (last before).2

namespace EndsWith

variable {last : StateM σ β}

theorem pure (result : β → α) : EndsWith kind (do return result (← last)) last :=
  fun state => ⟨state, refl_of kind state, rfl⟩

theorem bind {γ : Type} {action : StateM σ α} {next : α → StateM σ γ} (h : Within kind action)
    (hn : ∀ a, EndsWith kind (next a) last) : EndsWith kind (action >>= next) last := by
  intro state
  obtain ⟨before, related, same⟩ := hn (action state).1 (action state).2
  exact ⟨before, trans_of kind (h state) related, same⟩

end EndsWith

namespace RunsWithin

theorem pure (a : α) : RunsWithin kind (pure a : Budgeted σ α) := by
  intro state result after h
  cases h
  exact refl_of kind state

theorem bind {action : Budgeted σ α} {next : α → Budgeted σ β} (h : RunsWithin kind action)
    (hn : ∀ a, RunsWithin kind (next a)) : RunsWithin kind (action >>= next) := by
  intro state result after hr
  obtain ⟨⟨a, middle⟩, ha, hb⟩ := Option.bind_eq_some_iff.mp hr
  exact trans_of kind (h state a middle ha) (hn a middle result after hb)

omit [IsPreorder σ kind] in
theorem lift {action : StateM σ α} (h : Within kind action) :
    RunsWithin kind (liftM action : Budgeted σ α) := by
  intro state result after hr
  have last : (action state).2 = after := congrArg Prod.snd (Option.some.inj hr)
  exact last ▸ h state

omit [IsPreorder σ kind] in
theorem exhausted : RunsWithin kind (Budgeted.exhausted : Budgeted σ α) := nofun

end RunsWithin
end

structure Transport.StaysWithin (kind : σ → σ → Prop) (transport : Transport σ) : Prop where
  send : ∀ data, Within kind (transport.send data)
  recv : ∀ buffer, Within kind (transport.recv buffer)

structure SecureChannel.StaysWithin (kind : σ → σ → Prop) (channel : SecureChannel σ) : Prop where
  acquireCredentials : ∀ context, Within kind (channel.acquireCredentials context)
  handshakeStep : ∀ target input, Within kind (channel.handshakeStep target input)
  streamSizes : Within kind channel.streamSizes
  encrypt : ∀ record, Within kind (channel.encrypt record)
  decrypt : ∀ message, Within kind (channel.decrypt message)
  shutdownToken : Within kind channel.shutdownToken

section
variable [IsPreorder σ kind] {transport : Transport σ} {channel : SecureChannel σ}

theorem Transport.StaysWithin.sendAll (h : transport.StaysWithin kind) (data : Bytes) :
    Within kind (transport.sendAll data) := by
  fun_induction Transport.sendAll transport data with
  | case1 => exact .pure _
  | case2 byte rest ih =>
    refine .bind (h.send _) fun result => ?_
    cases result with
    | error failure => exact .pure _
    | ok sent =>
      cases sent with
      | zero => exact .pure _
      | succ sent => exact ih sent

theorem within_create (hc : channel.StaysWithin kind) (context : Context) :
    Within kind (Session.create channel context) := by
  refine .bind (hc.acquireCredentials context) fun result => ?_
  cases result <;> exact .pure _

section
variable (ht : transport.StaysWithin kind) (hc : channel.StaysWithin kind)
include ht hc

theorem within_send (session : Session) (data : Bytes) :
    Within kind (session.send transport channel data) := by
  unfold Session.send
  split
  · exact .pure _
  · split
    · exact .pure _
    · refine .bind (hc.encrypt _) fun result => ?_
      obtain ⟨used, record⟩ := result
      cases used with
      | error failure => exact .pure _
      | ok used =>
        refine .bind (ht.sendAll _) fun sent => ?_
        cases sent <;> exact .pure _

omit ht in
theorem within_decryptCarried (session : Session) (buffer : Bytes) :
    Within kind (session.decryptCarried channel buffer) := by
  refine .bind (hc.decrypt _) fun answer => ?_
  dsimp only
  split <;> exact .pure _

theorem within_receiveMore (session : Session) (buffer : Bytes) :
    Within kind (session.receiveMore transport channel buffer) := by
  refine .bind (ht.recv _) fun answer => ?_
  split
  · exact .pure _
  · exact .pure _
  · refine .bind (within_decryptCarried hc _ _) fun attempt => ?_
    cases attempt <;> exact .pure _

theorem within_recv (session : Session) (buffer : Bytes) :
    Within kind (session.recv transport channel buffer) := by
  unfold Session.recv
  split
  · exact .pure _
  · split
    · exact .pure _
    · split
      · exact .pure _
      · split
        · exact within_receiveMore ht hc _ _
        · refine .bind (within_decryptCarried hc _ _) fun attempt => ?_
          cases attempt with
          | ended received => exact .pure _
          | incomplete session => exact within_receiveMore ht hc _ _

/-- Closing a session ends with closing its transport. -/
theorem close_within (session : Session) :
    EndsWith kind (session.close transport channel) transport.close := by
  unfold Session.close
  split
  · refine .bind hc.shutdownToken fun token => ?_
    cases token with
    | ok token => exact .bind (ht.sendAll token) fun _ => .pure _
    | error failure => exact .pure _
  · exact .pure _

theorem within_feed (target : Option String) (exchange : Exchange) :
    Within kind (exchange.feed transport channel target) := by
  refine .bind (hc.handshakeStep _ _) fun step => .bind (ht.sendAll _) fun sent => ?_
  cases sent <;> exact .pure _

theorem within_advance (target : Option String) (exchange : Exchange) :
    Within kind (exchange.advance transport channel target) := by
  unfold Exchange.advance
  split
  · refine .bind ?_ fun received => ?_
    · refine .bind (ht.recv _) fun answer => ?_
      split <;> exact .pure _
    · cases received with
      | error failure => exact .pure _
      | ok exchange => exact within_feed ht hc target exchange
  · exact within_feed ht hc target exchange

theorem runsWithin_exchange (target : Option String) (budget : Nat) (exchange : Exchange) :
    RunsWithin kind (Exchange.run transport channel target budget exchange) := by
  induction budget generalizing exchange with
  | zero => exact .exhausted
  | succ budget ih =>
    unfold Exchange.run
    split
    · refine .bind (.lift (within_advance ht hc target exchange)) fun result => ?_
      cases result with
      | error failure => exact .pure _
      | ok exchange => exact ih exchange
    · exact .pure _

theorem runsWithin_exchangeTokens (budget : Nat) (session : Session) :
    RunsWithin kind (session.exchangeTokens transport channel budget) := by
  refine .bind (.lift (hc.handshakeStep _ _)) fun step => .bind (.lift (ht.sendAll _)) fun sent => ?_
  cases sent with
  | error failure => exact .pure _
  | ok done =>
    refine .bind (runsWithin_exchange ht hc _ _ _) fun result => ?_
    cases result with
    | error failure => exact .pure _
    | ok exchange =>
      refine .lift ?_
      unfold Session.conclude
      split
      · refine .bind hc.streamSizes fun sizes => ?_
        cases sizes <;> exact .pure _
      · exact .pure _

theorem runsWithin_handshake (budget : Nat) (session : Session) :
    RunsWithin kind (session.handshake transport channel budget) := by
  unfold Session.handshake
  split
  · refine .bind (runsWithin_exchangeTokens ht hc _ _) fun result => ?_
    cases result <;> exact .pure _
  · exact .pure _
  · exact .pure _

end
end
end NetReactor
