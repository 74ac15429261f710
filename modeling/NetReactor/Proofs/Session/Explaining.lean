import NetReactor.Proofs.Session.Stages
import NetReactor.Proofs.Socket.Reporting
/-!
Secure sessions report failures of their own, or those of the byte stream under them as they are. Over a stream that
explains its failures a session explains them too, whatever the provider answers.
-/
namespace NetReactor

variable {σ α β : Type}

def RunYields (action : Budgeted σ α) (property : α → Prop) : Prop :=
  ∀ state result after, action state = some (result, after) → property result

namespace RunYields

variable {property first : α → Prop} {last : β → Prop}

theorem pure {a : α} (h : property a) : RunYields (pure a : Budgeted σ α) property := by
  intro state result after ran
  cases ran
  exact h

theorem bind {action : Budgeted σ α} {next : α → Budgeted σ β} (h : RunYields action first)
    (hn : ∀ a, first a → RunYields (next a) last) : RunYields (action >>= next) last := by
  intro state result after ran
  obtain ⟨⟨a, middle⟩, ha, hb⟩ := Option.bind_eq_some_iff.mp ran
  exact hn a (h state a middle ha) middle result after hb

theorem lift {action : StateM σ α} (h : Session.Yields action property) :
    RunYields (liftM action : Budgeted σ α) property := by
  intro state result after ran
  have same : (action state).1 = result := congrArg Prod.fst (Option.some.inj ran)
  exact same ▸ h state

theorem any (action : Budgeted σ α) : RunYields action fun _ => True := fun _ _ _ _ => trivial

end RunYields

structure Transport.Explains (transport : Transport σ) : Prop where
  send : ∀ data, Session.Yields (transport.send data) Explained
  recv : ∀ buffer, Session.Yields (transport.recv buffer) fun answer => Explained answer.1

namespace Session

variable {transport : Transport σ} {channel : SecureChannel σ} {session : Session}

theorem explained_establishedSizing {failure : Error} (failed : session.establishedSizing = .error failure) :
    failure ≠ .unknown := by
  obtain ⟨context, credentials, stage, sizing, carried, incomplete, held⟩ := session
  rintro rfl
  cases stage <;> cases sizing <;> cases credentials <;> cases failed

theorem explained_sendAll (explains : transport.Explains) (data : Bytes) :
    Yields (transport.sendAll data) Explained := by
  fun_induction Transport.sendAll transport data with
  | case1 => exact .pure (.ok ())
  | case2 byte rest ih =>
    refine .bind (explains.send _) fun result explained => ?_
    cases result with
    | error failure => exact .pure (.error (explained.failure rfl))
    | ok sent =>
      cases sent with
      | zero => exact .pure (.error (by decide))
      | succ sent => exact ih sent

theorem explained_send (explains : transport.Explains) (session : Session) (data : Bytes) :
    Yields (session.send transport channel data) Explained := by
  unfold Session.send
  split
  · next refused => exact .pure (.error (explained_establishedSizing refused))
  · split
    · exact .pure (.error (by decide))
    · refine .bind (.any _) fun result _ => ?_
      obtain ⟨used, record⟩ := result
      cases used with
      | error failure => exact .pure (.error (by decide))
      | ok used =>
        refine .bind (explained_sendAll explains _) fun sent explained => ?_
        cases sent with
        | error failure => exact .pure (.error (explained.failure rfl))
        | ok done => exact .pure (.ok _)

theorem explained_accept (session : Session) (decrypted : Decrypted) (message buffer : Bytes) :
    Explained (session.accept decrypted message buffer).result := by
  unfold accept
  dsimp only
  split
  · exact .ok _
  · exact .error (by decide)

def Attempt.IsExplained : Attempt → Prop
  | .ended received => Explained received.result
  | .incomplete _ => True

theorem explained_decryptCarried (session : Session) (buffer : Bytes) :
    Yields (session.decryptCarried channel buffer) Attempt.IsExplained := by
  refine .bind (.any _) fun (decrypted, left) _ => ?_
  dsimp only
  split
  · exact .pure (explained_accept _ _ _ _)
  · exact .pure trivial
  · exact .pure (.error (by decide))

theorem explained_receiveMore (explains : transport.Explains) (session : Session) (buffer : Bytes) :
    Yields (session.receiveMore transport channel buffer) fun received => Explained received.result := by
  refine .bind (explains.recv _) fun answer explained => ?_
  split
  · exact .pure (.error (explained.failure rfl))
  · exact .pure (.ok 0)
  · refine .bind (explained_decryptCarried _ buffer) fun attempt explained => ?_
    cases attempt with
    | ended received => exact .pure explained
    | incomplete session => exact .pure (.error (by decide))

theorem explained_recv (explains : transport.Explains) (session : Session) (buffer : Bytes) :
    Yields (session.recv transport channel buffer) fun received => Explained received.result := by
  unfold Session.recv
  split
  · next refused => exact .pure (.error (explained_establishedSizing refused))
  · split
    · exact .pure (.ok 0)
    · split
      · exact .pure (.ok _)
      · split
        · exact explained_receiveMore explains _ _
        · refine .bind (explained_decryptCarried _ buffer) fun attempt explained => ?_
          cases attempt with
          | ended received => exact .pure explained
          | incomplete session => exact explained_receiveMore explains _ _

/-- Why a handshake failed is not told, so nothing need be known of the stream. -/
theorem explained_handshake (budget : Nat) (session : Session) :
    RunYields (session.handshake transport channel budget) fun answer => Explained answer.1 := by
  unfold Session.handshake
  split
  · refine .bind (.any _) fun result _ => ?_
    cases result with
    | error failure => exact .pure (.error (by decide))
    | ok agreement => exact .pure (.ok ())
  · exact .pure (.error (by decide))
  · exact .pure (.error (by decide))

end Session
end NetReactor
