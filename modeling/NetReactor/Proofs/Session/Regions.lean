import NetReactor.Proofs.Session.Receipts
/-!
Regions that a provider reports outside of the message. Plaintext that is not there is a failure to receive; extra
bytes that are not there are none.
-/
namespace NetReactor

variable {σ : Type} {transport : Transport σ} {channel : SecureChannel σ} {session : Session}

def Decrypted.Misplaced (answer : Decrypted) (message : Bytes) : Prop :=
  answer.status = .done ∧ ∃ region, answer.payload? = some region ∧ region.bytes? message = none

theorem Session.Tries.misplaced {buffer left : Bytes} {answer : Decrypted} {received : Received}
    (h : session.Tries buffer answer left (.ended received))
    (misplaced : answer.Misplaced (session.carried.overlay left)) : received.result = .error .receiveFailed := by
  obtain ⟨done, region, payload, outside⟩ := misplaced
  cases h with
  | opened =>
    rw [accept, payload]
    dsimp only [Option.bind_some]
    rw [outside]
  | refused closed => exact absurd done closed

theorem Session.Reads.misplaced {buffer message left : Bytes} {answer : Decrypted} {received : Received}
    {deeds : List Deed} (h : session.Reads buffer deeds received) (mem : .decrypted message answer left ∈ deeds)
    (misplaced : answer.Misplaced (message.overlay left)) : received.result = .error .receiveFailed := by
  cases h with
  | failed => simp at mem
  | closed => simp at mem
  | tried _ tries =>
    simp only [List.mem_cons, List.not_mem_nil, or_false, reduceCtorEq, false_or] at mem
    cases mem
    exact tries.misplaced misplaced
  | short _ tries =>
    simp only [List.mem_cons, List.not_mem_nil, or_false, reduceCtorEq, false_or] at mem
    cases mem
    cases tries with
    | incomplete short => cases misplaced.1.symm.trans short

theorem Receipt.Goes.misplaced {receipt : Receipt} {message left : Bytes} {answer : Decrypted} (h : receipt.Goes)
    (mem : .decrypted message answer left ∈ receipt.deeds) (misplaced : answer.Misplaced (message.overlay left)) :
    receipt.received.result = .error .receiveFailed := by
  cases h with
  | refused => cases mem
  | empty => cases mem
  | held => cases mem
  | read _ _ _ reads => exact reads.misplaced mem misplaced
  | tried _ _ _ _ tries =>
    cases List.mem_singleton.mp mem
    exact tries.misplaced misplaced
  | readAfter _ _ _ _ tries reads =>
    cases List.mem_cons.mp mem with
    | inl same =>
      cases same
      cases tries with
      | incomplete short => cases misplaced.1.symm.trans short
    | inr later => exact reads.misplaced later misplaced

/-- Without extra regions, if the first of them is not in the message. -/
def Decrypted.curtail (answer : Decrypted) (message : Bytes) : Decrypted :=
  if (answer.region? .extra).bind (·.bytes? message) = none then
    { answer with regions := answer.regions.filter (·.kind != .extra) }
  else answer

def SecureChannel.curtailed (channel : SecureChannel σ) : SecureChannel σ :=
  { channel with
    decrypt := fun message => do
      let (answer, left) ← channel.decrypt message
      return (answer.curtail (message.overlay left), left) }

theorem Decrypted.status_curtail (answer : Decrypted) (message : Bytes) :
    (answer.curtail message).status = answer.status := by
  rw [curtail]
  split <;> rfl

theorem Decrypted.payload?_curtail (answer : Decrypted) (message : Bytes) :
    (answer.curtail message).payload? = answer.payload? := by
  rw [curtail]
  split
  · simp only [payload?, List.find?_filter]
    congr 1
    funext region
    cases region.kind <;> simp
  · rfl

theorem Decrypted.extra_curtail (answer : Decrypted) (message : Bytes) :
    ((answer.curtail message).region? .extra).bind (·.bytes? message) =
      (answer.region? .extra).bind (·.bytes? message) := by
  rw [curtail]
  split
  · next outside =>
    have none : region? { answer with regions := answer.regions.filter (·.kind != .extra) } .extra = none := by
      refine List.find?_eq_none.mpr fun region mem => ?_
      have other := (List.mem_filter.mp mem).2
      simpa using other
    rw [outside, none]
    rfl
  · rfl

theorem accept_curtail (session : Session) (answer : Decrypted) (message buffer : Bytes) :
    session.accept (answer.curtail message) message buffer = session.accept answer message buffer := by
  rw [Session.accept, Session.accept, answer.extra_curtail, answer.payload?_curtail]

theorem decryptCarried_curtailed (session : Session) (buffer : Bytes) :
    session.decryptCarried channel.curtailed buffer = session.decryptCarried channel buffer := by
  funext state
  rcases asked : channel.decrypt session.carried state with ⟨⟨answer, left⟩, after⟩
  have curtailed : channel.curtailed.decrypt session.carried state =
      ((answer.curtail (session.carried.overlay left), left), after) := by
    rw [SecureChannel.curtailed]
    exact bind_of_eq asked
  rw [Session.decryptCarried, Session.decryptCarried, bind_of_eq curtailed, bind_of_eq asked]
  dsimp only
  rw [answer.status_curtail]
  cases answer.status with
  | done =>
    dsimp only
    rw [accept_curtail]
  | _ => rfl

theorem receiveMore_curtailed (session : Session) (buffer : Bytes) :
    session.receiveMore transport channel.curtailed buffer = session.receiveMore transport channel buffer := by
  simp only [Session.receiveMore, decryptCarried_curtailed]

theorem recv_curtailed (session : Session) (buffer : Bytes) :
    session.recv transport channel.curtailed buffer = session.recv transport channel buffer := by
  simp only [Session.recv, decryptCarried_curtailed, receiveMore_curtailed]

end NetReactor
