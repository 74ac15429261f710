import NetReactor.Proofs.Session.Closing
import NetReactor.Proofs.Session.Receipts
import NetReactor.Proofs.Stretch
/-!
Receiving keeps account of every byte, whatever the provider answers. The plaintext that is given, with what is
held, is what the decrypt calls opened; what they are given is what was left to be decrypted and what has
arrived since.
-/
namespace NetReactor

variable {σ : Type} {transport : Transport σ} {channel : SecureChannel σ}
variable {session middle after : Session} {buffer left given more start : Bytes} {deed : Deed}
variable {deeds early late : List Deed} {answer : Decrypted} {received : Session.Received} {receipt : Receipt}
variable {receipts : List Receipt}

/-- The plaintext that a decrypt call opened: its first region of data that is not empty, if that lies inside
the message, as the provider left it. -/
def Deed.opened : Deed → Bytes
  | .decrypted message answer left =>
    if answer.status = .done then (answer.payload?.bind (·.bytes? (message.overlay left))).getD [] else []
  | _ => []

def Deed.pending (waiting : Bytes) : Deed → Bytes
  | .received _ (.ok count) left => waiting ++ left.take count
  | .decrypted message answer left =>
    match answer.status with
    | .done => ((answer.region? .extra).bind (·.bytes? (message.overlay left))).getD []
    | .incompleteMessage => message.overlay left
    | _ => []
  | _ => waiting

/-- The bytes to be decrypted next, when these were at the start. -/
def waiting (start : Bytes) (deeds : List Deed) : Bytes := deeds.foldl Deed.pending start

@[simp] theorem waiting_append : waiting start (early ++ late) = waiting (waiting start early) late :=
  List.foldl_append

structure Conserves (before : Session) (deeds : List Deed) (given : Bytes) (after : Session) : Prop where
  given : given ++ after.held = before.held ++ deeds.flatMap Deed.opened
  asked : ∀ early message answer left late, deeds = early ++ .decrypted message answer left :: late →
    message = waiting before.carried early
  carried : after.carried = waiting before.carried deeds

namespace Conserves

theorem nothing (h : given ++ after.held = session.held) (same : after.carried = session.carried) :
    Conserves session [] given after where
  given := by rw [h, List.flatMap_nil, List.append_nil]
  asked early _ _ _ _ split := by simp at split
  carried := same

theorem append (h : Conserves session early given middle) (h' : Conserves middle late more after) :
    Conserves session (early ++ late) (given ++ more) after where
  given := by rw [List.append_assoc, h'.given, ← List.append_assoc, h.given, List.flatMap_append,
    List.append_assoc]
  asked first message answer left rest split := by
    obtain ⟨between, inside, -⟩ | ⟨between, inside, rfl⟩ := split_append split
    · exact h.asked _ _ _ _ _ inside
    · rw [waiting_append, ← h.carried]
      exact h'.asked _ _ _ _ _ inside
  carried := by rw [waiting_append, ← h.carried, h'.carried]

/-- A decrypt call is given the carried bytes; the rest is up to its answer. -/
theorem decrypted (h : given ++ after.held = session.held ++ (Deed.decrypted session.carried answer left).opened)
    (carried : after.carried = (Deed.decrypted session.carried answer left).pending session.carried) :
    Conserves session [.decrypted session.carried answer left] given after where
  given := by rw [h, List.flatMap_singleton]
  asked early message answer left late split := by
    obtain ⟨rfl, same, -⟩ := split_singleton split
    injection same
  carried := carried

/-- What arrives is carried after what was carried already. -/
theorem arrived {scratch : Bytes} {result : Outcome Nat} (held : after.held = session.held)
    (carried : after.carried = (Deed.received scratch result left).pending session.carried) :
    Conserves session [.received scratch result left] [] after where
  given := by
    rw [List.nil_append, held, List.flatMap_singleton]
    exact (List.append_nil _).symm
  asked early _ _ _ _ split := by
    cases (split_singleton split).2.1
  carried := carried

end Conserves

namespace Session

theorem conserves_deliver (session : Session) (buffer : Bytes) :
    Conserves session [] (session.deliver buffer).given (session.deliver buffer).session :=
  .nothing (deliver_given session buffer).symm rfl

/-- What is opened is held, and then given as far as there is room; what follows it is carried. -/
theorem conserves_accept (done : answer.status = .done) (buffer : Bytes) :
    let received := ({ session with carried := [] } : Session).accept answer
      (session.carried.overlay left) buffer
    Conserves session [.decrypted session.carried answer left] received.given received.session := by
  dsimp only [accept]
  cases payload : answer.payload?.bind (·.bytes? (session.carried.overlay left)) with
  | some data =>
    refine .decrypted ?_ ?_
    · rw [← deliver_given, Deed.opened, if_pos done, payload]
      rfl
    · simp only [deliver, Deed.pending, done]
  | none =>
    refine .decrypted ?_ ?_
    · rw [Deed.opened, if_pos done, payload]
      exact (List.append_nil _).symm
    · simp only [Deed.pending, done]

theorem Tries.conserves_ended (h : session.Tries buffer answer left (.ended received)) :
    Conserves session [.decrypted session.carried answer left] received.given received.session := by
  cases h with
  | opened done => exact conserves_accept done buffer
  | refused closed whole =>
    refine .decrypted ?_ ?_
    · rw [Deed.opened, if_neg closed]
      exact (List.append_nil _).symm
    · rw [Deed.pending]
      split <;> first | contradiction | rfl

theorem Tries.conserves_incomplete (h : session.Tries buffer answer left (.incomplete after)) :
    Conserves session [.decrypted session.carried answer left] [] after := by
  cases h with
  | incomplete short =>
    refine .decrypted ?_ ?_
    · rw [Deed.opened, if_neg (by simp [short])]
      exact (List.append_nil _).symm
    · simp only [Deed.pending, short]

theorem conserves_fed (session : Session) (count : Nat) (left : Bytes) :
    Conserves session [.received (Bytes.zeros chunk) (.ok count) left] [] (session.fed count left) :=
  .arrived rfl rfl

theorem Reads.conserves (h : session.Reads buffer deeds received) :
    Conserves session deeds received.given received.session := by
  cases h with
  | failed => exact .arrived rfl rfl
  | closed => exact .arrived rfl (List.append_nil _).symm
  | tried _ tries => exact (conserves_fed _ _ _).append tries.conserves_ended
  | short _ tries => exact (conserves_fed _ _ _).append tries.conserves_incomplete

end Session

theorem Receipt.Goes.conserves (h : receipt.Goes) :
    Conserves receipt.before receipt.deeds receipt.received.given receipt.received.session := by
  cases h with
  | refused => exact .nothing rfl rfl
  | empty => exact .nothing rfl rfl
  | held => exact Session.conserves_deliver _ _
  | read _ _ _ reads => exact reads.conserves
  | tried _ _ _ _ tries => exact tries.conserves_ended
  | readAfter _ _ _ _ tries reads => exact tries.conserves_incomplete.append reads.conserves

theorem Linked.conserves (h : Linked session receipts) :
    Conserves session (receipts.flatMap (·.deeds)) (delivered (receipts.map (·.received)))
      (session.after (receipts.map (·.received))) := by
  induction receipts generalizing session with
  | nil => exact .nothing rfl rfl
  | cons receipt receipts ih =>
    obtain ⟨rfl, goes, later⟩ := h
    exact goes.conserves.append (ih later)

structure Fits (buffer : Bytes) (received : Session.Received) : Prop where
  length : received.buffer.length = buffer.length
  within : ∀ count, received.result = .ok count → count ≤ buffer.length
  beyond : ∀ count, received.result = .ok count → received.buffer.drop count = buffer.drop count
  failed : ∀ failure, received.result = .error failure → received.buffer = buffer

theorem Bytes.drop_overlay (buffer fresh : Bytes) :
    (buffer.overlay fresh).drop (min fresh.length buffer.length) =
      buffer.drop (min fresh.length buffer.length) := by
  rw [overlay_eq, List.drop_left' (by simp)]

namespace Session

theorem fits_untouched (session : Session) (buffer : Bytes) (result : Outcome Nat)
    (within : ∀ count, result = .ok count → count ≤ buffer.length) :
    Fits buffer { result, buffer, session } where
  length := rfl
  within := within
  beyond _ _ := rfl
  failed _ _ := rfl

theorem fits_error (session : Session) (buffer : Bytes) (failure : Error) :
    Fits buffer { result := .error failure, buffer, session } := fits_untouched session buffer _ nofun

theorem fits_deliver (session : Session) (buffer : Bytes) : Fits buffer (session.deliver buffer) where
  length := Bytes.length_overlay _ _
  within _ is := Except.ok.inj is ▸ Nat.min_le_right _ _
  beyond _ is := Except.ok.inj is ▸ Bytes.drop_overlay _ _
  failed := nofun

theorem Tries.fits (h : session.Tries buffer answer left (.ended received)) : Fits buffer received := by
  cases h with
  | opened =>
    rw [accept]
    split
    · exact fits_deliver _ _
    · exact fits_error _ _ _
  | refused => exact fits_error _ _ _

theorem Reads.fits (h : session.Reads buffer deeds received) : Fits buffer received := by
  cases h with
  | failed => exact fits_error _ _ _
  | closed => exact fits_untouched _ _ _ fun _ is => Except.ok.inj is ▸ Nat.zero_le _
  | tried _ tries => exact tries.fits
  | short => exact fits_error _ _ _

end Session

theorem Receipt.Goes.fits (h : receipt.Goes) : Fits receipt.buffer receipt.received := by
  cases h with
  | refused => exact Session.fits_error _ _ _
  | empty => exact Session.fits_untouched _ _ _ fun _ is => Except.ok.inj is ▸ Nat.zero_le _
  | held => exact Session.fits_deliver _ _
  | read _ _ _ reads => exact reads.fits
  | tried _ _ _ _ tries => exact tries.fits
  | readAfter _ _ _ _ _ reads => exact reads.fits

theorem Linked.goes (h : Linked session receipts) : ∀ receipt ∈ receipts, receipt.Goes := by
  induction receipts generalizing session with
  | nil => exact fun _ mem => nomatch mem
  | cons receipt receipts ih =>
    obtain ⟨-, goes, later⟩ := h
    exact List.forall_mem_cons.mpr ⟨goes, ih later⟩

/-- Every sequence of calls to receive, with buffers of any length, over any provider and any stream, gives and
holds what the decrypt calls opened, hands over what has arrived, and writes nothing else. -/
theorem receiveEach_conserves (transport : Transport σ) (channel : SecureChannel σ) (session : Session)
    (buffers : List Bytes) (state : σ) :
    ∃ receipts after, Accounted transport channel session buffers state receipts after ∧
      Conserves session (receipts.flatMap (·.deeds)) (delivered (receipts.map (·.received)))
        (session.after (receipts.map (·.received))) ∧
      ∀ receipt ∈ receipts, Fits receipt.buffer receipt.received := by
  obtain ⟨receipts, after, accounted⟩ := accounted_receiveEach transport channel session buffers state
  exact ⟨receipts, after, accounted, accounted.linked.conserves,
    fun receipt mem => (accounted.linked.goes receipt mem).fits⟩

structure Script where
  answers : List (Decrypted × Bytes) := []
  reads : List (Outcome Nat × Bytes) := []

def scripted : SecureChannel Script where
  acquireCredentials _ := pure (.ok ())
  handshakeStep _ _ := pure { status := .done }
  streamSizes := pure (.ok ⟨1, 0, 255⟩)
  encrypt record := pure (.error .noContext, record)
  decrypt message := fun script =>
    (script.answers.headD ({ status := .error }, message), { script with answers := script.answers.tail })
  shutdownToken := pure (.error .noContext)

def scriptedStream : Transport Script where
  send data := pure (.ok data.length)
  recv buffer := fun script =>
    (script.reads.headD (.ok 0, buffer), { script with reads := script.reads.tail })
  close := pure ()

def awkward : Script where
  answers := [({ status := .incompleteMessage }, [3, 0x5b]),
    ({ status := .done, regions := [⟨.data, 2, 2⟩, ⟨.data, 1, 3⟩, ⟨.extra, 3, 4⟩] }, [0, 97, 98, 7]),
    ({ status := .done, regions := [⟨.extra, 5, 9⟩] }, [8])]
  reads := [(.ok 2, [9, 10]), (.error .timeout, [])]

example : ((settled [3, 0x5b]).receiveEach scriptedStream scripted
      [[0], [0, 0], [0, 0], [0, 0], [0, 0]] awkward).1.map (fun received =>
        (received.result, received.buffer, received.session.carried)) =
    [(.ok 1, [97], [7]), (.ok 1, [98, 0], [7]), (.error .receiveFailed, [0, 0], []),
      (.error .timeout, [0, 0], []), (.ok 0, [0, 0], [])] := by decide +kernel

end NetReactor
