import NetReactor.Proofs.Session.Observed
/-!
A session between a provider and a stream that know nothing of each other. Nothing is assumed here about their
answers; what a stream may answer is a condition of its own.
-/
namespace NetReactor

variable {π τ α β : Type}

structure Sides (π τ : Type) where
  provider : π
  stream : τ

namespace Sides

variable {sides : Sides π τ} {answer : α}

def ask (action : StateM π α) : StateM (Sides π τ) α := fun sides =>
  let (answer, provider) := action sides.provider
  (answer, { sides with provider })

def use (action : StateM τ α) : StateM (Sides π τ) α := fun sides =>
  let (answer, stream) := action sides.stream
  (answer, { sides with stream })

theorem ask_of_eq {action : StateM π α} {next : π} (h : action sides.provider = (answer, next)) :
    ask action sides = (answer, { sides with provider := next }) := by
  simp only [ask, h]

theorem use_of_eq {action : StateM τ α} {next : τ} (h : action sides.stream = (answer, next)) :
    use action sides = (answer, { sides with stream := next }) := by
  simp only [use, h]

theorem use_bind (action : StateM τ α) (next : α → StateM τ β) :
    (use action : StateM (Sides π τ) α) >>= (fun a => use (next a)) = use (action >>= next) := rfl

end Sides

def SecureChannel.beside (channel : SecureChannel π) : SecureChannel (Sides π τ) where
  acquireCredentials context := Sides.ask (channel.acquireCredentials context)
  handshakeStep target input := Sides.ask (channel.handshakeStep target input)
  streamSizes := Sides.ask channel.streamSizes
  encrypt record := Sides.ask (channel.encrypt record)
  decrypt message := Sides.ask (channel.decrypt message)
  shutdownToken := Sides.ask channel.shutdownToken

def Transport.beside (transport : Transport τ) : Transport (Sides π τ) where
  send data := Sides.use (transport.send data)
  recv buffer := Sides.use (transport.recv buffer)
  close := Sides.use transport.close

section

variable {channel : SecureChannel π} {transport : Transport τ} {sides : Sides π τ}

theorem beside_step {target : Option String} {input : Option Bytes} {answer : HandshakeStep} {next : π}
    (h : channel.handshakeStep target input sides.provider = (answer, next)) :
    channel.beside.handshakeStep target input sides = (answer, { sides with provider := next }) :=
  Sides.ask_of_eq h

theorem beside_sizes {answer : Except ChannelError RecordSizing} {next : π}
    (h : channel.streamSizes sides.provider = (answer, next)) :
    channel.beside.streamSizes sides = (answer, { sides with provider := next }) := Sides.ask_of_eq h

theorem beside_encrypt {record : Record} {answer : Except ChannelError Nat × Record} {next : π}
    (h : channel.encrypt record sides.provider = (answer, next)) :
    channel.beside.encrypt record sides = (answer, { sides with provider := next }) := Sides.ask_of_eq h

theorem beside_decrypt {message : Bytes} {answer : Decrypted × Bytes} {next : π}
    (h : channel.decrypt message sides.provider = (answer, next)) :
    channel.beside.decrypt message sides = (answer, { sides with provider := next }) := Sides.ask_of_eq h

theorem beside_recv {buffer : Bytes} {answer : Outcome Nat × Bytes} {next : τ}
    (h : transport.recv buffer sides.stream = (answer, next)) :
    transport.beside.recv buffer sides = (answer, { sides with stream := next }) := Sides.use_of_eq h

/-- Sending everything leaves the provider alone. -/
theorem beside_sendAll (transport : Transport τ) (data : Bytes) :
    (transport.beside.sendAll data : StateM (Sides π τ) (Outcome Unit)) = Sides.use (transport.sendAll data) := by
  fun_induction Transport.sendAll transport data with
  | case1 =>
    rw [Transport.sendAll]
    rfl
  | case2 byte rest ih =>
    rw [Transport.sendAll, ← Sides.use_bind]
    refine bind_congr fun result => ?_
    cases result with
    | error => rfl
    | ok count =>
      cases count with
      | zero => rfl
      | succ sent => exact ih sent

end

/-- The message that the provider used up: its input without what it left over. -/
def Deed.message? : Deed → Option Bytes
  | .stepped (some input) answer =>
    if answer.status = .incompleteMessage then none
    else some (input.take (input.length - answer.extra.getD 0))
  | _ => none

def messages (deeds : List Deed) : List Bytes := deeds.filterMap Deed.message?

@[simp] theorem messages_nil : messages [] = [] := rfl

@[simp] theorem messages_append (deeds more : List Deed) :
    messages (deeds ++ more) = messages deeds ++ messages more := List.filterMap_append

@[simp] theorem messages_cons (deed : Deed) (deeds : List Deed) :
    messages (deed :: deeds) = deed.message?.toList ++ messages deeds := by
  rw [messages, List.filterMap_cons]
  cases deed.message? <;> rfl

theorem messages_eq_nil {deeds : List Deed} (sent : ∀ deed ∈ deeds, deed.isSent = true) :
    messages deeds = [] := by
  refine List.filterMap_eq_nil_iff.mpr fun deed mem => ?_
  have sent := sent deed mem
  cases deed <;> first | rfl | cases sent

/-- A stream that gives certain bytes and then comes to its end. It may fail between two reads, and may cut
the bytes as it likes. -/
structure Delivers (transport : Transport τ) (unread : τ → Bytes) : Prop where
  send : ∀ data stream, unread (transport.send data stream).2 = unread stream
  recv_error : ∀ {buffer stream failure left next},
    transport.recv buffer stream = ((.error failure, left), next) → unread next = unread stream
  recv_ok : ∀ {buffer stream count left next}, buffer ≠ [] →
    transport.recv buffer stream = ((.ok count, left), next) →
      count ≤ buffer.length ∧ left.length = buffer.length ∧
        unread stream = left.take count ++ unread next ∧ (count = 0 → unread stream = [])

structure Steady (transport : Transport τ) : Prop where
  takes : ∀ data stream, data ≠ [] →
    ∃ count next, transport.send data stream = (.ok count, next) ∧ count ≠ 0
  gives : ∀ buffer stream, buffer ≠ [] →
    ∃ count left next, transport.recv buffer stream = ((.ok count, left), next)

section

variable {transport : Transport τ} {unread : τ → Bytes}

theorem Delivers.sendAll (delivers : Delivers transport unread) (data : Bytes) (stream : τ) :
    unread (transport.sendAll data stream).2 = unread stream := by
  fun_induction Transport.sendAll transport data generalizing stream with
  | case1 => rfl
  | case2 byte rest ih =>
    have first := delivers.send (byte :: rest) stream
    rcases asked : transport.send (byte :: rest) stream with ⟨result, next⟩
    rw [asked] at first
    rw [bind_of_eq asked]
    cases result with
    | error => exact first
    | ok count =>
      cases count with
      | zero => exact first
      | succ sent => exact (ih sent next).trans first

theorem Steady.sendAll (steady : Steady transport) (data : Bytes) (stream : τ) :
    (transport.sendAll data stream).1 = .ok () := by
  fun_induction Transport.sendAll transport data generalizing stream with
  | case1 => rfl
  | case2 byte rest ih =>
    obtain ⟨count, next, took, some⟩ := steady.takes (byte :: rest) stream (List.cons_ne_nil _ _)
    obtain ⟨sent, rfl⟩ := Nat.exists_eq_succ_of_ne_zero some
    rw [bind_of_eq took]
    exact ih sent next

/-- The pieces in which everything is handed over, next to a provider. -/
theorem pours_beside (transport : Transport τ) (data : Bytes) (seen : Observed (Sides π τ)) :
    ∃ result deeds rest stream,
      transport.beside.observed.sendAll data seen =
        (result, { state := { seen.state with stream }, deeds := seen.deeds ++ deeds }) ∧
      Pours data result deeds rest ∧ transport.sendAll data seen.state.stream = (result, stream) := by
  obtain ⟨result, deeds, rest, state, ran, pours⟩ := pours_sendAll transport.beside data seen
  obtain ⟨answer, kept⟩ := mirrors_sendAll transport.beside data seen
  rw [ran, beside_sendAll] at answer kept
  rcases sent : transport.sendAll data seen.state.stream with ⟨result', stream⟩
  rw [Sides.use_of_eq sent] at answer kept
  obtain rfl : result = result' := answer
  obtain rfl : state = { seen.state with stream } := kept
  exact ⟨result, deeds, rest, stream, ran, pours, rfl⟩

end

end NetReactor
