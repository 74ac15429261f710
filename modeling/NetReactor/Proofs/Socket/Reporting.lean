import NetReactor.Proofs.Socket.Codec
import NetReactor.Socket
/-!
Which failures the calls of a socket report, for every answer of the kernel. Each call has a name for the failures that
no error number explains, so that none of them is reported as unknown.
-/
namespace NetReactor

variable {σ α : Type}

namespace Error

variable {number : Int} {failure own : Error}

def Numbered (number : Int) : Prop := ∃ failure, (number, failure) ∈ numbers

theorem ofNumber_of_mem (listed : (number, failure) ∈ numbers) : ofNumber number = failure := by
  have every : ∀ pair ∈ numbers, ofNumber pair.1 = pair.2 := by decide
  exact every _ listed

theorem ne_unknown_of_mem (listed : (number, failure) ∈ numbers) : failure ≠ .unknown := by
  have every : ∀ pair ∈ numbers, pair.2 ≠ .unknown := by decide
  exact every _ listed

theorem ofNumber_unnumbered (unnumbered : ¬ Numbered number) : ofNumber number = .unknown := by
  have absent : numbers.lookup number = none := by
    refine List.lookup_eq_none_iff.mpr fun pair mem => ?_
    rw [bne_iff_ne]
    rintro rfl
    exact unnumbered ⟨pair.2, mem⟩
  rw [ofNumber, absent]
  rfl

theorem ofNumber_eq_iff (known : failure ≠ .unknown) : ofNumber number = failure ↔ (number, failure) ∈ numbers := by
  refine ⟨fun same => ?_, ofNumber_of_mem⟩
  by_cases numbered : Numbered number
  · obtain ⟨other, listed⟩ := numbered
    rwa [← same, ofNumber_of_mem listed]
  · exact absurd ((ofNumber_unnumbered numbered).symm.trans same) known.symm

def IsName (own : Error) : Prop := own ≠ .unknown ∧ ∀ number, (number, own) ∉ numbers

theorem orElse_of_mem (listed : (number, failure) ∈ numbers) : (ofNumber number).orElse own = failure := by
  rw [ofNumber_of_mem listed, orElse, if_neg (ne_unknown_of_mem listed)]

theorem orElse_unnumbered (unnumbered : ¬ Numbered number) : (ofNumber number).orElse own = own := by
  rw [ofNumber_unnumbered unnumbered, orElse, if_pos rfl]

theorem orElse_eq_own_iff (name : own.IsName) : (ofNumber number).orElse own = own ↔ ¬ Numbered number := by
  refine ⟨?_, orElse_unnumbered⟩
  rintro same ⟨failure, listed⟩
  rw [orElse_of_mem listed] at same
  exact name.2 number (same ▸ listed)

theorem orElse_ne_unknown (known : own ≠ .unknown) (failure : Error) : failure.orElse own ≠ .unknown := by
  unfold orElse
  split
  · exact known
  · assumption

theorem isName_of_notMem (known : own ≠ .unknown) (apart : own ∉ numbers.map Prod.snd) : own.IsName :=
  ⟨known, fun number listed => apart (List.mem_map.mpr ⟨(number, own), listed, rfl⟩)⟩

theorem isName_connectFailed : connectFailed.IsName := isName_of_notMem (by decide) (by decide)

theorem isName_sendFailed : sendFailed.IsName := isName_of_notMem (by decide) (by decide)

theorem isName_receiveFailed : receiveFailed.IsName := isName_of_notMem (by decide) (by decide)

end Error

def Explained (result : Outcome α) : Prop := result ≠ .error .unknown

theorem Explained.ok (value : α) : Explained (.ok value : Outcome α) := by simp [Explained]

theorem Explained.error {failure : Error} (known : failure ≠ .unknown) :
    Explained (.error failure : Outcome α) := fun same => known (Except.error.inj same)

/-- A failure that is explained remains so as a result of another kind. -/
theorem Explained.failure {result : Outcome α} {failure : Error} (explained : Explained result)
    (failed : result = .error failure) : failure ≠ .unknown := by
  rintro rfl
  exact explained failed

namespace Socket

variable {kernel : Kernel σ} {socket : Socket} {state : σ} {isOpen : Bool} {reply : Reply} {own : Error}

structure Explains (own : Error) (isOpen : Bool) (reply : Reply) (result : Outcome α) : Prop where
  closed : isOpen = false → result = .error .socketClosed
  done : isOpen = true → reply.failed = false → ∃ value, result = .ok value
  numbered : isOpen = true → reply.failed = true → ∀ failure, (reply.number, failure) ∈ Error.numbers →
    result = .error failure
  own_iff : result = .error own ↔ isOpen = true ∧ reply.failed = true ∧ ¬ Error.Numbered reply.number
  explained : Explained result

def answer (own : Error) (isOpen : Bool) (reply : Reply) (value : α) : Outcome α :=
  if isOpen then if reply.failed then .error (reply.error.orElse own) else .ok value else .error .socketClosed

theorem explains_answer (name : own.IsName) (isOpen : Bool) (reply : Reply) (value : α) :
    Explains own isOpen reply (answer own isOpen reply value) := by
  cases isOpen with
  | false =>
    have other : Error.socketClosed ≠ own := by
      rintro rfl
      exact name.2 9 (by decide)
    refine ⟨fun _ => rfl, by simp, by simp, ?_, .error (by decide)⟩
    exact iff_of_false (fun same => other (Except.error.inj same)) (by simp)
  | true =>
    cases failed : reply.failed with
    | false =>
      have result : answer own true reply value = .ok value := by rw [answer, if_pos rfl, failed, if_neg (by simp)]
      rw [result]
      exact ⟨by simp, fun _ _ => ⟨value, rfl⟩, by simp [failed], by simp [failed], .ok value⟩
    | true =>
      have result : answer own true reply value = .error (reply.error.orElse own) := by
        rw [answer, if_pos rfl, if_pos failed]
      rw [result]
      refine ⟨by simp, by simp [failed], fun _ _ failure listed => ?_, ?_, .error (Error.orElse_ne_unknown name.1 _)⟩
      · rw [Reply.error, Error.orElse_of_mem listed]
      · rw [Except.error.injEq, Reply.error, Error.orElse_eq_own_iff name]
        simp [failed]

structure Binds (isOpen : Bool) (reply : Reply) (result : Outcome Unit) : Prop where
  only : ∀ failure, result = .error failure →
    failure ∈ [Error.socketClosed, .addressInUse, .addressNotAvailable, .bindFailed]
  numbered_iff : ∀ failure ∈ [Error.addressInUse, .addressNotAvailable],
    (result = .error failure ↔ isOpen = true ∧ reply.failed = true ∧ (reply.number, failure) ∈ Error.numbers)

def Waits (number : Int) : Prop := (number, Error.wouldBlock) ∈ Error.numbers ∨ number = interrupted

structure Accepts (isOpen : Bool) (reply : Reply) (result : Outcome (Socket × Address)) : Prop where
  only : ∀ failure, result = .error failure →
    failure ∈ [Error.socketClosed, .wouldBlock, .invalidAddress, .acceptFailed]
  closed_iff : result = .error .socketClosed ↔ isOpen = false
  wouldBlock_iff : result = .error .wouldBlock ↔ isOpen = true ∧ reply.failed = true ∧ Waits reply.number
  invalidAddress_iff : result = .error .invalidAddress ↔ isOpen = true ∧ reply.failed = false ∧
    ∀ family : Family, Address.familyNumber ((Bytes.zeros Address.storageSize).overlay reply.data) ≠ family.domain
  acceptFailed_iff : result = .error .acceptFailed ↔ isOpen = true ∧ reply.failed = true ∧ ¬ Waits reply.number

structure Reports (kernel : Kernel σ) (socket : Socket) (state : σ) : Prop where
  create : ∀ family failure, (Socket.create kernel family state).1 = .error failure → failure = .socketCreationFailed
  bind : ∀ address, Binds socket.isOpen (kernel (.bind socket.descriptor address.encode) state).1
    (socket.bind kernel address state).1
  listen : ∀ backlog failure, (socket.listen kernel backlog state).1 = .error failure →
    failure ∈ [Error.socketClosed, .listenFailed]
  accept : Accepts socket.isOpen (kernel (.accept socket.descriptor) state).1 (socket.accept kernel state).1
  connect : ∀ address, Explains .connectFailed socket.isOpen
    (kernel (.connect socket.descriptor address.encode) state).1 (socket.connect kernel address state).1
  send : ∀ data, Explains .sendFailed socket.isOpen (kernel (.send socket.descriptor data sendFlags) state).1
    (socket.send kernel data state).1
  recv : ∀ buffer, Explains .receiveFailed socket.isOpen
    (kernel (.recv socket.descriptor buffer.length 0) state).1 (socket.recv kernel buffer state).1.1

theorem call_fst (call : Descriptor → Syscall) (result : Reply → Outcome α) :
    (socket.call kernel call result state).1 =
      if socket.isOpen then result (kernel (call socket.descriptor) state).1 else .error .socketClosed := by
  unfold Socket.call
  split <;> rfl

theorem create_fst (kernel : Kernel σ) (family : Family) (state : σ) {failure : Error}
    (failed : (Socket.create kernel family state).1 = .error failure) : failure = .socketCreationFailed := by
  change (if (kernel (.socket family.domain streamKind streamProtocol) state).1.failed then
    (.error .socketCreationFailed : Outcome Socket) else .ok _) = .error failure at failed
  split at failed
  · exact (Except.error.inj failed).symm
  · cases failed

theorem bindFailure_mem (failure : Error) :
    bindFailure failure ∈ [Error.socketClosed, .addressInUse, .addressNotAvailable, .bindFailed] := by
  cases failure <;> decide

theorem bindFailure_eq_iff {failure : Error} (kept : failure ∈ [Error.addressInUse, .addressNotAvailable])
    (other : Error) : bindFailure other = failure ↔ other = failure := by
  revert failure
  cases other <;> decide

theorem binds_outcome (isOpen : Bool) (reply : Reply) :
    Binds isOpen reply (if isOpen then reply.outcome bindFailure else .error .socketClosed) := by
  cases isOpen with
  | false =>
    refine ⟨fun failure failed => ?_, fun failure kept => iff_of_false (fun failed => ?_) (by simp)⟩
    · cases failed
      decide
    · cases failed
      exact absurd kept (by decide)
  | true =>
    rw [if_pos rfl, Reply.outcome]
    cases failed : reply.failed with
    | false =>
      rw [if_neg Bool.false_ne_true]
      exact ⟨by simp, by simp [failed]⟩
    | true =>
      rw [if_pos rfl]
      refine ⟨fun failure same => ?_, fun failure kept => ?_⟩
      · rw [← Except.error.inj same]
        exact bindFailure_mem reply.error
      · have known : failure ≠ .unknown := by
          rintro rfl
          exact absurd kept (by decide)
        rw [Except.error.injEq, bindFailure_eq_iff kept, Reply.error, Error.ofNumber_eq_iff known]
        simp [failed]

theorem listen_fst (kernel : Kernel σ) (socket : Socket) (backlog : Int) (state : σ) {failure : Error}
    (failed : (socket.listen kernel backlog state).1 = .error failure) :
    failure ∈ [Error.socketClosed, .listenFailed] := by
  rw [listen, call_fst, Reply.outcome] at failed
  split at failed
  · split at failed
    · rw [← Except.error.inj failed]
      decide
    · cases failed
  · rw [← Except.error.inj failed]
    decide

def accepted (isOpen : Bool) (reply : Reply) : Outcome (Socket × Address) :=
  if isOpen then
    if reply.failed then .error (acceptFailure reply) else (Address.ofReply reply).map (Prod.mk ⟨reply.result⟩)
  else .error .socketClosed

theorem accept_fst (kernel : Kernel σ) (socket : Socket) (state : σ) :
    (socket.accept kernel state).1 = accepted socket.isOpen (kernel (.accept socket.descriptor) state).1 := by
  unfold Socket.accept accepted
  split
  · rcases asked : kernel (.accept socket.descriptor) state with ⟨reply, after⟩
    simp only [Bind.bind, StateT.bind, asked]
    split
    · rfl
    · cases Address.ofReply reply <;> rfl
  · rfl

theorem waits_iff (reply : Reply) : reply.error = .wouldBlock ∨ reply.number = interrupted ↔ Waits reply.number :=
  or_congr_left (Error.ofNumber_eq_iff (by decide))

theorem accepts_failed {reply : Reply} (failed : reply.failed = true) :
    Accepts true reply (.error (acceptFailure reply)) := by
  by_cases waits : Waits reply.number
  · have own : acceptFailure reply = .wouldBlock := if_pos ((waits_iff reply).mpr waits)
    rw [own]
    constructor <;> simp [failed, waits]
  · have own : acceptFailure reply = .acceptFailed := if_neg (mt (waits_iff reply).mp waits)
    rw [own]
    constructor <;> simp [failed, waits]

theorem accepts_read {reply : Reply} (done : reply.failed = false) :
    Accepts true reply ((Address.ofReply reply).map (Prod.mk ⟨reply.result⟩)) := by
  by_cases known : ∃ family : Family,
    Address.familyNumber ((Bytes.zeros Address.storageSize).overlay reply.data) = family.domain
  · obtain ⟨family, known⟩ := known
    obtain ⟨address, read⟩ := Address.decode_known known
    rw [Address.ofReply, read, Except.map]
    have other : ¬ ∀ family : Family,
      Address.familyNumber ((Bytes.zeros Address.storageSize).overlay reply.data) ≠ family.domain :=
      fun unknown => unknown family known
    constructor <;> simp [done, other]
  · have unknown := not_exists.mp known
    rw [Address.ofReply, Address.decode_unknown unknown, Except.map]
    constructor <;> simp [done, unknown]

theorem accepts (kernel : Kernel σ) (socket : Socket) (state : σ) :
    Accepts socket.isOpen (kernel (.accept socket.descriptor) state).1 (socket.accept kernel state).1 := by
  rw [accept_fst]
  generalize (kernel (.accept socket.descriptor) state).1 = reply
  unfold accepted
  cases socket.isOpen with
  | false =>
    rw [if_neg Bool.false_ne_true]
    constructor <;> simp
  | true =>
    rw [if_pos rfl]
    cases failed : reply.failed with
    | true => exact accepts_failed failed
    | false => exact accepts_read failed

/-- Every kernel, every socket: what each call reports. -/
theorem reports (kernel : Kernel σ) (socket : Socket) (state : σ) : Reports kernel socket state where
  create family failure := create_fst kernel family state
  bind address := by
    rw [Socket.bind, call_fst]
    exact binds_outcome _ _
  listen backlog failure := listen_fst kernel socket backlog state
  accept := accepts kernel socket state
  connect address := by
    rw [Socket.connect, call_fst]
    exact explains_answer Error.isName_connectFailed _ _ ()
  send data := by
    rw [Socket.send, call_fst]
    exact explains_answer Error.isName_sendFailed _ _ _
  recv buffer := by
    have result : (socket.recv kernel buffer state).1.1 = answer .receiveFailed socket.isOpen
        (kernel (.recv socket.descriptor buffer.length 0) state).1
        (kernel (.recv socket.descriptor buffer.length 0) state).1.result.toNat := by
      unfold Socket.recv answer
      split <;> rfl
    rw [result]
    exact explains_answer Error.isName_receiveFailed _ _ _

end Socket
end NetReactor
