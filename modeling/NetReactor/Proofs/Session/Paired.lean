import NetReactor.Proofs.Session.Delimited
import NetReactor.Proofs.Session.Sides
/-!
Two providers of which one decrypts what the other one encrypted, record by record, and what the sending
session puts on the wire. Between them are the records that are encrypted and not decrypted yet.
-/
namespace NetReactor

variable {π ρ τ : Type} {sender : SecureChannel π} {receiver : SecureChannel ρ} {sizing : RecordSizing}
variable {decrypted : Decrypted} {message data rest : Bytes}

abbrev Flight := List (Bytes × Bytes)

namespace Flight

def plaintext (flight : Flight) : Bytes := flight.flatMap Prod.fst

def wire (flight : Flight) : Bytes := flight.flatMap Prod.snd

@[simp] theorem plaintext_cons (data record : Bytes) (flight : Flight) :
    plaintext ((data, record) :: flight) = data ++ plaintext flight := List.flatMap_cons

@[simp] theorem wire_cons (data record : Bytes) (flight : Flight) :
    wire ((data, record) :: flight) = record ++ wire flight := List.flatMap_cons

end Flight

variable {Record : Bytes → Prop} {ahead : π → ρ → Flight → Prop} {flight : Flight}

structure Opens (decrypted : Decrypted) (message data rest : Bytes) : Prop where
  done : decrypted.status = .done
  data : ∃ region, decrypted.regions.filter (·.kind == .data) = [region] ∧
    region.bytes? message = some data
  extra : ∀ region ∈ decrypted.regions, region.kind = .extra → region.bytes? message = some rest
  covered : rest ≠ [] → ∃ region ∈ decrypted.regions, region.kind = .extra

/-- The sender is ahead of the receiver by the records that are on their way, each with its plaintext. What
the sender encrypts comes after them, and the receiver decrypts the first of them whatever follows it. Without
a complete record it changes nothing. -/
structure Paired (sender : SecureChannel π) (receiver : SecureChannel ρ) (sizing : RecordSizing)
    (Record : Bytes → Prop) (ahead : π → ρ → Flight → Prop) : Prop where
  delimited : Delimited Record
  encrypts : ∀ {one other flight data used record next}, ahead one other flight → data ≠ [] →
    data.length ≤ sizing.maxMessage →
    sender.encrypt (Session.blank sizing data) one = ((.ok used, record), next) →
      Record (Session.wireBytes (Session.written (Session.blank sizing data) record) used) ∧
      ahead next other (flight ++
        [(data, Session.wireBytes (Session.written (Session.blank sizing data) record) used)])
  incomplete : ∀ {message} other, Starved Record message → ∃ decrypted left,
    receiver.decrypt message other = ((decrypted, left), other) ∧
      decrypted.status = .incompleteMessage ∧ message.overlay left = message
  decrypts : ∀ {one other data bytes flight}, ahead one other ((data, bytes) :: flight) → ∀ rest,
    ∃ decrypted left next, receiver.decrypt (bytes ++ rest) other = ((decrypted, left), next) ∧
      Opens decrypted ((bytes ++ rest).overlay left) data rest ∧ ahead one next flight

namespace Opens

variable (h : Opens decrypted message data rest)
include h

theorem payload (nonempty : data ≠ []) : decrypted.payload?.bind (·.bytes? message) = some data := by
  obtain ⟨region, only, bytes⟩ := h.data
  have filled : region.isEmpty = false := by
    have length := Bytes.length_of_slice? bytes
    have positive := List.length_pos_iff.mpr nonempty
    simp only [Region.isEmpty, decide_eq_false_iff_not]
    omega
  have found : decrypted.payload? = some region := by
    have inside : (decrypted.regions.filter (·.kind == .data)).find? (!·.isEmpty) = some region := by
      rw [only, List.find?_cons_of_pos (by simp [filled])]
    rw [List.find?_filter] at inside
    simpa [Decrypted.payload?, beq_eq_decide] using inside
  rw [found]
  exact bytes

theorem carried : ((decrypted.region? .extra).bind (·.bytes? message)).getD [] = rest := by
  cases found : decrypted.region? .extra with
  | none =>
    have absent := List.find?_eq_none.mp found
    by_cases nonempty : rest = []
    · exact nonempty.symm
    · obtain ⟨region, mem, kind⟩ := h.covered nonempty
      exact absurd (by simp [kind]) (absent region mem)
  | some region =>
    have kind : region.kind = .extra := by simpa using List.find?_some found
    rw [Option.bind_some, h.extra region (List.mem_of_find?_eq_some found) kind]
    rfl

end Opens

def Session.sendEach {σ : Type} (transport : Transport σ) (channel : SecureChannel σ) (session : Session) :
    List Bytes → StateM σ (List (Outcome Nat))
  | [] => return []
  | data :: rest => do
    let result ← session.send transport channel data
    return result :: (← session.sendEach transport channel rest)

/-- What was sent is one record of the provider on the wire. -/
theorem send_accepted {transport : Transport τ} {session : Session} {seen after : Observed (Sides π τ)}
    {count : Nat} (established : session.establishedSizing = .ok sizing)
    (h : session.send transport.beside.observed sender.beside.observed data seen = (.ok count, after)) :
    data.length ≤ sizing.maxMessage ∧ ∃ used record next,
      sender.encrypt (Session.blank sizing data) seen.state.provider = ((.ok used, record), next) ∧
        after.state.provider = next ∧ handedOver after.deeds = handedOver seen.deeds ++
          Session.wireBytes (Session.written (Session.blank sizing data) record) used := by
  rw [Session.send, established] at h
  dsimp only at h
  split at h
  · cases h
  · next fits =>
    refine ⟨Nat.le_of_not_lt fits, ?_⟩
    rcases encrypted : sender.encrypt (Session.blank sizing data) seen.state.provider with ⟨⟨answer, record⟩, next⟩
    rw [bind_of_eq (observed_encrypt (beside_encrypt encrypted))] at h
    cases answer with
    | error => cases h
    | ok used =>
      obtain ⟨result, deeds, rest, stream, sent, pours, -⟩ := pours_beside transport
        (Session.wireBytes (Session.written (Session.blank sizing data) record) used)
        { state := { seen.state with provider := next },
          deeds := seen.deeds ++ [.encrypted (Session.blank sizing data) (.ok used) record] }
      dsimp only at h
      rw [bind_of_eq sent] at h
      cases result with
      | error => cases h
      | ok =>
        cases h
        refine ⟨used, record, next, rfl, rfl, ?_⟩
        simp [pours.handedOver_eq, Deed.taken]

/-- Messages that were all accepted are on their way after what was there, one record each. -/
theorem sendEach_ahead {transport : Transport τ} {session : Session} {other : ρ} {messages : List Bytes}
    {seen after : Observed (Sides π τ)} {results : List (Outcome Nat)}
    (pair : Paired sender receiver sizing Record ahead)
    (established : session.establishedSizing = .ok sizing)
    (start : ahead seen.state.provider other flight) (nonempty : ∀ data ∈ messages, data ≠ [])
    (h : session.sendEach transport.beside.observed sender.beside.observed messages seen = (results, after))
    (accepted : ∀ result ∈ results, ∃ count, result = .ok count) :
    ∃ more : Flight, ahead after.state.provider other (flight ++ more) ∧ more.plaintext = messages.flatten ∧
      (∀ pair ∈ more, pair.1 ≠ [] ∧ Record pair.2) ∧
      handedOver after.deeds = handedOver seen.deeds ++ more.wire := by
  induction messages generalizing flight seen results with
  | nil =>
    cases h
    refine ⟨[], ?_, rfl, nofun, (List.append_nil _).symm⟩
    rwa [List.append_nil]
  | cons data messages ih =>
    rcases first : session.send transport.beside.observed sender.beside.observed data seen with ⟨result, middle⟩
    rcases later : session.sendEach transport.beside.observed sender.beside.observed messages middle with
      ⟨others, last⟩
    rw [Session.sendEach, bind_of_eq first, bind_of_eq later] at h
    cases h
    obtain ⟨count, rfl⟩ := accepted result List.mem_cons_self
    obtain ⟨fits, used, record, next, encrypted, provider, sent⟩ := send_accepted established first
    obtain ⟨is, start⟩ := pair.encrypts start (nonempty data List.mem_cons_self) fits encrypted
    rw [← provider] at start
    obtain ⟨more, ahead, plain, records, wire⟩ := ih start
      (fun data mem => nonempty data (List.mem_cons_of_mem _ mem)) later
      (fun result mem => accepted result (List.mem_cons_of_mem _ mem))
    refine ⟨(data, Session.wireBytes (Session.written (Session.blank sizing data) record) used) :: more,
      ?_, ?_, ?_, ?_⟩
    · rwa [← List.append_cons] at ahead
    · rw [Flight.plaintext_cons, plain, List.flatten_cons]
    · intro pair mem
      cases List.mem_cons.mp mem with
      | inl same => exact same ▸ ⟨nonempty data List.mem_cons_self, is⟩
      | inr late => exact records pair late
    · rw [wire, sent, Flight.wire_cons, List.append_assoc]

end NetReactor
