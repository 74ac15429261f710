import NetReactor.Proofs.Session.Delimited
import NetReactor.Session.Channel
/-!
What a provider that takes one message at a time makes of a whole inbound stream. Reads play no part in it: a
conversation is determined by the provider and by the bytes.
-/
namespace NetReactor

variable {π : Type} {channel : SecureChannel π} {target : Option String} {Message : Bytes → Prop}
variable {provider next last : π} {message other input rest output : Bytes} {status : Status}

/-- The answer to a message depends on nothing that follows it but for the number of bytes left over. -/
def Answers (channel : SecureChannel π) (target : Option String) (provider : π) (message : Bytes)
    (status : Status) (output : Bytes) (next : π) : Prop :=
  status ≠ .incompleteMessage ∧ ∀ rest, ∃ extra : Option Nat, extra.getD 0 = rest.length ∧
    channel.handshakeStep target (some (message ++ rest)) provider = ({ status, output, extra }, next)

structure MessageWise (channel : SecureChannel π) (Message : Bytes → Prop) : Prop where
  delimited : Delimited Message
  incomplete : ∀ {target input} provider, Starved Message input →
    channel.handshakeStep target (some input) provider = ({ status := .incompleteMessage }, provider)
  complete : ∀ {message} target provider, Message message →
    ∃ status output next, Answers channel target provider message status output next

theorem Answers.unique {status' : Status} {output' : Bytes} {next' : π}
    (h : Answers channel target provider message status output next)
    (h' : Answers channel target provider message status' output' next') :
    status = status' ∧ output = output' ∧ next = next' := by
  obtain ⟨extra, -, answer⟩ := h.2 []
  obtain ⟨extra', -, answer'⟩ := h'.2 []
  rw [answer] at answer'
  cases answer'
  exact ⟨rfl, rfl, rfl⟩

inductive Ending where
  | starved
  | stopped (status : Status) (rest : Bytes)

inductive Conversation (channel : SecureChannel π) (target : Option String) (Message : Bytes → Prop) :
    π → Bytes → List Bytes → Bytes → Ending → π → Prop
  | starved {provider : π} {input : Bytes} (h : Starved Message input) :
    Conversation channel target Message provider input [] [] .starved provider
  | stopped {provider next : π} {message output : Bytes} {status : Status} (rest : Bytes)
    (is : Message message)
    (answers : Answers channel target provider message status output next)
    (ends : status ≠ .continueNeeded) :
    Conversation channel target Message provider (message ++ rest) [message] output (.stopped status rest)
      next
  | more {provider next last : π} {message output rest said : Bytes} {later : List Bytes}
    {ending : Ending} (is : Message message)
    (answers : Answers channel target provider message .continueNeeded output next)
    (h : Conversation channel target Message next rest later said ending last) :
    Conversation channel target Message provider (message ++ rest) (message :: later) (output ++ said)
      ending last

/-- A stream has one conversation. -/
theorem Conversation.unique (law : MessageWise channel Message) {later later' : List Bytes}
    {said said' : Bytes} {ending ending' : Ending} {last' : π}
    (h : Conversation channel target Message provider input later said ending last)
    (h' : Conversation channel target Message provider input later' said' ending' last') :
    later = later' ∧ said = said' ∧ ending = ending' ∧ last = last' := by
  -- A stream starts with one message at most, so both conversations take the same one.
  induction h generalizing later' said' with
  | starved h =>
    cases h' with
    | starved => exact ⟨rfl, rfl, rfl, rfl⟩
    | stopped rest is => exact absurd (List.prefix_append _ _) (h _ is)
    | more is => exact absurd (List.prefix_append _ _) (h _ is)
  | @stopped _ _ message _ _ rest is answers ends =>
    generalize whole : message ++ rest = input at h'
    cases h' with
    | starved h => exact absurd ⟨rest, whole⟩ (h _ is)
    | stopped rest' is' answers' =>
      obtain ⟨rfl, rfl⟩ := law.delimited.first_unique is is' whole
      obtain ⟨rfl, rfl, rfl⟩ := answers.unique answers'
      exact ⟨rfl, rfl, rfl, rfl⟩
    | more is' answers' =>
      obtain ⟨rfl, rfl⟩ := law.delimited.first_unique is is' whole
      exact absurd (answers.unique answers').1 ends
  | @more _ _ _ message _ rest _ _ _ is answers h ih =>
    generalize whole : message ++ rest = input at h'
    cases h' with
    | starved h => exact absurd ⟨rest, whole⟩ (h _ is)
    | stopped rest' is' answers' ends =>
      obtain ⟨rfl, rfl⟩ := law.delimited.first_unique is is' whole
      exact absurd (answers.unique answers').1.symm ends
    | more is' answers' h' =>
      obtain ⟨rfl, rfl⟩ := law.delimited.first_unique is is' whole
      obtain ⟨-, rfl, rfl⟩ := answers.unique answers'
      obtain ⟨rfl, rfl, rfl, rfl⟩ := ih h'
      exact ⟨rfl, rfl, rfl, rfl⟩

theorem Conversation.messages {later : List Bytes} {said : Bytes} {ending : Ending}
    (h : Conversation channel target Message provider input later said ending last) :
    ∀ message ∈ later, Message message := by
  induction h with
  | starved => nofun
  | stopped rest is => exact fun _ mem => List.mem_singleton.mp mem ▸ is
  | more is _ _ ih =>
    intro message mem
    cases List.mem_cons.mp mem with
    | inl first => exact first ▸ is
    | inr late => exact ih message late

inductive Dialogue (channel : SecureChannel π) (target : Option String) (Message : Bytes → Prop)
    (provider : π) (input : Bytes) : List Bytes → Bytes → Ending → π → Prop
  | stopped {answer : HandshakeStep} {next : π}
    (first : channel.handshakeStep target none provider = (answer, next))
    (ends : answer.status ≠ .continueNeeded ∧ answer.status ≠ .incompleteMessage) :
    Dialogue channel target Message provider input [] answer.output (.stopped answer.status input) next
  | more {answer : HandshakeStep} {next last : π} {later : List Bytes} {said : Bytes} {ending : Ending}
    (first : channel.handshakeStep target none provider = (answer, next))
    (waits : answer.status = .continueNeeded ∨ answer.status = .incompleteMessage)
    (h : Conversation channel target Message next input later said ending last) :
    Dialogue channel target Message provider input later (answer.output ++ said) ending last

theorem Dialogue.unique (law : MessageWise channel Message) {used used' : List Bytes}
    {said said' : Bytes} {ending ending' : Ending} {last' : π}
    (h : Dialogue channel target Message provider input used said ending last)
    (h' : Dialogue channel target Message provider input used' said' ending' last') :
    used = used' ∧ said = said' ∧ ending = ending' ∧ last = last' := by
  cases h with
  | stopped first ends =>
    cases h' with
    | stopped first' =>
      cases first.symm.trans first'
      exact ⟨rfl, rfl, rfl, rfl⟩
    | more first' waits =>
      cases first.symm.trans first'
      exact absurd waits (not_or.mpr ends)
  | more first waits h =>
    cases h' with
    | stopped first' ends =>
      cases first.symm.trans first'
      exact absurd waits (not_or.mpr ends)
    | more first' _ h' =>
      cases first.symm.trans first'
      obtain ⟨rfl, rfl, rfl, rfl⟩ := h.unique law h'
      exact ⟨rfl, rfl, rfl, rfl⟩

theorem Dialogue.messages {used : List Bytes} {said : Bytes} {ending : Ending}
    (h : Dialogue channel target Message provider input used said ending last) :
    ∀ message ∈ used, Message message := by
  cases h with
  | stopped => nofun
  | more _ _ h => exact h.messages

/-- The record sizes in the end, if the provider was done, and the provider after it was asked. -/
def Ending.sizing (channel : SecureChannel π) (last : π) :
    Ending → Except ChannelError RecordSizing × π
  | .stopped .done _ => channel.streamSizes last
  | _ => (.error .noContext, last)

end NetReactor
