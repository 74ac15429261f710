import NetReactor.Proofs.Session.Framed
import NetReactor.Proofs.Session.Rounds
/-!
A handshake with a provider that takes one message at a time. It follows the dialogue about the whole inbound
stream, so it does not matter how that stream is cut into reads, nor how the writes are cut.
-/
namespace NetReactor

variable {π τ : Type} {channel : SecureChannel π} {transport : Transport τ} {target : Option String}
variable {Message : Bytes → Prop} {unread : τ → Bytes} {seen : Observed (Sides π τ)}

inductive Agreed (unread : τ → Bytes) (after : Sides π τ) (ending : Ending) :
    Except ChannelError RecordSizing → Outcome Session.Agreement → Prop
  | agreed {sizing : RecordSizing} {carried : Bytes}
    (h : ending = .stopped .done (carried ++ unread after.stream)) :
    Agreed unread after ending (.ok sizing) (.ok { sizing, carried })
  | refused (reason : ChannelError) (failure : Error) :
    Agreed unread after ending (.error reason) (.error failure)

inductive Concluded (unread : τ → Bytes) (after : Sides π τ) (ending : Ending) :
    Except ChannelError RecordSizing → Outcome Unit → Session → Prop
  | established {sizing : RecordSizing} {session : Session} (stage : session.stage = .established)
    (sizes : session.sizing = some sizing)
    (stop : ending = .stopped .done (session.carried ++ unread after.stream)) :
    Concluded unread after ending (.ok sizing) (.ok ()) session
  | failed {reason : ChannelError} {session : Session} (stage : session.stage = .failed)
    (sizes : session.sizing = none) :
    Concluded unread after ending (.error reason) (.error .handshakeFailed) session

section

variable (law : MessageWise channel Message) (steady : Steady transport)
variable (delivers : Delivers transport unread)
include law steady delivers

/-- The exchange after the first step follows the dialogue that the step began. -/
theorem run_dialogue {budget : Nat} {answer : HandshakeStep} {provider : π}
    (h : Accumulates Message { pending := [], status := answer.status } seen)
    (first : channel.handshakeStep target none provider = (answer, seen.state.provider))
    (enough : 2 * (unread seen.state.stream).length + 2 ≤ budget) :
    ∃ result after used said ending,
      Exchange.run transport.beside.observed channel.beside.observed target budget
          { pending := [], status := answer.status } seen = some (result, after) ∧
        Dialogue channel target Message provider (unread seen.state.stream) used (answer.output ++ said) ending
          after.state.provider ∧
        ending.Is unread result after.state ∧ messages after.deeds = messages seen.deeds ++ used ∧
        handedOver after.deeds = handedOver seen.deeds ++ said ∧ ReadsStarved Message after.deeds := by
  cases waits : Exchange.isOpen { pending := [], status := answer.status } with
  | true =>
    have rounds : remaining unread { pending := [], status := answer.status } seen < budget := by
      simp only [remaining, List.length_nil]
      split <;> omega
    obtain ⟨result, after, used, said, ending, ran, converses, others⟩ := run_converses law steady delivers
      target h waits (fun _ => law.delimited.starved_nil) rounds
    simp only [Exchange.isOpen, Bool.or_eq_true, beq_iff_eq] at waits
    exact ⟨result, after, used, said, ending, ran, .more first waits converses, others⟩
  | false =>
    obtain ⟨budget, rfl⟩ := Nat.exists_eq_add_of_le' (Nat.le_trans (Nat.le_add_left 1 _) enough)
    have stop := run_over transport.beside.observed channel.beside.observed target waits budget seen
    simp only [Exchange.isOpen, Bool.or_eq_false_iff, beq_eq_false_iff_ne] at waits
    refine ⟨_, seen, [], [], .stopped answer.status (unread seen.state.stream), stop, ?_, ⟨_, rfl, rfl, rfl⟩, ?_,
      ?_, h.reads⟩
    · rw [List.append_nil]
      exact .stopped first waits
    · exact (List.append_nil _).symm
    · exact (List.append_nil _).symm

omit law steady delivers in
/-- Only the record sizes are asked for at the end of an exchange, if anything is. -/
theorem conclude_agreed (channel : SecureChannel π) (exchange : Exchange) (seen : Observed (Sides π τ))
    (ending : Ending)
    (stop : ending = .stopped exchange.status (exchange.pending ++ unread seen.state.stream)) :
    ∃ result after sized, Session.conclude channel.beside.observed exchange seen = (result, after) ∧
      Agreed unread after.state ending (ending.sizing channel seen.state.provider).1 result ∧
      after.state.provider = (ending.sizing channel seen.state.provider).2 ∧
      after.deeds = seen.deeds ++ sized ∧ (sized = [] ∨ ∃ answer, sized = [.sized answer]) := by
  subst stop
  by_cases done : exchange.status = .done
  · rw [Session.conclude, if_pos done, done, Ending.sizing]
    rcases asked : channel.streamSizes seen.state.provider with ⟨answer, next⟩
    rw [bind_of_eq (observed_sizes (beside_sizes asked))]
    cases answer with
    | error reason => exact ⟨_, _, _, rfl, .refused reason .handshakeFailed, rfl, rfl, .inr ⟨_, rfl⟩⟩
    | ok sizing => exact ⟨_, _, _, rfl, .agreed rfl, rfl, rfl, .inr ⟨_, rfl⟩⟩
  · rw [Session.conclude, if_neg done]
    have unasked : Ending.sizing channel seen.state.provider
        (.stopped exchange.status (exchange.pending ++ unread seen.state.stream)) =
          (.error .noContext, seen.state.provider) := by
      unfold Ending.sizing
      split
      · next same => exact absurd (Ending.stopped.inj same).1 done
      · rfl
    rw [unasked]
    exact ⟨_, _, [], rfl, .refused .noContext .handshakeFailed, rfl, (List.append_nil _).symm, .inl rfl⟩

theorem exchangeTokens_dialogue {budget : Nat} (session : Session) (new : session.carried = [])
    (provider : π) (stream : τ) (enough : 2 * (unread stream).length + 2 ≤ budget) :
    ∃ result after used said ending last,
      session.exchangeTokens transport.beside.observed channel.beside.observed budget
        { state := { provider, stream } } =
        some (result, after) ∧
        Dialogue channel session.context.hostname Message provider (unread stream) used said ending last ∧
        Agreed unread after.state ending (ending.sizing channel last).1 result ∧
        after.state.provider = (ending.sizing channel last).2 ∧ messages after.deeds = used ∧
        handedOver after.deeds = said ∧ ReadsStarved Message after.deeds := by
  rcases first : channel.handshakeStep session.context.hostname none provider with ⟨answer, next⟩
  obtain ⟨middle, sent, stepped⟩ := stepped_sendAll steady delivers none answer next
    ({ state := { provider, stream } } : Observed (Sides π τ))
  have none : ReadsStarved Message [] := fun early _ _ _ late split => by simp at split
  have accumulates : Accumulates Message { pending := [], status := answer.status } middle := by
    refine ⟨rfl, List.cons_ne_nil _ _, ?_, stepped.reads none⟩
    rw [stepped.received, stepped.messages]
    rfl
  obtain ⟨result, inside, used, said, ending, ran, dialogue, is, used', said', reads⟩ :=
    run_dialogue law steady delivers accumulates (stepped.provider ▸ first) (stepped.unread ▸ enough)
  rw [stepped.messages] at used'
  rw [stepped.sent] at said'
  have begun : session.exchangeTokens transport.beside.observed channel.beside.observed budget
      { state := { provider, stream } } =
      match result with
      | .error failure => some (.error failure, inside)
      | .ok exchange => some (Session.conclude channel.beside.observed exchange inside) := by
    rw [Session.exchangeTokens, lift_bind_of_eq (observed_step (beside_step first)), lift_bind_of_eq sent]
    dsimp only
    rw [new, budgeted_bind_of_eq ran]
    cases result <;> rfl
  rw [stepped.unread] at dialogue
  cases ending with
  | starved =>
    obtain rfl : result = .error .socketClosed := is
    exact ⟨_, inside, used, _, .starved, inside.state.provider, begun, dialogue, .refused .noContext .socketClosed,
      rfl, used', said', reads⟩
  | stopped status rest =>
    obtain ⟨exchange, rfl, rfl, stop⟩ := is
    obtain ⟨result, last, sized, concluded, agreed, provider', deeds, told⟩ :=
      conclude_agreed channel exchange inside (.stopped exchange.status rest) (by rw [stop])
    have silent : messages sized = [] ∧ handedOver sized = [] ∧ ∀ deed ∈ sized, deed.isRead = false := by
      obtain rfl | ⟨answer, rfl⟩ := told
      · exact ⟨rfl, rfl, nofun⟩
      · exact ⟨rfl, rfl, by simp [Deed.isRead]⟩
    refine ⟨result, last, used, _, _, inside.state.provider, begun.trans (congrArg some concluded), dialogue,
      agreed, provider', ?_, ?_, deeds ▸ reads.append silent.2.2⟩
    · rw [deeds, messages_append, used', silent.1, List.append_nil]
      rfl
    · rw [deeds, handedOver_append, said', silent.2.1, List.append_nil]
      rfl

theorem handshake_dialogue (context : Context) (provider : π) (stream : τ) {budget : Nat}
    (enough : 2 * (unread stream).length + 2 ≤ budget) :
    ∃ result session after used said ending last,
      Session.handshake transport.beside.observed channel.beside.observed budget { context, credentials := true }
        { state := { provider, stream } } = some ((result, session), after) ∧
        Dialogue channel context.hostname Message provider (unread stream) used said ending last ∧
        Concluded unread after.state ending (ending.sizing channel last).1 result session ∧
        after.state.provider = (ending.sizing channel last).2 ∧ messages after.deeds = used ∧
        handedOver after.deeds = said ∧ ReadsStarved Message after.deeds := by
  obtain ⟨result, after, used, said, ending, last, ran, dialogue, agreed, others⟩ :=
    exchangeTokens_dialogue law steady delivers
      { context, credentials := true, stage := .exchanging } rfl provider stream enough
  have begun : Session.handshake transport.beside.observed channel.beside.observed budget
      { context, credentials := true } { state := { provider, stream } } = _ := budgeted_bind_of_eq ran
  generalize sizing : (ending.sizing channel last).1 = answer at agreed
  cases agreed with
  | agreed stop =>
    exact ⟨_, _, after, used, said, ending, last, begun, dialogue, sizing ▸ .established rfl rfl stop, others⟩
  | refused =>
    exact ⟨_, _, after, used, said, ending, last, begun, dialogue, sizing ▸ .failed rfl rfl, others⟩

end

theorem Concluded.stage {ending : Ending} {answer : Except ChannelError RecordSizing}
    {result : Outcome Unit} {session : Session} {after : Sides π τ}
    (h : Concluded unread after ending answer result session) :
    result = .ok () ∧ session.stage = .established ∨
      result = .error .handshakeFailed ∧ session.stage = .failed := by
  cases h with
  | established stage => exact .inl ⟨rfl, stage⟩
  | failed stage => exact .inr ⟨rfl, stage⟩

structure SameHandshake {τ τ' : Type} (unread : τ → Bytes) (unread' : τ' → Bytes)
    (session session' : Session) (after : Observed (Sides π τ)) (after' : Observed (Sides π τ')) : Prop where
  stage : session.stage = session'.stage
  sizing : session.sizing = session'.sizing
  provider : after.state.provider = after'.state.provider
  messages : messages after.deeds = messages after'.deeds
  sent : handedOver after.deeds = handedOver after'.deeds
  carried : session.stage = .established →
    session.carried ++ unread after.state.stream = session'.carried ++ unread' after'.state.stream

theorem Concluded.same {τ τ' : Type} {unread : τ → Bytes} {unread' : τ' → Bytes} {ending : Ending}
    {answer : Except ChannelError RecordSizing} {result result' : Outcome Unit}
    {session session' : Session} {after : Sides π τ} {after' : Sides π τ'}
    (h : Concluded unread after ending answer result session)
    (h' : Concluded unread' after' ending answer result' session') :
    result = result' ∧ session.stage = session'.stage ∧ session.sizing = session'.sizing ∧
      (session.stage = .established →
        session.carried ++ unread after.stream = session'.carried ++ unread' after'.stream) := by
  cases h with
  | established stage sizes stop =>
    cases h' with
    | established stage' sizes' stop' =>
      have rest := stop.symm.trans stop'
      exact ⟨rfl, stage.trans stage'.symm, sizes.trans sizes'.symm, fun _ => (Ending.stopped.inj rest).2⟩
  | failed stage sizes =>
    cases h' with
    | failed stage' sizes' =>
      exact ⟨rfl, stage.trans stage'.symm, sizes.trans sizes'.symm,
        fun established => nomatch stage.symm.trans established⟩

/-- The handshake of a new session comes to the same however its stream is cut, on both ways: it is the
dialogue about the whole stream that tells how it ends. It uses up the same messages of the stream and reads
only for want of one. -/
theorem handshake_ignores_cuts {τ τ' : Type} (law : MessageWise channel Message)
    {one : Transport τ} {other : Transport τ'} {unread : τ → Bytes} {unread' : τ' → Bytes}
    (steady : Steady one) (delivers : Delivers one unread)
    (steady' : Steady other) (delivers' : Delivers other unread')
    (context : Context) (provider : π) (stream : τ) (stream' : τ') (same : unread stream = unread' stream')
    (budget budget' : Nat) (enough : 2 * (unread stream).length + 2 ≤ budget)
    (enough' : 2 * (unread stream).length + 2 ≤ budget') :
    ∃ result session session' after after' ending last,
      Session.handshake one.beside.observed channel.beside.observed budget { context, credentials := true }
        { state := { provider, stream } } = some ((result, session), after) ∧
      Session.handshake other.beside.observed channel.beside.observed budget' { context, credentials := true }
        { state := { provider, stream := stream' } } = some ((result, session'), after') ∧
      Dialogue channel context.hostname Message provider (unread stream) (messages after.deeds)
        (handedOver after.deeds) ending last ∧
      Concluded unread after.state ending (ending.sizing channel last).1 result session ∧
      (result = .ok () ∧ session.stage = .established ∨
        result = .error .handshakeFailed ∧ session.stage = .failed) ∧
      SameHandshake unread unread' session session' after after' ∧
      (∀ message ∈ messages after.deeds, Message message) ∧
      ReadsStarved Message after.deeds ∧ ReadsStarved Message after'.deeds := by
  obtain ⟨result, session, after, used, said, ending, last, ran, dialogue, concluded, provider₁, messages₁,
    sent₁, reads₁⟩ := handshake_dialogue law steady delivers context provider stream enough
  rw [same] at dialogue enough'
  obtain ⟨result', session', after', used', said', ending', last', ran', dialogue', concluded', provider₂,
    messages₂, sent₂, reads₂⟩ := handshake_dialogue law steady' delivers' context provider stream' enough'
  obtain ⟨rfl, rfl, rfl, rfl⟩ := dialogue.unique law dialogue'
  obtain ⟨rfl, stage, sizing, carried⟩ := concluded.same concluded'
  refine ⟨result, session, session', after, after', ending, last, ran, ran', ?_, concluded, concluded.stage,
    ?_, ?_, reads₁, reads₂⟩
  · rwa [messages₁, sent₁, same]
  · exact ⟨stage, sizing, provider₁.trans provider₂.symm, messages₁.trans messages₂.symm,
      sent₁.trans sent₂.symm, carried⟩
  · rw [messages₁]
    exact dialogue.messages

def wholeFlight : Pieces := { unread := frame [7, 8] ++ (frame [9] ++ [5]), cuts := [5], room := 9 }

def cutFlight : Pieces := { wholeFlight with cuts := [0, 0, 0, 0, 0, 0], room := 0 }

/-- Either way the handshake is done after two messages. -/
theorem handshake_ignores_cuts_framed :
    MessageWise framed IsFrame ∧ Steady pieces ∧ Delivers pieces Pieces.unread ∧
      wholeFlight.unread = cutFlight.unread ∧ 2 * wholeFlight.unread.length + 2 ≤ 14 ∧
      ∃ session session' after after',
        Session.handshake pieces.beside.observed framed.beside.observed 14
          { context := Context.client "host", credentials := true }
          { state := { provider := 0, stream := wholeFlight } } =
            some ((.ok (), session), after) ∧
        Session.handshake pieces.beside.observed framed.beside.observed 14
          { context := Context.client "host", credentials := true }
          { state := { provider := 0, stream := cutFlight } } =
            some ((.ok (), session'), after') ∧
        SameHandshake Pieces.unread Pieces.unread session session' after after' ∧
        ReadsStarved IsFrame after.deeds ∧ ReadsStarved IsFrame after'.deeds := by
  obtain ⟨result, session, session', after, after', -, -, ran, ran', -, -, ends, same, -, reads, reads'⟩ :=
    handshake_ignores_cuts messageWise_framed steady_pieces delivers_pieces steady_pieces delivers_pieces
      (Context.client "host") 0 wholeFlight cutFlight rfl 14 14 (by decide) (by decide)
  have established : (Session.handshake pieces.beside.observed framed.beside.observed 14
      { context := Context.client "host", credentials := true }
      ({ state := { provider := 0, stream := wholeFlight } } : Observed (Sides Nat Pieces))).map (·.1.2.stage) =
        some .established := by decide +kernel
  rw [ran] at established
  obtain ⟨rfl, -⟩ | ⟨-, failed⟩ := ends
  · exact ⟨messageWise_framed, steady_pieces, delivers_pieces, rfl, by decide, session, session', after,
      after', ran, ran', same, reads, reads'⟩
  · exact nomatch failed.symm.trans (Option.some.inj established)

end NetReactor
