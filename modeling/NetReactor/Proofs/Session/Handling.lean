import NetReactor.Proofs.Session.Exchanging
import NetReactor.Proofs.Session.Receipts
/-!
Any calls on a session, one after another, and all that is asked of the provider and of the stream for each of them.
A call goes in one of a few ways, whatever these answer, and what it leaves of the session is what the next one
begins with.
-/
namespace NetReactor

variable {σ : Type} {transport : Transport σ} {channel : SecureChannel σ} {session next : Session}
variable {state after : σ} {seen last : Observed σ} {deeds : List Deed}

namespace Session

def parted (session : Session) : Session := { session with stage := .notStarted, sizing := none }

inductive Departs (session : Session) : List Deed → Session → Prop
  | idle (unestablished : session.stage ≠ .established) : Departs session [.closed] session
  | tokenless {reason : ChannelError} (established : session.stage = .established) :
    Departs session [.token (.error reason), .closed] session.parted
  | farewell {token rest : Bytes} {result : Outcome Unit} {writes : List Deed}
    (established : session.stage = .established) (pours : Pours token result writes rest) :
    Departs session (.token (.ok token) :: (writes ++ [.closed])) session.parted

theorem departs_close (session : Session) (seen : Observed σ) :
    ∃ deeds next state,
      session.close transport.observed channel.observed seen =
        (next, { state, deeds := seen.deeds ++ deeds }) ∧ session.Departs deeds next := by
  by_cases stage : session.stage = .established
  · have established : session.isEstablished = true := by simp [isEstablished, stage]
    rcases asked : channel.shutdownToken seen.state with ⟨answer, middle⟩
    rw [close, if_pos established, bind_of_eq (observed_token asked)]
    cases answer with
    | error reason =>
      refine ⟨[.token (.error reason), .closed], session.parted, (transport.close middle).2, ?_, .tokenless stage⟩
      exact (bind_of_eq (observed_close rfl)).trans (by rw [List.append_assoc]; rfl)
    | ok token =>
      obtain ⟨result, writes, rest, later, poured, pours⟩ := pours_sendAll transport token
        { state := middle, deeds := seen.deeds ++ [.token (.ok token)] }
      refine ⟨.token (.ok token) :: (writes ++ [.closed]), session.parted, (transport.close later).2, ?_,
        .farewell stage pours⟩
      dsimp only
      rw [bind_of_eq poured]
      exact (bind_of_eq (observed_close rfl)).trans (by simp only [List.append_assoc]; rfl)
  · have unestablished : ¬ session.isEstablished = true := by simp [isEstablished, stage]
    rw [close, if_neg unestablished]
    exact ⟨_, session, (transport.close seen.state).2, bind_of_eq (observed_close rfl), .idle stage⟩

theorem mirrors_close (session : Session) :
    Mirrors (session.close transport.observed channel.observed) (session.close transport channel) := by
  unfold close
  split
  · refine .bind (.note _ _) fun token => ?_
    cases token with
    | error => exact .bind (.note _ _) fun _ => .pure _
    | ok token => exact .bind (mirrors_sendAll _ _) fun _ => .bind (.note _ _) fun _ => .pure _
  · exact .bind (.note _ _) fun _ => .pure _

end Session

structure Handling where
  before : Session
  request : Session.Request
  answer : Session.Answer
  deeds : List Deed
  after : Session

namespace Handling

def view (handling : Handling) : Session.View := ⟨handling.answer, handling.after.stage, handling.after.sizing⟩

inductive Goes : Handling → Prop
  | unstarted {before : Session} {budget : Nat} {failure : Error}
    (idle : before.stage ≠ .notStarted ∨ before.credentials = false) :
    Goes ⟨before, .handshake budget, .shaken (.error failure), [], before⟩
  | shaken {before after : Session} {budget : Nat} {outcome : Outcome Exchange} {result : Outcome Unit}
    {deeds closing : List Deed} (stage : before.stage = .notStarted) (credentials : before.credentials = true)
    (follows : before.Follows budget deeds outcome) (ended : Exchange.Ended outcome)
    (ends : before.Ends outcome closing (result, after)) :
    Goes ⟨before, .handshake budget, .shaken result, deeds ++ closing, after⟩
  | unsent {before : Session} {data : Bytes} {failure : Error} (unready : before.establishedSizing = .error failure) :
    Goes ⟨before, .send data, .sent (.error failure), [], before⟩
  | sent {before : Session} {sizing : RecordSizing} {sending : Sending} (stage : before.stage = .established)
    (sized : before.sizing = some sizing) (goes : sending.Goes sizing) :
    Goes ⟨before, .send sending.data, .sent sending.answer, sending.deeds, before⟩
  | received {receipt : Receipt} (goes : receipt.Goes) :
    Goes ⟨receipt.before, .recv receipt.buffer, .received receipt.received.result receipt.received.buffer,
      receipt.deeds, receipt.received.session⟩
  | closed {before after : Session} {deeds : List Deed} (departs : before.Departs deeds after) :
    Goes ⟨before, .close, .closed, deeds, after⟩

end Handling

namespace Session

theorem goes_handshake {budget : Nat} {result : Outcome Unit}
    (h : session.handshake transport.observed channel.observed budget seen = some ((result, next), last)) :
    ∃ deeds, last.deeds = seen.deeds ++ deeds ∧
      Handling.Goes ⟨session, .handshake budget, .shaken result, deeds, next⟩ := by
  obtain ⟨stage, credentials⟩ | idle := session.started_or_idle
  · rw [handshake_eq stage credentials] at h
    obtain ⟨⟨agreement, _⟩, exchanged, same⟩ := Option.map_eq_some_iff.mp h
    obtain ⟨outcome, middle, followed, ended, agreed⟩ := follow_of_exchangeTokens exchanged
    obtain ⟨deeds, outcome', between, followed', follows⟩ :=
      follows_follow transport channel budget session seen
    cases followed.symm.trans followed'
    obtain ⟨closing, agreement', final, agreed', ends⟩ := ends_agree channel session outcome
      { state := between, deeds := seen.deeds ++ deeds }
    cases agreed.symm.trans agreed'
    have answered : session.shaken agreement = (result, next) := congrArg Prod.fst same
    rw [answered] at ends
    obtain rfl := congrArg Prod.snd same
    exact ⟨deeds ++ closing, List.append_assoc _ _ _, .shaken stage credentials follows ended ends⟩
  · rw [handshake_idle idle] at h
    cases h
    exact ⟨[], (List.append_nil _).symm, .unstarted idle⟩

/-- However the provider and the stream answer, a call goes in one of these ways. -/
theorem goes_answer {request : Request} {answer : Answer}
    (h : session.answer transport.observed channel.observed request seen = some ((answer, next), last)) :
    ∃ deeds, last.deeds = seen.deeds ++ deeds ∧ Handling.Goes ⟨session, request, answer, deeds, next⟩ := by
  cases request with
  | handshake budget =>
    obtain ⟨⟨⟨result, left⟩, middle⟩, shaken, same⟩ := Option.bind_eq_some_iff.mp h
    cases same
    exact goes_handshake shaken
  | send data =>
    cases ready : session.establishedSizing with
    | error failure =>
      rw [Session.answer, send, ready] at h
      cases h
      exact ⟨[], (List.append_nil _).symm, .unsent ready⟩
    | ok sizing =>
      obtain ⟨stage, sized⟩ := establishedSizing_ok ready
      obtain ⟨sending, state, sent, rfl, goes⟩ :=
        @goes_send _ transport channel _ _ stage sized data seen
      rw [Session.answer, lift_bind_of_eq sent] at h
      cases h
      exact ⟨sending.deeds, rfl, .sent stage sized goes⟩
  | recv buffer =>
    obtain ⟨receipt, state, ran, rfl, rfl, goes⟩ := @goes_recv _ transport channel session buffer seen
    rw [Session.answer, lift_bind_of_eq ran] at h
    cases h
    exact ⟨receipt.deeds, rfl, .received goes⟩
  | close =>
    obtain ⟨deeds, left, state, ran, departs⟩ := @departs_close _ transport channel session seen
    rw [Session.answer, lift_bind_of_eq ran] at h
    cases h
    exact ⟨deeds, rfl, .closed departs⟩

theorem mirrors_handshake (budget : Nat) (session : Session) :
    MirrorsRun (session.handshake transport.observed channel.observed budget)
      (session.handshake transport channel budget) := by
  unfold handshake
  split
  · refine .bind (mirrors_exchangeTokens budget _) fun result => ?_
    cases result <;> exact .pure _
  · exact .pure _
  · exact .pure _

theorem mirrors_answer (session : Session) (request : Request) :
    MirrorsRun (session.answer transport.observed channel.observed request)
      (session.answer transport channel request) := by
  cases request with
  | handshake budget => exact .bind (mirrors_handshake budget session) fun _ => .pure _
  | send data => exact .bind (.lift (mirrors_send session data)) fun _ => .pure _
  | recv buffer => exact .bind (.lift (mirrors_recv session buffer)) fun _ => .pure _
  | close => exact .bind (.lift (mirrors_close session)) fun _ => .pure _

theorem mirrors_converse (session : Session) (requests : List Request) :
    MirrorsRun (session.converse transport.observed channel.observed requests)
      (session.converse transport channel requests) := by
  induction requests generalizing session with
  | nil => exact .pure _
  | cons request requests ih =>
    exact .bind (mirrors_answer session request) fun answered => .bind (ih answered.2) fun _ => .pure _

end Session

def Chained : Session → List Handling → Prop
  | _, [] => True
  | session, handling :: handlings =>
    handling.before = session ∧ handling.Goes ∧ Chained handling.after handlings

def Session.leftBy (session : Session) (handlings : List Handling) : Session :=
  handlings.foldl (fun _ handling => handling.after) session

namespace Chained

variable {handlings earlier later : List Handling}

theorem split (h : Chained session (earlier ++ later)) :
    Chained session earlier ∧ Chained (session.leftBy earlier) later := by
  induction earlier generalizing session with
  | nil => exact ⟨trivial, h⟩
  | cons handling earlier ih =>
    obtain ⟨rfl, goes, chained⟩ := h
    obtain ⟨first, rest⟩ := ih chained
    exact ⟨⟨rfl, goes, first⟩, rest⟩

theorem goes (h : Chained session handlings) : ∀ handling ∈ handlings, handling.Goes := by
  induction handlings generalizing session with
  | nil => simp
  | cons handling handlings ih => exact List.forall_mem_cons.mpr ⟨h.2.1, ih h.2.2⟩

end Chained

structure Handles (transport : Transport σ) (channel : SecureChannel σ) (session : Session)
    (requests : List Session.Request) (seen : Observed σ) (handlings : List Handling) (last : Observed σ) : Prop where
  observed : session.converse transport.observed channel.observed requests seen =
    some (handlings.map Handling.view, last)
  deeds : last.deeds = seen.deeds ++ handlings.flatMap (·.deeds)
  requests : handlings.map (·.request) = requests
  chained : Chained session handlings

namespace Handles

variable {request : Session.Request} {requests : List Session.Request} {answer : Session.Answer}
variable {middle : Observed σ} {handlings : List Handling}

theorem nil (session : Session) (seen : Observed σ) : Handles transport channel session [] seen [] seen where
  observed := rfl
  deeds := (List.append_nil _).symm
  requests := rfl
  chained := trivial

theorem cons (answered : session.answer transport.observed channel.observed request seen =
      some ((answer, next), middle)) (done : middle.deeds = seen.deeds ++ deeds)
    (rest : Handles transport channel next requests middle handlings last) :
    Handles transport channel session (request :: requests) seen
      (⟨session, request, answer, deeds, next⟩ :: handlings) last where
  observed := by
    rw [Session.converse, budgeted_bind_of_eq answered]
    dsimp only
    rw [budgeted_bind_of_eq rest.observed]
    rfl
  deeds := by rw [rest.deeds, done, List.flatMap_cons, List.append_assoc]
  requests := congrArg _ rest.requests
  chained := by
    obtain ⟨deeds', done', goes⟩ := Session.goes_answer answered
    obtain rfl := List.append_cancel_left (done.symm.trans done')
    exact ⟨rfl, goes, rest.chained⟩

end Handles

theorem handles_converse {requests : List Session.Request} {views : List Session.View}
    (h : session.converse transport.observed channel.observed requests seen = some (views, last)) :
    ∃ handlings, Handles transport channel session requests seen handlings last ∧
      views = handlings.map Handling.view := by
  induction requests generalizing session seen views with
  | nil =>
    cases h
    exact ⟨[], .nil session _, rfl⟩
  | cons request requests ih =>
    obtain ⟨⟨⟨answer, next⟩, middle⟩, answered, h⟩ := Option.bind_eq_some_iff.mp h
    obtain ⟨⟨later, _⟩, conversed, same⟩ := Option.bind_eq_some_iff.mp h
    cases same
    obtain ⟨deeds, done, -⟩ := Session.goes_answer answered
    obtain ⟨handlings, rest, rfl⟩ := ih conversed
    exact ⟨_, .cons answered done rest, rfl⟩

structure Handled (transport : Transport σ) (channel : SecureChannel σ) (session : Session)
    (requests : List Session.Request) (state : σ) (handlings : List Handling) (after : σ) : Prop where
  plain : session.converse transport channel requests state = some (handlings.map Handling.view, after)
  observed : session.converse transport.observed channel.observed requests { state } =
    some (handlings.map Handling.view, { state := after, deeds := handlings.flatMap (·.deeds) })
  requests : handlings.map (·.request) = requests
  chained : Chained session handlings

theorem Handles.handled {requests : List Session.Request} {handlings : List Handling}
    (h : Handles transport channel session requests { state } handlings last) :
    Handled transport channel session requests state handlings last.state where
  plain := by
    have mirrored := @Session.mirrors_converse _ transport channel session requests { state }
    rw [h.observed] at mirrored
    exact mirrored.symm
  observed := by
    have done := h.deeds
    rw [List.nil_append] at done
    rw [h.observed, ← done]
  requests := h.requests
  chained := h.chained

/-- All calls that come to an end can be accounted for. -/
theorem handled_converse {requests : List Session.Request} {views : List Session.View}
    (h : session.converse transport channel requests state = some (views, after)) :
    ∃ handlings, Handled transport channel session requests state handlings after ∧
      views = handlings.map Handling.view := by
  rw [← @Session.mirrors_converse _ transport channel session requests { state }] at h
  obtain ⟨⟨_, last⟩, observed, same⟩ := Option.map_eq_some_iff.mp h
  cases same
  obtain ⟨handlings, handles, same⟩ := handles_converse observed
  exact ⟨handlings, handles.handled, same⟩

end NetReactor
