import NetReactor.Proofs.Session.Exchanging
import NetReactor.Proofs.Session.Reading
/-!
What the provider of a handshake is given, and what the peer. An input is what the step before it left unused, with
what was received since; a token is on the wire before anything else is done. The provider and the stream may
answer as they like.
-/
namespace NetReactor

variable {σ : Type} {transport : Transport σ} {channel : SecureChannel σ} {session : Session}
variable {exchange : Exchange} {outcome : Outcome Exchange} {start data input rest : Bytes}
variable {past early late deeds writes : List Deed} {deed : Deed} {result : Outcome Unit} {rounds : Nat}

/-- How many bytes at the end of its input a step left unused, if it gave a number that is possible. -/
def HandshakeStep.unused? (step : HandshakeStep) (input : Bytes) : Option Nat :=
  step.extra.filter fun extra => 0 < extra && extra ≤ input.length

def HandshakeStep.retained (step : HandshakeStep) (input : Bytes) : Bytes :=
  match step.unused? input with
  | some unused => input.drop (input.length - unused)
  | none => if step.status = .incompleteMessage then input else []

theorem HandshakeStep.retained_suffix (step : HandshakeStep) (input : Bytes) : step.retained input <:+ input := by
  unfold retained
  split
  · exact List.drop_suffix _ _
  · split
    · exact List.suffix_rfl
    · exact List.nil_suffix

namespace Exchange

theorem settle_status (exchange : Exchange) (step : HandshakeStep) :
    (exchange.settle step).status = step.status := by
  have whole : (settle.settleWhole exchange step).status = step.status := by
    unfold settle.settleWhole
    split <;> rfl
  unfold settle
  split
  · dsimp only
    split
    · rfl
    · exact whole
  · exact whole

theorem settle_pending (exchange : Exchange) (step : HandshakeStep) :
    (exchange.settle step).pending = step.retained exchange.pending := by
  have whole : (settle.settleWhole exchange step).pending =
      if step.status = .incompleteMessage then exchange.pending else [] := by
    unfold settle.settleWhole
    split <;> rfl
  cases given : step.extra with
  | none =>
    have none : step.unused? exchange.pending = none := by rw [HandshakeStep.unused?, given, Option.filter_none]
    rw [HandshakeStep.retained, none, settle, given]
    exact whole
  | some unused =>
    rw [settle, given]
    by_cases possible : 0 < unused ∧ unused ≤ exchange.pending.length
    · have some : step.unused? exchange.pending = some unused := by
        simp [HandshakeStep.unused?, given, possible]
      rw [HandshakeStep.retained, some]
      dsimp only
      rw [if_pos possible]
    · have none : step.unused? exchange.pending = none := by
        simpa [HandshakeStep.unused?, given] using possible
      rw [HandshakeStep.retained, none]
      dsimp only
      rw [if_neg possible]
      exact whole

end Exchange

def Deed.gathers (gathered : Bytes) : Deed → Bytes
  | .received _ (.ok count) left => gathered ++ left.take count
  | .stepped (some input) answer => answer.retained input
  | _ => gathered

def gathered (start : Bytes) (past : List Deed) : Bytes := past.foldl Deed.gathers start

def Deed.leavesUnsent (unsent : Bytes) : Deed → Bytes
  | .stepped _ answer => answer.output
  | .sent _ (.ok count) => unsent.drop count
  | _ => unsent

def unsent (past : List Deed) : Bytes := past.foldl Deed.leavesUnsent []

def Deed.isVain : Deed → Bool
  | .sent _ (.ok (_ + 1)) | .received _ (.ok (_ + 1)) _ => false
  | .sent .. | .received .. => true
  | _ => false

theorem arrived_stepped {input : Option Bytes} {answer : HandshakeStep} :
    arrived (.stepped input answer :: deeds) = arrived deeds := rfl

@[simp] theorem gathered_append : gathered start (early ++ late) = gathered (gathered start early) late :=
  List.foldl_append

@[simp] theorem unsent_append : unsent (early ++ [deed]) = deed.leavesUnsent (unsent early) := by
  rw [unsent, List.foldl_append]
  rfl

theorem gathered_eq (sent : ∀ deed ∈ deeds, deed.isSent = true) : gathered start deeds = start := by
  induction deeds with
  | nil => rfl
  | cons deed deeds ih =>
    have first := sent deed List.mem_cons_self
    cases deed <;> first | exact ih fun deed mem => sent deed (List.mem_cons_of_mem _ mem) | cases first

/-- After a step, and while its token is sent, the next input is what the step retained. -/
theorem gathered_stepped {answer : HandshakeStep} (sent : ∀ deed ∈ deeds, deed.isSent = true) :
    gathered start (past ++ .stepped (some input) answer :: deeds) = answer.retained input := by
  rw [gathered_append]
  exact gathered_eq sent

/-- Whether a deed is due: the provider is given what was gathered, and nothing but the rest of a token is sent
before all of it is on the wire. -/
def Awaited (start : Bytes) (past : List Deed) : Deed → Prop
  | .stepped none _ => past = []
  | .stepped (some input) _ =>
    unsent past = [] ∧ input = gathered start past ∧ input <:+ start ++ arrived past
  | .sent data _ => data = unsent past ∧ data ≠ []
  | .received .. | .sized _ => unsent past = []
  | _ => False

structure InPlace (start : Bytes) (past : List Deed) (deed : Deed) : Prop where
  going : ∀ earlier ∈ past, earlier.isVain = false
  awaited : Awaited start past deed

namespace Pours

variable (h : Pours data result writes rest)
include h

theorem unsent_eq (waiting : unsent past = data) : unsent (past ++ writes) = rest := by
  induction h generalizing past with
  | done => rwa [List.append_nil]
  | failed => rwa [unsent_append]
  | stuck => rwa [unsent_append]
  | @more data rest count result writes _ _ _ ih =>
    rw [List.append_cons]
    apply ih
    rw [unsent_append, waiting]
    rfl

/-- A write in vain is the last one, and ends the handshake. -/
theorem vain : ∀ deed ∈ writes, deed.isVain = true → result ≠ .ok () := by
  induction h with
  | done => simp
  | failed => simp
  | stuck => simp
  | @more data rest count _ _ _ took _ ih =>
    refine List.forall_mem_cons.mpr ⟨fun vain => ?_, ih⟩
    obtain ⟨count, rfl⟩ := Nat.exists_eq_succ_of_ne_zero took
    cases vain

theorem broken {failure : Error} (failed : result = .error failure) : ∃ deed ∈ writes, deed.isVain = true := by
  induction h with
  | done => cases failed
  | failed => exact ⟨_, List.mem_singleton_self _, rfl⟩
  | stuck => exact ⟨_, List.mem_singleton_self _, rfl⟩
  | more _ _ _ ih => exact (ih failed).imp fun _ found => ⟨List.mem_cons_of_mem _ found.1, found.2⟩

theorem inPlace (going : ∀ deed ∈ past, deed.isVain = false) (waiting : unsent past = data) :
    Throughout (InPlace start) past writes := by
  induction h generalizing past with
  | done => trivial
  | failed some => exact ⟨⟨going, waiting.symm, some⟩, trivial⟩
  | stuck some => exact ⟨⟨going, waiting.symm, some⟩, trivial⟩
  | @more data rest count _ _ some took _ ih =>
    obtain ⟨count, rfl⟩ := Nat.exists_eq_succ_of_ne_zero took
    refine ⟨⟨going, waiting.symm, some⟩, ih ?_ ?_⟩
    · exact List.forall_mem_append.mpr ⟨going, List.forall_mem_singleton.mpr rfl⟩
    · rw [unsent_append, waiting]
      rfl

end Pours

structure Clear (past : List Deed) : Prop where
  going : ∀ deed ∈ past, deed.isVain = false
  sent : unsent past = []

/-- A step is followed by its token, which is sent as a whole unless a write is in vain. -/
theorem InPlace.token {answer : HandshakeStep} {asked : Option Bytes}
    (step : InPlace start past (.stepped asked answer)) (pours : Pours answer.output result writes rest) :
    Throughout (InPlace start) past (.stepped asked answer :: writes) ∧
      (result = .ok () → Clear (past ++ .stepped asked answer :: writes)) ∧
      (∀ failure, result = .error failure → ∃ deed ∈ past ++ .stepped asked answer :: writes, deed.isVain = true) := by
  have going : ∀ deed ∈ past ++ [.stepped asked answer], deed.isVain = false :=
    List.forall_mem_append.mpr ⟨step.going, List.forall_mem_singleton.mpr rfl⟩
  have output : unsent (past ++ [.stepped asked answer]) = answer.output := unsent_append
  refine ⟨⟨step, pours.inPlace going output⟩, fun ok => ?_, fun failure failed => ?_⟩
  · rw [List.append_cons]
    constructor
    case going =>
      refine List.forall_mem_append.mpr ⟨going, fun deed mem => ?_⟩
      exact Bool.eq_false_iff.mpr fun vain => pours.vain deed mem vain ok
    case sent => rw [pours.unsent_eq output, pours.ok_iff.mp ok]
  · obtain ⟨deed, mem, vain⟩ := pours.broken failed
    exact ⟨deed, List.mem_append_right _ (List.mem_cons_of_mem _ mem), vain⟩

structure Exchange.Gathers (start : Bytes) (past : List Deed) (exchange : Exchange) : Prop where
  clear : Clear past
  pending : exchange.pending = gathered start past
  suffix : exchange.pending <:+ start ++ arrived past

def LastStep (start : Bytes) (past : List Deed) (status : Status) (left : Bytes) : Prop :=
  ∃ early input answer writes, past = early ++ .stepped input answer :: writes ∧
    Pours answer.output (.ok ()) writes [] ∧ answer.status = status ∧
    left = input.elim start answer.retained

def Reaches (start : Bytes) (past : List Deed) : Outcome Exchange → Prop
  | .ok exchange => exchange.Gathers start past ∧ LastStep start past exchange.status exchange.pending
  | .error _ => ∃ deed ∈ past, deed.isVain = true

namespace Exchange.Gathers

theorem fed {count : Nat} {scratch left : Bytes} (h : exchange.Gathers start past) (some : count ≠ 0) :
    (exchange.fed count left).Gathers start (past ++ [.received scratch (.ok count) left]) where
  clear := by
    obtain ⟨count, rfl⟩ := Nat.exists_eq_succ_of_ne_zero some
    refine ⟨List.forall_mem_append.mpr ⟨h.clear.going, List.forall_mem_singleton.mpr rfl⟩, ?_⟩
    rw [unsent_append, h.clear.sent]
    rfl
  pending := by
    rw [gathered_append, ← h.pending]
    rfl
  suffix := by
    obtain ⟨before, same⟩ := h.suffix
    refine ⟨before, ?_⟩
    rw [arrived_append, ← List.append_assoc start, ← same, List.append_assoc]
    exact congrArg _ (congrArg _ (List.append_nil _).symm)

/-- A step is given all that was gathered. What it retains is the end of that, and of all that has arrived. -/
theorem feeds (h : exchange.Gathers start past) (feeds : exchange.Feeds deeds outcome) :
    Throughout (InPlace start) past deeds ∧ Reaches start (past ++ deeds) outcome := by
  have step (answer : HandshakeStep) : InPlace start past (.stepped (some exchange.pending) answer) :=
    ⟨h.clear.going, h.clear.sent, h.pending, h.suffix⟩
  cases feeds with
  | @fed answer writes pours =>
    obtain ⟨inPlace, clear, -⟩ := (step answer).token pours
    have pending := exchange.settle_pending answer
    refine ⟨inPlace, ⟨clear rfl, ?_, ?_⟩, past, _, answer, writes, rfl, pours,
      (exchange.settle_status answer).symm, pending⟩
    · rw [gathered_stepped pours.isSent, pending]
    · rw [pending, arrived_append, arrived_stepped, arrived_eq_nil pours.isSent, List.append_nil]
      exact (answer.retained_suffix _).trans h.suffix
  | @broken answer failure _ _ pours =>
    obtain ⟨inPlace, -, vain⟩ := (step answer).token pours
    exact ⟨inPlace, vain failure rfl⟩

theorem advances (h : exchange.Gathers start past) (advances : exchange.Advances deeds outcome) :
    Throughout (InPlace start) past deeds ∧ Reaches start (past ++ deeds) outcome := by
  have read (result : Outcome Nat) (left : Bytes) :
      InPlace start past (.received exchange.scratch result left) := ⟨h.clear.going, h.clear.sent⟩
  cases advances with
  | ready _ feeds => exact h.feeds feeds
  | @read count left deeds outcome _ some feeds =>
    obtain ⟨later, reaches⟩ := (h.fed some).feeds feeds
    rw [List.append_cons]
    exact ⟨⟨read _ _, later⟩, reaches⟩
  | closed => exact ⟨⟨read _ _, trivial⟩, _, List.mem_append_right _ (List.mem_singleton_self _), rfl⟩
  | failed => exact ⟨⟨read _ _, trivial⟩, _, List.mem_append_right _ (List.mem_singleton_self _), rfl⟩

end Exchange.Gathers

theorem Exchange.Proceeds.reaches (h : Proceeds rounds exchange deeds outcome)
    (start : Bytes) (past : List Deed) (reaches : Reaches start past (.ok exchange)) :
    Throughout (InPlace start) past deeds ∧ Reaches start (past ++ deeds) outcome := by
  induction h generalizing past with
  | start =>
    rw [List.append_nil]
    exact ⟨trivial, reaches⟩
  | ended =>
    rw [List.append_nil]
    exact ⟨trivial, reaches⟩
  | broken _ advances => exact reaches.1.advances advances
  | more _ advances _ ih =>
    obtain ⟨first, between⟩ := reaches.1.advances advances
    obtain ⟨later, last⟩ := ih _ between
    rw [← List.append_assoc]
    exact ⟨first.append later, last⟩

structure Gathers (start : Bytes) (deeds : List Deed) : Prop where
  first : deeds = [] ∨ ∃ answer late, deeds = .stepped none answer :: late
  inPlace : Throughout (InPlace start) [] deeds
  sent : (∀ deed ∈ deeds, deed.isVain = false) → unsent deeds = []

theorem Session.Follows.reaches (h : Follows rounds session deeds outcome) :
    Gathers session.carried deeds ∧ Reaches session.carried deeds outcome := by
  have first (answer : HandshakeStep) : InPlace session.carried [] (.stepped none answer) := ⟨by simp, rfl⟩
  -- Where it ended for good, a deed was in vain, and then a token may be left.
  have sent {deeds : List Deed} (reaches : Reaches session.carried deeds outcome)
      (none : ∀ deed ∈ deeds, deed.isVain = false) : unsent deeds = [] := by
    cases outcome with
    | ok => exact reaches.1.clear.sent
    | error =>
      obtain ⟨deed, mem, vain⟩ := reaches
      cases (none deed mem).symm.trans vain
  cases h with
  | @broken answer failure writes _ pours =>
    obtain ⟨inPlace, -, vain⟩ := (first answer).token pours
    exact ⟨⟨.inr ⟨answer, writes, rfl⟩, inPlace, sent (vain failure rfl)⟩, vain failure rfl⟩
  | @begun answer writes deeds _ pours proceeds =>
    obtain ⟨inPlace, clear, -⟩ := (first answer).token pours
    have begun : Reaches session.carried (.stepped none answer :: writes)
        (.ok { pending := session.carried, status := answer.status }) := by
      refine ⟨⟨clear rfl, (gathered_eq pours.isSent).symm, ?_⟩, [], none, answer, writes, rfl, pours, rfl, rfl⟩
      simp [arrived_stepped, arrived_eq_nil pours.isSent]
    obtain ⟨later, reaches⟩ := proceeds.reaches _ _ begun
    exact ⟨⟨.inr ⟨answer, writes ++ deeds, rfl⟩, inPlace.append later, sent reaches⟩, reaches⟩

/-- After its rounds a handshake asks for nothing but the record sizes, and what it leaves is carried. -/
theorem Session.Ends.gathers {closing : List Deed} {answer : Outcome Unit × Session}
    (h : session.Ends outcome closing answer) (gathers : Gathers start deeds) (reaches : Reaches start deeds outcome) :
    Gathers start (deeds ++ closing) ∧
      (answer.1 = .ok () → ∃ sizing, closing = [.sized (.ok sizing)] ∧
        LastStep start deeds .done answer.2.carried) := by
  have sizes (answer : Except ChannelError RecordSizing) (exchange : Exchange)
      (reaches : Reaches start deeds (.ok exchange)) : Gathers start (deeds ++ [.sized answer]) := by
    constructor
    case first =>
      obtain ⟨-, early, input, step, writes, rfl, -⟩ := reaches
      obtain none | ⟨answer, late, same⟩ := gathers.first
      · simp at none
      · exact .inr ⟨answer, late ++ [.sized _], by rw [same]; rfl⟩
    case inPlace => exact gathers.inPlace.append ⟨⟨reaches.1.clear.going, reaches.1.clear.sent⟩, trivial⟩
    case sent =>
      intro _
      rw [unsent_append, reaches.1.clear.sent]
      rfl
  cases h with
  | broken => exact ⟨(List.append_nil deeds).symm ▸ gathers, nofun⟩
  | rejected => exact ⟨(List.append_nil deeds).symm ▸ gathers, nofun⟩
  | unsized => exact ⟨sizes _ _ reaches, nofun⟩
  | @agreed exchange sizing done =>
    refine ⟨sizes _ _ reaches, fun _ => ⟨sizing, rfl, ?_⟩⟩
    rw [← done]
    exact reaches.2

/-- Whatever the provider and the stream answer, each input of a handshake is the retained end of the one before
it, with what was received since, and each token is handed over before anything else is done. This is so as far as
a handshake is followed, whether it comes to an end or not; a handshake that succeeds carries what its last step
retained. -/
theorem handshake_gathers (transport : Transport σ) (channel : SecureChannel σ) (session : Session) (budget : Nat)
    (state : σ) :
    ∃ outcome middle,
      session.follow transport.observed channel.observed budget { state } = (outcome, middle) ∧
      Gathers session.carried middle.deeds ∧
      ∀ answer after, session.handshake transport channel budget state = some (answer, after) →
        ∃ deeds, Session.Shakes transport channel session state budget answer after deeds ∧
          (deeds = [] ∨ middle.deeds <+: deeds) ∧ Gathers session.carried deeds ∧
          (answer.1 = .ok () → ∃ past sizing, deeds = past ++ [.sized (.ok sizing)] ∧
            LastStep session.carried past .done answer.2.carried) := by
  obtain ⟨deeds, outcome, middle, followed, follows⟩ :=
    Session.follows_follow transport channel budget session { state }
  rw [List.nil_append] at followed
  obtain ⟨gathers, reaches⟩ := follows.reaches
  refine ⟨outcome, _, followed, gathers, fun answer after shaken => ?_⟩
  obtain ⟨stage, credentials⟩ | idle := session.started_or_idle
  · obtain ⟨outcome', middle', closing, followed', -, ends, shakes⟩ :=
      Session.shakes_of_handshake stage credentials shaken
    cases followed.symm.trans followed'
    obtain ⟨all, leaves⟩ := ends.gathers gathers reaches
    refine ⟨deeds ++ closing, shakes, .inr (List.prefix_append _ _), all, fun ok => ?_⟩
    obtain ⟨sizing, rfl, last⟩ := leaves ok
    exact ⟨deeds, sizing, rfl, last⟩
  · have shakes := Session.shakes_idle idle transport channel budget state
    cases shakes.plain.symm.trans shaken
    exact ⟨[], shakes, .inl rfl, ⟨.inl rfl, trivial, fun _ => rfl⟩, nofun⟩

structure Cues where
  steps : List HandshakeStep := []
  reads : List (Outcome Nat × Bytes) := []

def cued : SecureChannel Cues where
  acquireCredentials _ := pure (.ok ())
  handshakeStep _ _ := fun cues =>
    (cues.steps.headD { status := .error }, { cues with steps := cues.steps.tail })
  streamSizes := pure (.ok ⟨1, 1, 16⟩)
  encrypt record := pure (.error .noContext, record)
  decrypt message := pure ({ status := .error }, message)
  shutdownToken := pure (.error .noContext)

def cuedStream : Transport Cues where
  send data := pure (.ok (min 2 data.length))
  recv buffer := fun cues =>
    (cues.reads.headD (.ok 0, buffer), { cues with reads := cues.reads.tail })
  close := pure ()

def wavering : Cues where
  steps := [{ status := .continueNeeded, output := [9, 9, 9] },
    { status := .incompleteMessage, extra := some 7 }, { status := .continueNeeded, extra := some 5 },
    { status := .continueNeeded, extra := some 2, output := [8] }, { status := .done, extra := some 1 }]
  reads := [(.ok 2, [4, 5]), (.ok 1, [6])]

def leftOver : Session := { context := Context.client "host", credentials := true, carried := [1, 2, 3] }

def Deed.input? : Deed → Option Bytes
  | .stepped input _ => input
  | _ => none

theorem handshake_gathers_wavering : ∃ next after deeds,
    Session.Shakes cuedStream cued leftOver wavering 5 (.ok (), next) after deeds ∧
      Gathers leftOver.carried deeds ∧ handedOver deeds = [9, 9, 9, 8] ∧ next.carried = [6] ∧
      deeds.filterMap Deed.input? = [[1, 2, 3], [1, 2, 3, 4, 5], [1, 2, 3, 4, 5, 6], [5, 6]] := by
  have plain : (leftOver.handshake cuedStream cued 5 wavering).map
      (fun ended => (ended.1.1, ended.1.2.carried)) = some (.ok (), [6]) := by decide +kernel
  have observed : (leftOver.handshake cuedStream.observed cued.observed 5 { state := wavering }).map
      (fun ended => (handedOver ended.2.deeds, ended.2.deeds.filterMap Deed.input?)) =
    some ([9, 9, 9, 8], [[1, 2, 3], [1, 2, 3, 4, 5], [1, 2, 3, 4, 5, 6], [5, 6]]) := by decide +kernel
  obtain ⟨⟨⟨result, next⟩, after⟩, shaken, same⟩ := Option.map_eq_some_iff.mp plain
  simp only [Prod.mk.injEq] at same
  obtain ⟨rfl, carried⟩ := same
  obtain ⟨_, _, _, _, ended⟩ := handshake_gathers cuedStream cued leftOver 5 wavering
  obtain ⟨deeds, shakes, -, gathers, -⟩ := ended _ _ shaken
  rw [shakes.observed] at observed
  simp only [Option.map_some, Option.some.injEq, Prod.mk.injEq] at observed
  exact ⟨next, after, deeds, shakes, gathers, observed.1, carried, observed.2⟩

end NetReactor
