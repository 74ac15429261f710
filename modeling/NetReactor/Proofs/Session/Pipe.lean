import NetReactor.Proofs.Session.Handling
import NetReactor.Proofs.Session.OneRecord
/-!
A session over plaintext is a pipe. Data goes to the stream as it is, and what is received is what the stream gives:
its bytes, its failures and its end, each of them once and in order. The stream may answer as it likes.
-/
namespace NetReactor

variable {τ : Type} {transport : Transport τ} {session : Session} {data buffer rest held chunk : Bytes}
variable {result : Outcome Unit} {writes deeds : List Deed} {handling : Handling} {handlings : List Handling}

inductive Signal where
  | byte (byte : UInt8)
  | failed (failure : Error)
  | ended
deriving DecidableEq

def heard : Outcome Nat → Bytes → List Signal
  | .ok 0, _ => [.ended]
  | .ok (count + 1), buffer => (buffer.take (count + 1)).map .byte
  | .error failure, _ => [.failed failure]

def Deed.signals : Deed → List Signal
  | .received _ result left => heard result left
  | _ => []

def Session.Answer.signals : Session.Answer → List Signal
  | .received result buffer => heard result buffer
  | _ => []

theorem heard_ok {count : Nat} (some : count ≠ 0) : heard (.ok count) buffer = (buffer.take count).map .byte := by
  obtain ⟨count, rfl⟩ := Nat.exists_eq_succ_of_ne_zero some
  rfl

/-- A read that gives no bytes tells one thing, whatever is in the buffer. -/
theorem heard_vain {result : Outcome Nat} (vain : ∀ count, result = .ok count → count = 0) :
    ∃ signal, ∀ buffer, heard result buffer = [signal] := by
  cases result with
  | error failure => exact ⟨.failed failure, fun _ => rfl⟩
  | ok count =>
    obtain rfl := vain count rfl
    exact ⟨.ended, fun _ => rfl⟩

theorem Pours.signals (h : Pours data result writes rest) : writes.flatMap Deed.signals = [] := by
  refine List.flatMap_eq_nil_iff.mpr fun deed mem => ?_
  have sent := h.isSent deed mem
  cases deed with
  | sent => rfl
  | _ => cases sent

namespace Plaintext

def sizing : RecordSizing := ⟨0, 0, maxMessage⟩

theorem opens_decrypt (some : chunk ≠ []) : Opens (decrypt chunk) chunk chunk [] := by
  have whole : chunk.slice? 0 chunk.length = .some chunk := by
    simpa using Bytes.slice?_append [] chunk []
  rw [decrypt, if_neg (by simpa using some)]
  constructor
  case done => rfl
  case data => exact ⟨⟨.data, 0, chunk.length⟩, rfl, whole⟩
  case extra => simp
  case covered => simp

theorem wireBytes_blank (data : Bytes) :
    Session.wireBytes (Session.written (Session.blank sizing data) (Session.blank sizing data)) 0 = data := by
  simp [Session.wireBytes, Session.written, Session.blank, sizing, Bytes.overlay, Bytes.zeros]

end Plaintext

namespace Session

def piped (context : Context) (held : Bytes) : Session :=
  { granted context with stage := .established, sizing := some Plaintext.sizing, held }

theorem establishedSizing_piped (context : Context) (held : Bytes) :
    (piped context held).establishedSizing = .ok Plaintext.sizing := rfl

/-- The provider is done at once, and then knows the record sizes if it has a side to play. -/
theorem agrees_plaintext {sides : Sides (Option Role) τ} {role : Role} (plays : sides.provider = some role)
    (target : Option String) :
    ∃ middle after, Plaintext.channel.beside.handshakeStep target none sides = ({ status := .done }, middle) ∧
      Plaintext.channel.beside.streamSizes middle = (.ok Plaintext.sizing, after) := by
  obtain ⟨provider, stream⟩ := sides
  subst plays
  exact ⟨_, _, rfl, rfl⟩

/-- The handshake is over after its first step, and the stream is left alone. -/
theorem handshake_granted (context : Context) (budget : Nat) {seen : Observed (Sides (Option Role) τ)} {role : Role}
    (plays : seen.state.provider = some role) :
    ∃ state, (granted context).handshake transport.beside.observed Plaintext.channel.beside.observed (budget + 1)
        seen = some ((.ok (), piped context []),
          { state, deeds := seen.deeds ++ [.stepped none { status := .done }, .sized (.ok Plaintext.sizing)] }) := by
  obtain ⟨middle, after, step, sizes⟩ := agrees_plaintext plays (granted context).context.hostname
  refine ⟨after, ?_⟩
  rw [handshake_eq rfl rfl, exchangeTokens, lift_bind_of_eq (observed_step step),
    lift_bind_of_eq (sendAll_nil transport.beside.observed _)]
  dsimp only
  rw [budgeted_bind_of_eq (run_over _ _ _ rfl _ _)]
  have agreed : conclude Plaintext.channel.beside.observed { pending := [], status := .done }
      { state := middle, deeds := seen.deeds ++ [.stepped none { status := .done }] } =
        (.ok ⟨Plaintext.sizing, []⟩, { state := after, deeds := seen.deeds ++
          [.stepped none { status := .done }, .sized (.ok Plaintext.sizing)] }) := by
    rw [conclude, if_pos rfl, bind_of_eq (observed_sizes sizes), List.append_assoc]
    rfl
  exact (congrArg (Option.map _) (congrArg some agreed)).trans rfl

end Session

structure Puts (data : Bytes) (answer : Outcome Nat) (deeds : List Deed) : Prop where
  long : Plaintext.maxMessage < data.length → answer = .error .sendFailed ∧ deeds = []
  fits : data.length ≤ Plaintext.maxMessage → ∃ writes,
    deeds = .encrypted ⟨[], data, []⟩ (.ok 0) ⟨[], data, []⟩ :: writes ∧ Transmits data data.length answer writes
  -- However the stream cuts the data, all of it goes there unless a write fails.
  whole : data.length ≤ Plaintext.maxMessage → (∀ deed ∈ deeds, deed.failure? = none) →
    answer = .ok data.length ∧ handedOver deeds = data

theorem Pours.whole (h : Pours data result writes rest) (going : ∀ deed ∈ writes, deed.failure? = none) :
    result = .ok () ∧ handedOver writes = data := by
  cases result with
  | ok => exact ⟨rfl, by rw [← h.split, h.ok_iff.mp rfl, List.append_nil]⟩
  | error failure =>
    obtain ⟨deed, mem, failed⟩ := h.failure_iff.mp rfl
    cases (going deed mem).symm.trans failed

namespace Session

theorem puts_send (context : Context) (held data : Bytes) (seen : Observed (Sides (Option Role) τ)) :
    ∃ answer deeds state,
      (piped context held).send transport.beside.observed Plaintext.channel.beside.observed data seen =
        (answer, { state, deeds := seen.deeds ++ deeds }) ∧
      Puts data answer deeds ∧ deeds.flatMap Deed.signals = [] := by
  rw [send, establishedSizing_piped]
  dsimp only
  by_cases long : Plaintext.sizing.maxMessage < data.length
  · rw [if_pos long]
    exact ⟨_, [], seen.state, by rw [List.append_nil]; rfl,
      ⟨fun _ => ⟨rfl, rfl⟩, fun fits => absurd long (Nat.not_lt.mpr fits),
        fun fits => absurd long (Nat.not_lt.mpr fits)⟩, rfl⟩
  · obtain ⟨middle, asked⟩ : ∃ middle, Plaintext.channel.beside.encrypt (blank Plaintext.sizing data) seen.state =
        ((.ok 0, blank Plaintext.sizing data), middle) := ⟨_, rfl⟩
    obtain ⟨result, writes, rest, state, poured, pours⟩ := pours_sendAll transport.beside data
      { state := middle
        deeds := seen.deeds ++ [.encrypted (blank Plaintext.sizing data) (.ok 0) (blank Plaintext.sizing data)] }
    rw [if_neg long, bind_of_eq (observed_encrypt asked)]
    dsimp only
    rw [Plaintext.wireBytes_blank, bind_of_eq poured, List.append_assoc]
    refine ⟨result.map fun _ => data.length, _, state, ?_, ⟨fun _ => absurd ‹_› long,
      fun _ => ⟨writes, rfl, pours.transmits data.length⟩, fun _ going => ?_⟩, pours.signals⟩
    · cases result <;> rfl
    · obtain ⟨rfl, taken⟩ := pours.whole (List.forall_mem_cons.mp going).2
      exact ⟨rfl, taken⟩

end Session

def Transport.Fills (transport : Transport τ) : Prop := ∀ buffer, Session.Yields (transport.recv buffer)
  fun answer => ∀ count, answer.1 = .ok count → count ≤ answer.2.length

structure Gets (handling : Handling) (buffer : Bytes) (result : Outcome Nat) (left : Bytes) : Prop where
  answer : handling.answer = .received result left
  tells : heard result left ≠ []
  -- A failure and the end are those of a read, which is made when nothing is held.
  vain : (∀ count, result = .ok count → count = 0) → handling.before.held = [] ∧ left = buffer ∧
    ∃ scratch, handling.deeds = [.received (Bytes.zeros Session.chunk) result scratch]

/-- What a call tells comes from what was held and from what it reads, and the rest of that is held. -/
def Handling.Conserves (handling : Handling) : Prop :=
  handling.answer.signals ++ handling.after.held.map .byte =
    handling.before.held.map .byte ++ handling.deeds.flatMap Deed.signals

namespace Session

/-- What is held is told as far as there is room for it. -/
theorem heard_deliver (room : buffer ≠ []) (waiting : session.held ≠ []) :
    heard (session.deliver buffer).result (session.deliver buffer).buffer ++
        (session.deliver buffer).session.held.map .byte = session.held.map .byte ∧
      heard (session.deliver buffer).result (session.deliver buffer).buffer ≠ [] := by
  have some : min session.held.length buffer.length ≠ 0 := by
    have held := List.length_pos_iff.mpr waiting
    have space := List.length_pos_iff.mpr room
    omega
  have told : heard (session.deliver buffer).result (session.deliver buffer).buffer =
      (session.deliver buffer).given.map .byte := heard_ok some
  constructor
  · rw [told, ← List.map_append, ← deliver_given]
  · have length : (session.deliver buffer).buffer.length = buffer.length := Bytes.length_overlay _ _
    rw [told, Ne, List.map_eq_nil_iff, Received.given]
    exact List.ne_nil_of_length_pos (by simp [Session.deliver]; omega)

/-- All that was read is one record, and its plaintext is what was read. -/
theorem decryptCarried_plaintext (context : Context) (some : chunk ≠ []) (buffer : Bytes)
    (seen : Observed (Sides (Option Role) τ)) :
    ∃ state, decryptCarried Plaintext.channel.beside.observed { piped context [] with carried := chunk } buffer seen =
      (.ended ((piped context chunk).deliver buffer),
        { state, deeds := seen.deeds ++ [.decrypted chunk (Plaintext.decrypt chunk) chunk] }) := by
  obtain ⟨state, asked⟩ : ∃ state, Plaintext.channel.beside.decrypt chunk seen.state =
      ((Plaintext.decrypt chunk, chunk), state) := ⟨_, rfl⟩
  have opens := Plaintext.opens_decrypt some
  have given := @accept_opens (piped context []) _ _ _ _ opens some rfl buffer
  refine ⟨state, ?_⟩
  rw [decryptCarried, bind_of_eq (observed_decrypt asked)]
  dsimp only
  rw [opens.done, Bytes.overlay_eq_of_length_eq rfl]
  exact congrArg (fun received => (Attempt.ended received, _)) given

inductive Draws (context : Context) (buffer : Bytes) : Bytes → List Deed → Received → Prop
  | held {held : Bytes} (waiting : held ≠ []) : Draws context buffer held [] ((piped context held).deliver buffer)
  | vain {result : Outcome Nat} {left : Bytes} (vain : ∀ count, result = .ok count → count = 0) :
    Draws context buffer [] [.received (Bytes.zeros Session.chunk) result left]
      { result, buffer, session := piped context [] }
  | filled {count : Nat} {left : Bytes} (some : left.take count ≠ []) :
    Draws context buffer [] [.received (Bytes.zeros Session.chunk) (.ok count) left,
        .decrypted (left.take count) (Plaintext.decrypt (left.take count)) (left.take count)]
      ((piped context (left.take count)).deliver buffer)

theorem draws_recv (fills : transport.Fills) (room : buffer ≠ []) (context : Context) (held : Bytes)
    (seen : Observed (Sides (Option Role) τ)) :
    ∃ deeds received state,
      (piped context held).recv transport.beside.observed Plaintext.channel.beside.observed buffer seen =
        (received, { state, deeds := seen.deeds ++ deeds }) ∧ Draws context buffer held deeds received := by
  rw [recv, establishedSizing_piped]
  dsimp only
  rw [List.isEmpty_eq_false_iff.mpr room, if_neg Bool.false_ne_true]
  by_cases waiting : held = []
  · subst waiting
    have untried : ((piped context []).carried.isEmpty || (piped context []).carriedIncomplete) = true := rfl
    rcases asked : transport.recv (Bytes.zeros Session.chunk) seen.state.stream with ⟨⟨result, left⟩, next⟩
    rw [if_neg (by simp [piped]), if_pos untried, receiveMore, bind_of_eq (observed_recv (beside_recv asked))]
    cases result with
    | error failure => exact ⟨_, _, _, rfl, .vain fun _ same => by cases same⟩
    | ok count =>
      cases count with
      | zero => exact ⟨_, _, _, rfl, .vain fun _ same => (Except.ok.inj same).symm⟩
      | succ count =>
        -- Nothing is carried on a pipe, so that what was read is decrypted by itself.
        have reported := fills (Bytes.zeros Session.chunk) seen.state.stream
        rw [asked] at reported
        have enough : count + 1 ≤ left.length := reported _ rfl
        have some : left.take (count + 1) ≠ [] := List.ne_nil_of_length_pos (by simp; omega)
        obtain ⟨state, tried⟩ := decryptCarried_plaintext context some buffer { state := _, deeds := _ }
        rw [List.append_assoc] at tried
        exact ⟨_, _, state, bind_of_eq tried, .filled some⟩
  · rw [if_pos (by simp [piped, waiting])]
    exact ⟨[], _, seen.state, by rw [List.append_nil]; rfl, .held waiting⟩

theorem Draws.leaves {context : Context} {received : Received} (h : Draws context buffer held deeds received) :
    ∃ held', received.session = piped context held' := by
  cases h with
  | held => exact ⟨_, rfl⟩
  | vain => exact ⟨_, rfl⟩
  | filled => exact ⟨_, rfl⟩

theorem Draws.conserves {context : Context} {received : Received} (h : Draws context buffer held deeds received)
    (room : buffer ≠ []) : Handling.Conserves ⟨piped context held, .recv buffer,
      .received received.result received.buffer, deeds, received.session⟩ := by
  unfold Handling.Conserves
  cases h with
  | held waiting => exact (heard_deliver room waiting).1.trans (List.append_nil _).symm
  | vain none =>
    obtain ⟨signal, tells⟩ := heard_vain none
    simp [Session.Answer.signals, Deed.signals, piped, tells]
  | @filled count left some =>
    have count_ne : count ≠ 0 := by
      rintro rfl
      exact some rfl
    refine (heard_deliver room some).1.trans ?_
    simp [Deed.signals, heard_ok count_ne, piped]

theorem Draws.gets {context : Context} {received : Received} (h : Draws context buffer held deeds received)
    (room : buffer ≠ []) : Gets ⟨piped context held, .recv buffer, .received received.result received.buffer, deeds,
      received.session⟩ buffer received.result received.buffer := by
  have given {waiting : Bytes} (some : waiting ≠ [])
      (vain : ∀ count, ((piped context waiting).deliver buffer).result = .ok count → count = 0) : False := by
    have none := vain _ rfl
    have held := List.length_pos_iff.mpr some
    have space := List.length_pos_iff.mpr room
    simp only [piped] at none
    omega
  cases h with
  | held waiting => exact ⟨rfl, (heard_deliver room waiting).2, fun vain => (given waiting vain).elim⟩
  | vain none =>
    obtain ⟨signal, tells⟩ := heard_vain none
    exact ⟨rfl, by simp [tells], fun _ => ⟨rfl, rfl, _, rfl⟩⟩
  | filled some => exact ⟨rfl, (heard_deliver room some).2, fun vain => (given some vain).elim⟩

end Session

def Session.Request.IsTraffic : Session.Request → Prop
  | .send _ => True
  | .recv buffer => buffer ≠ []
  | _ => False

def Session.Request.isRecv : Session.Request → Bool
  | .recv _ => true
  | _ => false

structure Handling.Relays (handling : Handling) : Prop where
  conserves : handling.Conserves
  puts : ∀ data, handling.request = .send data →
    ∃ answer, handling.answer = .sent answer ∧ Puts data answer handling.deeds
  gets : ∀ buffer, handling.request = .recv buffer → ∃ result left, Gets handling buffer result left

namespace Session

theorem relays_answer (fills : transport.Fills) (context : Context) (held : Bytes) {request : Request}
    (traffic : request.IsTraffic) (seen : Observed (Sides (Option Role) τ)) :
    ∃ answer deeds held' last,
      (piped context held).answer transport.beside.observed Plaintext.channel.beside.observed request seen =
        some ((answer, piped context held'), last) ∧ last.deeds = seen.deeds ++ deeds ∧
      Handling.Relays ⟨piped context held, request, answer, deeds, piped context held'⟩ := by
  cases request with
  | handshake => exact traffic.elim
  | send data =>
    obtain ⟨answer, deeds, state, sent, puts, silent⟩ := @puts_send _ transport context held data seen
    refine ⟨.sent answer, deeds, held, { state, deeds := seen.deeds ++ deeds }, ?_, rfl, ?_, ?_, by simp⟩
    · rw [Session.answer, lift_bind_of_eq sent]
      rfl
    · simp [Handling.Conserves, Session.Answer.signals, silent]
    · intro _ same
      cases same
      exact ⟨answer, rfl, puts⟩
  | recv buffer =>
    obtain ⟨deeds, received, state, ran, draws⟩ := draws_recv fills traffic context held seen
    obtain ⟨held', left⟩ := draws.leaves
    have conserves := draws.conserves traffic
    have gets := draws.gets traffic
    rw [left] at conserves gets
    refine ⟨.received received.result received.buffer, deeds, held', { state, deeds := seen.deeds ++ deeds }, ?_, rfl,
      conserves, by simp, ?_⟩
    · rw [Session.answer, lift_bind_of_eq ran, ← left]
      rfl
    · intro _ same
      cases same
      exact ⟨_, _, gets⟩
  | close => exact traffic.elim

theorem relays_converse (fills : transport.Fills) (context : Context) (held : Bytes) {requests : List Request}
    (traffic : ∀ request ∈ requests, request.IsTraffic) (seen : Observed (Sides (Option Role) τ)) :
    ∃ handlings last, Handles transport.beside Plaintext.channel.beside (piped context held) requests seen
      handlings last ∧ ∀ handling ∈ handlings, handling.Relays := by
  induction requests generalizing held seen with
  | nil => exact ⟨[], seen, .nil _ seen, by simp⟩
  | cons request requests ih =>
    obtain ⟨first, later⟩ := List.forall_mem_cons.mp traffic
    obtain ⟨answer, deeds, held', middle, answered, done, relays⟩ := relays_answer fills context held first seen
    obtain ⟨handlings, last, handles, rest⟩ := ih held' later middle
    exact ⟨_, last, .cons answered done handles, List.forall_mem_cons.mpr ⟨relays, rest⟩⟩

end Session

def signalsOut (handlings : List Handling) : List Signal := handlings.flatMap (·.answer.signals)

def signalsIn (handlings : List Handling) : List Signal := (handlings.flatMap (·.deeds)).flatMap Deed.signals

/-- What the calls tell is what the stream told them, as far as it is not held yet. -/
theorem Chained.signals (h : Chained session handlings) (relays : ∀ handling ∈ handlings, handling.Relays) :
    signalsOut handlings ++ (session.leftBy handlings).held.map .byte =
      session.held.map .byte ++ signalsIn handlings := by
  induction handlings generalizing session with
  | nil => simp [signalsOut, signalsIn, Session.leftBy]
  | cons handling handlings ih =>
    obtain ⟨rfl, -, chained⟩ := h
    obtain ⟨first, later⟩ := List.forall_mem_cons.mp relays
    have rest := ih chained later
    have split : signalsOut (handling :: handlings) = handling.answer.signals ++ signalsOut handlings :=
      List.flatMap_cons
    have both : signalsIn (handling :: handlings) = handling.deeds.flatMap Deed.signals ++ signalsIn handlings := by
      simp [signalsIn]
    calc
      _ = handling.answer.signals ++ (handling.after.held.map .byte ++ signalsIn handlings) := by
        rw [split, List.append_assoc]
        exact congrArg _ rest
      _ = _ := by rw [← List.append_assoc, first.conserves, both, List.append_assoc]

structure Pipes (handlings : List Handling) : Prop where
  relays : ∀ handling ∈ handlings, handling.Relays
  -- At each point the calls have told what the stream told them but for some bytes at the end.
  signals : ∀ earlier handling later, handlings = earlier ++ handling :: later →
    signalsOut earlier ++ handling.before.held.map .byte = signalsIn earlier
  -- A failure and the end are told when all that was read before has been told.
  level : ∀ earlier handling later buffer result left, handlings = earlier ++ handling :: later →
    handling.request = .recv buffer → handling.answer = .received result left →
      (∀ count, result = .ok count → count = 0) → signalsOut earlier = signalsIn earlier
  -- What the stream tells is told in the end: in as many calls at most as it is bytes, failures and ends.
  complete : ∀ coming rest, signalsIn handlings <+: coming ++ rest →
    coming.length ≤ handlings.countP (·.request.isRecv) → coming <+: signalsOut handlings

/-- Each receive tells something. -/
theorem countP_isRecv_le (relays : ∀ handling ∈ handlings, handling.Relays) :
    handlings.countP (·.request.isRecv) ≤ (signalsOut handlings).length := by
  induction handlings with
  | nil => simp
  | cons handling handlings ih =>
    obtain ⟨first, later⟩ := List.forall_mem_cons.mp relays
    have rest := ih later
    have one : (if handling.request.isRecv then 1 else 0) ≤ handling.answer.signals.length := by
      cases asked : handling.request with
      | recv buffer =>
        obtain ⟨result, left, gets⟩ := first.gets buffer asked
        rw [gets.answer]
        exact List.length_pos_iff.mpr gets.tells
      | _ => exact Nat.zero_le _
    rw [List.countP_cons, signalsOut, List.flatMap_cons, List.length_append]
    exact Nat.add_comm _ _ ▸ Nat.add_le_add one rest

theorem Chained.pipes (h : Chained session handlings) (empty : session.held = [])
    (relays : ∀ handling ∈ handlings, handling.Relays) : Pipes handlings := by
  have signals (earlier later : List Handling) (split : handlings = earlier ++ later) :
      signalsOut earlier ++ (session.leftBy earlier).held.map .byte = signalsIn earlier := by
    subst split
    have told := h.split.1.signals fun handling mem => relays handling (List.mem_append_left _ mem)
    rwa [empty] at told
  have before (earlier : List Handling) (handling : Handling) (later : List Handling)
      (split : handlings = earlier ++ handling :: later) :
      signalsOut earlier ++ handling.before.held.map .byte = signalsIn earlier := by
    have told := signals earlier _ split
    subst split
    rwa [← h.split.2.1] at told
  constructor
  case relays => exact relays
  case signals => exact before
  case level =>
    intro earlier handling later buffer result left split asked answer vain
    have told := before earlier handling later split
    subst split
    obtain ⟨result', left', gets⟩ := (relays handling (List.mem_append_right _ List.mem_cons_self)).gets buffer asked
    obtain ⟨rfl, rfl⟩ := Session.Answer.received.inj (gets.answer.symm.trans answer)
    rwa [(gets.vain vain).1, List.map_nil, List.append_nil] at told
  case complete =>
    -- What was told is a prefix of what the stream tells, and has as many signals at least as there were receives.
    intro coming rest within enough
    have told := signals handlings [] (List.append_nil _).symm
    have early : signalsOut handlings <+: coming ++ rest := (told ▸ List.prefix_append _ _).trans within
    exact List.prefix_of_prefix_length_le (List.prefix_append _ _) early
      (Nat.le_trans enough (countP_isRecv_le relays))

/-- Whatever the stream answers, a new session over plaintext is established without it, and then passes on all data and
all that is received: as it is, once and in order. -/
theorem plaintext_pipes (fills : transport.Fills) (context : Context) (provider : Option Role) (stream : τ)
    (budget : Nat) {requests : List Session.Request} (traffic : ∀ request ∈ requests, request.IsTraffic) :
    ∃ opening handlings after,
      Handled transport.beside Plaintext.channel.beside
        (Session.create Plaintext.channel.beside context { provider, stream }).1
        (.handshake (budget + 1) :: requests)
        (Session.create Plaintext.channel.beside context { provider, stream }).2 (opening :: handlings) after ∧
      opening.answer = .shaken (.ok ()) ∧
      opening.deeds = [.stepped none { status := .done }, .sized (.ok Plaintext.sizing)] ∧ Pipes handlings := by
  have granted : (Session.create Plaintext.channel.beside context { provider, stream }).1 = .granted context :=
    Session.create_eq_granted rfl
  have plays : (Session.create Plaintext.channel.beside context { provider, stream }).2.provider =
      some context.role := rfl
  obtain ⟨state, shaken⟩ := @Session.handshake_granted τ transport context budget { state := _ } _ plays
  obtain ⟨handlings, last, handles, relays⟩ := Session.relays_converse fills context [] traffic { state, deeds := _ }
  have answered : (Session.granted context).answer transport.beside.observed Plaintext.channel.beside.observed
      (.handshake (budget + 1)) { state := (Session.create Plaintext.channel.beside context { provider, stream }).2 } =
        some ((.shaken (.ok ()), .piped context []), _) := budgeted_bind_of_eq shaken
  rw [granted]
  exact ⟨_, handlings, last.state, (Handles.cons answered rfl handles).handled, rfl, rfl,
    handles.chained.pipes rfl relays⟩

structure Spigot where
  reads : List (Outcome Bytes)
  writes : List (Outcome Nat)

def poured (buffer : Bytes) : Outcome Bytes → Outcome Nat × Bytes
  | .ok bytes => (.ok (min bytes.length buffer.length), buffer.overlay bytes)
  | .error failure => (.error failure, buffer)

def spigot : Transport Spigot where
  send data := fun spigot => (spigot.writes.headD (.ok data.length), { spigot with writes := spigot.writes.tail })
  recv buffer := fun spigot => (poured buffer (spigot.reads.headD (.ok [])), { spigot with reads := spigot.reads.tail })
  close := pure ()

theorem fills_spigot : spigot.Fills := by
  have fits (buffer : Bytes) (answer : Outcome Bytes) (count : Nat) (read : (poured buffer answer).1 = .ok count) :
      count ≤ (poured buffer answer).2.length := by
    cases answer with
    | error => cases read
    | ok bytes =>
      cases read
      exact Nat.le_trans (Nat.min_le_right ..) (Nat.le_of_eq (Bytes.length_overlay ..).symm)
  exact fun buffer state => fits buffer (state.reads.headD (.ok []))

def fitful : Spigot where
  reads := [.ok [1, 2, 3], .error .timeout, .ok [4]]
  writes := [.ok 1, .ok 1]

def fitfulTraffic : List Session.Request := [.recv [0, 0], .send [7, 8], .recv [0, 0], .recv [0], .recv [0], .recv [0]]

theorem plaintext_pipes_fitful : ∃ opening handlings after,
    Handled spigot.beside Plaintext.channel.beside
        (Session.create Plaintext.channel.beside Context.server { provider := none, stream := fitful }).1
        (.handshake 1 :: fitfulTraffic)
        (Session.create Plaintext.channel.beside Context.server { provider := none, stream := fitful }).2
        (opening :: handlings) after ∧
      Pipes handlings ∧ handedOver (handlings.flatMap (·.deeds)) = [7, 8] ∧
      signalsOut handlings = [.byte 1, .byte 2, .byte 3, .failed .timeout, .byte 4, .ended] := by
  have traffic : ∀ request ∈ fitfulTraffic, request.IsTraffic := by
    simp [fitfulTraffic, Session.Request.IsTraffic]
  have ran : ((Session.create Plaintext.channel.beside Context.server
      { provider := none, stream := fitful }).1.converse spigot.beside.observed
        Plaintext.channel.beside.observed (.handshake 1 :: fitfulTraffic)
        { state := (Session.create Plaintext.channel.beside Context.server
          { provider := none, stream := fitful }).2 }).map
      (fun ended => (handedOver ended.2.deeds, ended.1.flatMap (·.answer.signals))) =
    some ([7, 8], [.byte 1, .byte 2, .byte 3, .failed .timeout, .byte 4, .ended]) := by decide +kernel
  obtain ⟨opening, handlings, after, handled, answer, deeds, pipes⟩ :=
    plaintext_pipes fills_spigot Context.server none fitful 0 traffic
  rw [handled.observed] at ran
  simp only [Option.map_some, Option.some.injEq, Prod.mk.injEq] at ran
  refine ⟨opening, handlings, after, handled, pipes, ?_, ?_⟩
  · rw [← ran.1, List.flatMap_cons, deeds]
    rfl
  · rw [← ran.2, List.flatMap_map, List.flatMap_cons]
    dsimp only [Handling.view]
    rw [answer]
    rfl

end NetReactor
