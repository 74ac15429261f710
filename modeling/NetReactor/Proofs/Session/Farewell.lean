import NetReactor.Proofs.Session.Gathering
import NetReactor.Proofs.Session.Handling
/-!
How a session takes leave of its peer. A handshake that succeeds is worth one request for a last token. The next close
makes it, before it closes the stream, and no other call does. Dropping a session is its last close.
-/
namespace NetReactor

variable {σ : Type} {transport : Transport σ} {channel : SecureChannel σ} {session next : Session}
variable {data rest : Bytes} {result : Outcome Unit} {deeds early late writes : List Deed} {handling : Handling}
variable {handlings : List Handling}

def Deed.isToken : Deed → Bool
  | .token _ => true
  | _ => false

def Deed.isClosed : Deed → Bool
  | .closed => true
  | _ => false

def Stays (deeds : List Deed) : Prop := ∀ deed ∈ deeds, deed.isToken = false ∧ deed.isClosed = false

namespace Stays

theorem tokens (h : Stays deeds) : deeds.countP Deed.isToken = 0 :=
  List.countP_eq_zero.mpr fun deed mem => by simp [(h deed mem).1]

theorem closes (h : Stays deeds) : deeds.countP Deed.isClosed = 0 :=
  List.countP_eq_zero.mpr fun deed mem => by simp [(h deed mem).2]

theorem append (h : Stays early) (h' : Stays late) : Stays (early ++ late) :=
  List.forall_mem_append.mpr ⟨h, h'⟩

end Stays

theorem Pours.stays (h : Pours data result writes rest) : Stays writes := by
  intro deed mem
  have sent := h.isSent deed mem
  cases deed with
  | sent => exact ⟨rfl, rfl⟩
  | _ => cases sent

/-- Whatever is done in its place in a handshake is no part of closing. -/
theorem Session.Follows.stays {rounds : Nat} {outcome : Outcome Exchange}
    (h : Follows rounds session deeds outcome) : Stays deeds := by
  intro deed mem
  obtain ⟨past, inPlace⟩ := h.reaches.1.inPlace.mem deed mem
  have awaited := inPlace.awaited
  cases deed with
  | token => exact awaited.elim
  | closed => exact awaited.elim
  | _ => exact ⟨rfl, rfl⟩

theorem Session.Ends.stays {outcome : Outcome Exchange} {answer : Outcome Unit × Session}
    (h : session.Ends outcome deeds answer) : Stays deeds := by
  cases h <;> simp [Stays, Deed.isToken, Deed.isClosed]

theorem Sending.Goes.stays {sizing : RecordSizing} {sending : Sending} (h : sending.Goes sizing) :
    Stays sending.deeds := by
  cases h with
  | refused => simp [Stays]
  | unencrypted => simp [Stays, Deed.isToken, Deed.isClosed]
  | whole _ pours => exact List.forall_mem_cons.mpr ⟨⟨rfl, rfl⟩, pours.stays⟩
  | broken _ _ pours => exact List.forall_mem_cons.mpr ⟨⟨rfl, rfl⟩, pours.stays⟩

theorem Session.Reads.stays {buffer : Bytes} {received : Session.Received}
    (h : session.Reads buffer deeds received) : Stays deeds := by
  cases h <;> simp [Stays, Deed.isToken, Deed.isClosed]

theorem Receipt.Goes.stays {receipt : Receipt} (h : receipt.Goes) : Stays receipt.deeds := by
  cases h with
  | read _ _ _ reads => exact reads.stays
  | readAfter _ _ _ _ _ reads => exact List.forall_mem_cons.mpr ⟨⟨rfl, rfl⟩, reads.stays⟩
  | _ => simp [Stays, Deed.isToken, Deed.isClosed]

inductive Says : Except ChannelError Bytes → List Deed → Prop
  | nothing {reason : ChannelError} : Says (.error reason) []
  | token {token rest : Bytes} {result : Outcome Unit} {writes : List Deed} (pours : Pours token result writes rest) :
    Says (.ok token) writes

theorem Says.stays {answer : Except ChannelError Bytes} (h : Says answer writes) : Stays writes := by
  cases h with
  | nothing => simp [Stays]
  | token pours => exact pours.stays

def Session.Request.isClose : Session.Request → Bool
  | .close => true
  | _ => false

namespace Handling

def agreed (handling : Handling) : Bool := handling.answer = .shaken (.ok ())

structure Parts (handling : Handling) : Prop where
  others : handling.request ≠ .close → Stays handling.deeds
  farewell : handling.request = .close → handling.before.stage = .established →
    ∃ answer writes, handling.deeds = .token answer :: (writes ++ [.closed]) ∧ Says answer writes
  silent : handling.request = .close → handling.before.stage ≠ .established → handling.deeds = [.closed]

theorem Goes.parts (h : handling.Goes) : handling.Parts := by
  cases h with
  | unstarted => exact ⟨fun _ => by simp [Stays], nofun, nofun⟩
  | shaken _ _ follows _ ends => exact ⟨fun _ => follows.stays.append ends.stays, nofun, nofun⟩
  | unsent => exact ⟨fun _ => by simp [Stays], nofun, nofun⟩
  | sent _ _ goes => exact ⟨fun _ => goes.stays, nofun, nofun⟩
  | received goes => exact ⟨fun _ => goes.stays, nofun, nofun⟩
  | closed departs =>
    cases departs with
    | idle unestablished =>
      exact ⟨fun other => absurd rfl other, fun _ established => absurd established unestablished, fun _ _ => rfl⟩
    | tokenless established =>
      exact ⟨fun other => absurd rfl other, fun _ _ => ⟨_, [], rfl, .nothing⟩,
        fun _ unestablished => absurd established unestablished⟩
    | farewell established pours =>
      exact ⟨fun other => absurd rfl other, fun _ _ => ⟨_, _, rfl, .token pours⟩,
        fun _ unestablished => absurd established unestablished⟩

/-- The stream is closed once by each close. -/
theorem Parts.closes (h : handling.Parts) :
    handling.deeds.countP Deed.isClosed = if handling.request.isClose then 1 else 0 := by
  cases asked : handling.request with
  | close =>
    by_cases established : handling.before.stage = .established
    · obtain ⟨answer, writes, same, spoken⟩ := h.farewell asked established
      simp [same, List.countP_cons, Deed.isClosed, spoken.stays.closes, Session.Request.isClose]
    · simp [h.silent asked established, List.countP_cons, Deed.isClosed, Session.Request.isClose]
  | _ =>
    rw [(h.others (by simp [asked])).closes]
    rfl

end Handling

def tokens (handlings : List Handling) : Nat := (handlings.flatMap (·.deeds)).countP Deed.isToken

/-- How many tokens are to be asked for yet. -/
def Session.debt (session : Session) : Nat := if session.stage = .established then 1 else 0

theorem Session.Departs.debt (h : session.Departs deeds next) : next.debt = 0 := by
  cases h with
  | idle unestablished => exact if_neg unestablished
  | tokenless => rfl
  | farewell => rfl

theorem Session.Departs.tokens (h : session.Departs deeds next) : deeds.countP Deed.isToken = session.debt := by
  cases h with
  | idle unestablished => simp [Session.debt, unestablished, Deed.isToken]
  | tokenless established => simp [Session.debt, established, List.countP_cons, Deed.isToken]
  | farewell established pours =>
    simp [Session.debt, established, List.countP_cons, Deed.isToken, pours.stays.tokens]

/-- A handshake that succeeds owes a token, and nothing but closing pays it. -/
theorem Handling.Goes.owed (h : handling.Goes) :
    handling.deeds.countP Deed.isToken + handling.after.debt =
      handling.before.debt + if handling.agreed then 1 else 0 := by
  cases h with
  | unstarted => simp [Handling.agreed]
  | @shaken before after budget outcome result deeds closing stage credentials follows ended ends =>
    have start : before.debt = 0 := by simp [Session.debt, stage]
    dsimp only
    rw [(follows.stays.append ends.stays).tokens, start]
    cases ends <;> simp [Session.debt, Handling.agreed]
  | unsent => simp [Handling.agreed]
  | sent _ _ goes => simp [Handling.agreed, goes.stays.tokens]
  | received goes => simp [Handling.agreed, goes.stays.tokens, Session.debt, goes.sameStage.stage]
  | closed departs => simp [Handling.agreed, departs.tokens, departs.debt]

theorem Handling.Goes.debt (h : handling.Goes) (closes : handling.request = .close) : handling.after.debt = 0 := by
  cases h with
  | closed departs => exact departs.debt
  | _ => cases closes

theorem Chained.owed (h : Chained session handlings) :
    tokens handlings + (session.leftBy handlings).debt = session.debt + handlings.countP Handling.agreed := by
  induction handlings generalizing session with
  | nil => simp [tokens, Session.leftBy]
  | cons handling handlings ih =>
    obtain ⟨rfl, goes, chained⟩ := h
    -- What the first call leaves to be paid is what the later ones begin with.
    have later := ih chained
    have first := goes.owed
    have split : tokens (handling :: handlings) = handling.deeds.countP Deed.isToken + tokens handlings := by
      simp [tokens]
    have same : handling.before.leftBy (handling :: handlings) = handling.after.leftBy handlings := rfl
    rw [split, same, List.countP_cons]
    omega

theorem closes_flatMap (parts : ∀ handling ∈ handlings, handling.Parts) :
    (handlings.flatMap (·.deeds)).countP Deed.isClosed = handlings.countP (·.request.isClose) := by
  induction handlings with
  | nil => rfl
  | cons handling handlings ih =>
    obtain ⟨first, later⟩ := List.forall_mem_cons.mp parts
    rw [List.flatMap_cons, List.countP_append, first.closes, ih later, List.countP_cons, Nat.add_comm]

structure PartsOnce (handlings : List Handling) : Prop where
  parts : ∀ handling ∈ handlings, handling.Parts
  -- At each point a token is owed just while the session is established.
  owed : ∀ earlier handling later, handlings = earlier ++ handling :: later →
    tokens earlier + handling.before.debt = earlier.countP Handling.agreed
  tokens : tokens handlings = handlings.countP Handling.agreed
  closes : (handlings.flatMap (·.deeds)).countP Deed.isClosed = handlings.countP (·.request.isClose)

theorem Chained.partsOnce (h : Chained session handlings) (start : session.debt = 0)
    (dropped : (session.leftBy handlings).debt = 0) : PartsOnce handlings where
  parts handling mem := (h.goes handling mem).parts
  owed earlier handling later split := by
    subst split
    obtain ⟨first, same, -⟩ := h.split
    have paid := first.owed
    rw [start, ← same] at paid
    omega
  tokens := by
    have paid := h.owed
    rw [start, dropped] at paid
    omega
  closes := closes_flatMap fun handling mem => (h.goes handling mem).parts

def Session.untilDropped (requests : List Session.Request) : List Session.Request := requests ++ [.close]

theorem Chained.dropped {requests : List Session.Request} (h : Chained session handlings)
    (asked : handlings.map (·.request) = Session.untilDropped requests) : (session.leftBy handlings).debt = 0 := by
  obtain ⟨earlier, last, rfl, -, closing⟩ := List.map_eq_append_iff.mp asked
  obtain ⟨handling, rfl, closes⟩ := List.map_eq_singleton_iff.mp closing
  have goes := h.split.2.2.1
  have same : session.leftBy (earlier ++ [handling]) = handling.after := by simp [Session.leftBy]
  rw [same]
  exact goes.debt closes

theorem debt_create (channel : SecureChannel σ) (context : Context) :
    Session.Yields (Session.create channel context) fun session => session.debt = 0 := by
  refine .bind (.any _) fun answer _ => ?_
  cases answer <;> exact .pure rfl

/-- Whatever the provider and the stream answer and however the calls follow on each other, a session asks for one
token for each of its handshakes that succeeds. The close that ends this period asks, sends the token and nothing else,
and closes the stream, which each close does once. -/
theorem converse_partsOnce (transport : Transport σ) (channel : SecureChannel σ) (context : Context) (start : σ)
    (requests : List Session.Request) {views : List Session.View} {after : σ}
    (h : (Session.create channel context start).1.converse transport channel (Session.untilDropped requests)
      (Session.create channel context start).2 = some (views, after)) :
    ∃ handlings, Handled transport channel (Session.create channel context start).1 (Session.untilDropped requests)
        (Session.create channel context start).2 handlings after ∧
      views = handlings.map Handling.view ∧ PartsOnce handlings := by
  obtain ⟨handlings, handled, same⟩ := handled_converse h
  exact ⟨handlings, handled, same,
    handled.chained.partsOnce (debt_create channel context start) (handled.chained.dropped handled.requests)⟩

structure Leaving where
  tokens : List (Except ChannelError Bytes)
  writes : List (Outcome Nat)

def leaver : SecureChannel Leaving where
  acquireCredentials _ := pure (.ok ())
  handshakeStep _ _ := pure { status := .done }
  streamSizes := pure (.ok ⟨0, 0, 16⟩)
  encrypt record := pure (.ok 0, record)
  decrypt message := pure ({ status := .error }, message)
  shutdownToken := fun leaving =>
    (leaving.tokens.headD (.error .noContext), { leaving with tokens := leaving.tokens.tail })

def leaverStream : Transport Leaving where
  send data := fun leaving => (leaving.writes.headD (.ok data.length), { leaving with writes := leaving.writes.tail })
  recv buffer := pure (.ok 0, buffer)
  close := pure ()

def leavings : Leaving where
  tokens := [.ok [7, 8], .error (.shutdown "refused"), .ok [9]]
  writes := [.ok 1, .ok 1, .error .timeout]

def threeConnections : List Session.Request :=
  [.handshake 1, .send [5], .close, .close, .handshake 1, .close, .handshake 1]

theorem converse_partsOnce_threeConnections : ∃ handlings after,
    Handled leaverStream leaver (Session.create leaver Context.server leavings).1
        (Session.untilDropped threeConnections) (Session.create leaver Context.server leavings).2 handlings after ∧
      PartsOnce handlings ∧ tokens handlings = 3 ∧
      handedOver (handlings.flatMap (·.deeds)) = [5, 7, 9] := by
  have plain : ((Session.create leaver Context.server leavings).1.converse leaverStream leaver
      (Session.untilDropped threeConnections) (Session.create leaver Context.server leavings).2).isSome := by
    decide +kernel
  have observed : ((Session.create leaver Context.server leavings).1.converse leaverStream.observed leaver.observed
      (Session.untilDropped threeConnections)
      { state := (Session.create leaver Context.server leavings).2 }).map
        (fun ended => (ended.2.deeds.countP Deed.isToken, handedOver ended.2.deeds)) = some (3, [5, 7, 9]) := by
    decide +kernel
  obtain ⟨⟨views, after⟩, conversed⟩ := Option.isSome_iff_exists.mp plain
  obtain ⟨handlings, handled, -, once⟩ := converse_partsOnce leaverStream leaver Context.server leavings _ conversed
  rw [handled.observed] at observed
  simp only [Option.map_some, Option.some.injEq, Prod.mk.injEq] at observed
  exact ⟨handlings, after, handled, once, observed.1, observed.2⟩

end NetReactor
