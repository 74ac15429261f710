import NetReactor.Session.Handshake
import NetReactor.Session.Records
/-!
An account of all that a session asks its provider and its stream for, with what they answer. The two may share
their state, and nothing is assumed about it. Keeping the account changes nothing else.
-/
namespace NetReactor

variable {σ α β : Type}

theorem bind_of_eq {action : StateM σ α} {next : α → StateM σ β} {state state' : σ} {a : α}
    (h : action state = (a, state')) : (action >>= next) state = next a state' := by
  have same : (action >>= next) state = next (action state).1 (action state).2 := rfl
  rw [same, h]

theorem lift_bind_of_eq {action : StateM σ α} {next : α → Budgeted σ β} {state state' : σ} {a : α}
    (h : action state = (a, state')) :
    ((liftM action : Budgeted σ α) >>= next) state = next a state' := by
  have same : ((liftM action : Budgeted σ α) >>= next) state =
      next (action state).1 (action state).2 := rfl
  rw [same, h]

theorem budgeted_bind_of_eq {action : Budgeted σ α} {next : α → Budgeted σ β} {state state' : σ} {a : α}
    (h : action state = some (a, state')) : (action >>= next) state = next a state' := by
  have same : (action >>= next) state = (action state).bind fun (a, state) => next a state := rfl
  rw [same, h]
  rfl

inductive Deed where
  | credentials (answer : Except ChannelError Unit)
  | stepped (input : Option Bytes) (answer : HandshakeStep)
  | sized (answer : Except ChannelError RecordSizing)
  | encrypted (record : Record) (answer : Except ChannelError Nat) (left : Record)
  | decrypted (message : Bytes) (answer : Decrypted) (left : Bytes)
  | token (answer : Except ChannelError Bytes)
  | sent (data : Bytes) (result : Outcome Nat)
  | received (buffer : Bytes) (result : Outcome Nat) (left : Bytes)
  | closed

structure Observed (σ : Type) where
  state : σ
  deeds : List Deed := []

def Observed.note (action : StateM σ α) (deed : α → Deed) : StateM (Observed σ) α := fun seen =>
  let (answer, state) := action seen.state
  (answer, { state, deeds := seen.deeds ++ [deed answer] })

open Observed in
def SecureChannel.observed (channel : SecureChannel σ) : SecureChannel (Observed σ) where
  acquireCredentials context := note (channel.acquireCredentials context) .credentials
  handshakeStep target input := note (channel.handshakeStep target input) (.stepped input)
  streamSizes := note channel.streamSizes .sized
  encrypt record := note (channel.encrypt record) fun (answer, left) => .encrypted record answer left
  decrypt message := note (channel.decrypt message) fun (answer, left) => .decrypted message answer left
  shutdownToken := note channel.shutdownToken .token

open Observed in
def Transport.observed (transport : Transport σ) : Transport (Observed σ) where
  send data := note (transport.send data) (.sent data)
  recv buffer := note (transport.recv buffer) fun (result, left) => .received buffer result left
  close := note transport.close fun _ => .closed

section

variable {transport : Transport σ} {channel : SecureChannel σ} {seen : Observed σ} {state : σ}

theorem observed_step {target : Option String} {input : Option Bytes} {answer : HandshakeStep}
    (h : channel.handshakeStep target input seen.state = (answer, state)) :
    channel.observed.handshakeStep target input seen =
      (answer, { state, deeds := seen.deeds ++ [.stepped input answer] }) := by
  simp [SecureChannel.observed, Observed.note, h]

theorem observed_sizes {answer : Except ChannelError RecordSizing}
    (h : channel.streamSizes seen.state = (answer, state)) :
    channel.observed.streamSizes seen = (answer, { state, deeds := seen.deeds ++ [.sized answer] }) := by
  simp [SecureChannel.observed, Observed.note, h]

theorem observed_encrypt {record left : Record} {answer : Except ChannelError Nat}
    (h : channel.encrypt record seen.state = ((answer, left), state)) :
    channel.observed.encrypt record seen =
      ((answer, left), { state, deeds := seen.deeds ++ [.encrypted record answer left] }) := by
  simp [SecureChannel.observed, Observed.note, h]

theorem observed_decrypt {message left : Bytes} {answer : Decrypted}
    (h : channel.decrypt message seen.state = ((answer, left), state)) :
    channel.observed.decrypt message seen =
      ((answer, left), { state, deeds := seen.deeds ++ [.decrypted message answer left] }) := by
  simp [SecureChannel.observed, Observed.note, h]

theorem observed_token {answer : Except ChannelError Bytes}
    (h : channel.shutdownToken seen.state = (answer, state)) :
    channel.observed.shutdownToken seen = (answer, { state, deeds := seen.deeds ++ [.token answer] }) := by
  simp [SecureChannel.observed, Observed.note, h]

theorem observed_send {data : Bytes} {result : Outcome Nat}
    (h : transport.send data seen.state = (result, state)) :
    transport.observed.send data seen = (result, { state, deeds := seen.deeds ++ [.sent data result] }) := by
  simp [Transport.observed, Observed.note, h]

theorem observed_recv {buffer left : Bytes} {result : Outcome Nat}
    (h : transport.recv buffer seen.state = ((result, left), state)) :
    transport.observed.recv buffer seen =
      ((result, left), { state, deeds := seen.deeds ++ [.received buffer result left] }) := by
  simp [Transport.observed, Observed.note, h]

theorem observed_close (h : transport.close seen.state = ((), state)) :
    transport.observed.close seen = ((), { state, deeds := seen.deeds ++ [.closed] }) := by
  simp [Transport.observed, Observed.note, h]

end

/-- Keeping the account changes neither the answer nor the state. -/
def Mirrors (action : StateM (Observed σ) α) (plain : StateM σ α) : Prop :=
  ∀ seen, (action seen).1 = (plain seen.state).1 ∧ (action seen).2.state = (plain seen.state).2

namespace Mirrors

theorem note (action : StateM σ α) (deed : α → Deed) : Mirrors (Observed.note action deed) action :=
  fun _ => ⟨rfl, rfl⟩

theorem pure (a : α) : Mirrors (pure a : StateM (Observed σ) α) (pure a) := fun _ => ⟨rfl, rfl⟩

theorem bind {action : StateM (Observed σ) α} {plain : StateM σ α} {next : α → StateM (Observed σ) β}
    {plainly : α → StateM σ β} (h : Mirrors action plain) (hn : ∀ a, Mirrors (next a) (plainly a)) :
    Mirrors (action >>= next) (plain >>= plainly) := by
  intro seen
  obtain ⟨answer, state⟩ := h seen
  have same : (plain >>= plainly) seen.state = plainly (action seen).1 (plain seen.state).2 := by
    rw [answer]
    rfl
  rw [same, ← state]
  exact hn (action seen).1 (action seen).2

end Mirrors

def Deed.taken : Deed → Bytes
  | .sent data (.ok count) => data.take count
  | _ => []

def Deed.given : Deed → Bytes
  | .received _ (.ok count) left => left.take count
  | _ => []

def Deed.isSent : Deed → Bool
  | .sent .. => true
  | _ => false

def Deed.isRead : Deed → Bool
  | .received .. => true
  | _ => false

def handedOver (deeds : List Deed) : Bytes := deeds.flatMap Deed.taken

def arrived (deeds : List Deed) : Bytes := deeds.flatMap Deed.given

section

variable {deed : Deed} {deeds early late : List Deed}

@[simp] theorem handedOver_nil : handedOver [] = [] := rfl

@[simp] theorem handedOver_cons : handedOver (deed :: deeds) = deed.taken ++ handedOver deeds :=
  List.flatMap_cons

@[simp] theorem handedOver_append : handedOver (early ++ late) = handedOver early ++ handedOver late :=
  List.flatMap_append

@[simp] theorem arrived_nil : arrived [] = [] := rfl

@[simp] theorem arrived_append : arrived (early ++ late) = arrived early ++ arrived late := List.flatMap_append

theorem arrived_cons : arrived (deed :: deeds) = deed.given ++ arrived deeds := List.flatMap_cons

theorem Deed.isRead_of_isSent (sent : deed.isSent = true) : deed.isRead = false := by
  cases deed <;> first | rfl | cases sent

theorem arrived_eq_nil (sent : ∀ deed ∈ deeds, deed.isSent = true) : arrived deeds = [] := by
  refine List.flatMap_eq_nil_iff.mpr fun deed mem => ?_
  have sent := sent deed mem
  cases deed <;> first | rfl | cases sent

end

/-- Data is handed over to a stream piece by piece: how it ended, the calls, and what was left of the data. -/
inductive Pours : Bytes → Outcome Unit → List Deed → Bytes → Prop
  | done : Pours [] (.ok ()) [] []
  | failed {data : Bytes} {failure : Error} (waiting : data ≠ []) :
    Pours data (.error failure) [.sent data (.error failure)] data
  | stuck {data : Bytes} (waiting : data ≠ []) : Pours data (.error .sendFailed) [.sent data (.ok 0)] data
  | more {data rest : Bytes} {count : Nat} {result : Outcome Unit} {deeds : List Deed} (waiting : data ≠ [])
    (took : count ≠ 0) (later : Pours (data.drop count) result deeds rest) :
    Pours data result (.sent data (.ok count) :: deeds) rest

namespace Pours

variable {data rest : Bytes} {result : Outcome Unit} {deeds : List Deed}

theorem split (h : Pours data result deeds rest) : handedOver deeds ++ rest = data := by
  induction h with
  | done => rfl
  | failed => rfl
  | stuck => rfl
  | @more data rest count result deeds waiting took later ih =>
    rw [handedOver_cons, List.append_assoc, ih]
    exact List.take_append_drop count data

theorem ok_iff (h : Pours data result deeds rest) : result = .ok () ↔ rest = [] := by
  induction h with
  | done => exact iff_of_true rfl rfl
  | failed waiting => exact iff_of_false (by simp) waiting
  | stuck waiting => exact iff_of_false (by simp) waiting
  | more _ _ _ ih => exact ih

theorem handedOver_eq (h : Pours data (.ok ()) deeds rest) : handedOver deeds = data := by
  have split := h.split
  rwa [h.ok_iff.mp rfl, List.append_nil] at split

theorem isSent (h : Pours data result deeds rest) : ∀ deed ∈ deeds, deed.isSent = true := by
  induction h with
  | done => simp
  | failed => simp [Deed.isSent]
  | stuck => simp [Deed.isSent]
  | more _ _ _ ih => exact List.forall_mem_cons.mpr ⟨rfl, ih⟩

end Pours

theorem pours_sendAll (transport : Transport σ) (data : Bytes) (seen : Observed σ) :
    ∃ result deeds rest state,
      transport.observed.sendAll data seen = (result, { state, deeds := seen.deeds ++ deeds }) ∧
        Pours data result deeds rest := by
  fun_induction Transport.sendAll transport.observed data generalizing seen with
  | case1 => exact ⟨_, [], [], seen.state, by rw [List.append_nil]; rfl, .done⟩
  | case2 byte rest ih =>
    rcases asked : transport.send (byte :: rest) seen.state with ⟨result, next⟩
    rw [bind_of_eq (observed_send asked)]
    cases result with
    | error failure => exact ⟨_, _, _, next, rfl, .failed (List.cons_ne_nil _ _)⟩
    | ok count =>
      cases count with
      | zero => exact ⟨_, _, _, next, rfl, .stuck (List.cons_ne_nil _ _)⟩
      | succ sent =>
        obtain ⟨result, deeds, left, state, ran, pours⟩ := ih sent
          { state := next, deeds := seen.deeds ++ [.sent (byte :: rest) (.ok (sent + 1))] }
        refine ⟨result, _ :: deeds, left, state, ran.trans ?_,
          .more (List.cons_ne_nil _ _) (Nat.succ_ne_zero sent) pours⟩
        rw [List.append_assoc]
        rfl

theorem mirrors_sendAll (transport : Transport σ) (data : Bytes) :
    Mirrors (transport.observed.sendAll data) (transport.sendAll data) := by
  fun_induction Transport.sendAll transport data with
  | case1 =>
    rw [Transport.sendAll]
    exact .pure _
  | case2 byte rest ih =>
    rw [Transport.sendAll]
    refine .bind (.note _ _) fun result => ?_
    cases result with
    | error => exact .pure _
    | ok count =>
      cases count with
      | zero => exact .pure _
      | succ sent => exact ih sent

end NetReactor
