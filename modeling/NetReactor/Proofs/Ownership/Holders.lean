import Mathlib.Logic.Equiv.Basic
import NetReactor.Proofs.Ownership.Ledger
/-!
Who holds a socket: its handles, a session over it, an action that works with it, the callbacks of background
operations on it, and whatever part of the library has just taken it in hand. Some holders have it for
themselves. A machine is in custody if every open socket has a holder that is active, and every loop with
registrations is kept.
-/
namespace NetReactor
namespace Table

variable {κ α : Type} [DecidableEq κ] {table : Table κ α}

def Proper (table : Table κ α) : Prop := (table.map (·.1)).Nodup

theorem Proper.without (h : table.Proper) (name : κ) : (table.without name).Proper :=
  h.sublist (List.filter_sublist.map _)

theorem Proper.put (h : table.Proper) (name : κ) (value : α) : (table.put name value).Proper := by
  refine List.nodup_cons.mpr ⟨fun mem => ?_, h.without name⟩
  obtain ⟨entry, here, same⟩ := List.mem_map.mp mem
  simpa [same] using (List.mem_filter.mp here).2

theorem get?_put_of_ne (table : Table κ α) (name : κ) (value : α) (other : κ) (apart : other ≠ name) :
    (table.put name value).get? other = table.get? other := by
  rw [get?_put, if_neg apart.symm]

theorem get?_without_of_ne (table : Table κ α) (name other : κ) (apart : other ≠ name) :
    (table.without name).get? other = table.get? other := by
  rw [get?_without, if_neg apart.symm]

theorem mem_values_of_get? {name : κ} {value : α} (h : table.get? name = some value) :
    value ∈ table.values := by
  obtain ⟨entry, found, rfl⟩ := Option.map_eq_some_iff.mp h
  exact List.mem_map_of_mem (List.mem_of_find?_eq_some found)

theorem Proper.get?_of_mem (h : table.Proper) {entry : κ × α} (mem : entry ∈ table) :
    table.get? entry.1 = some entry.2 := by
  rw [get?, Option.map_eq_some_iff]
  cases found : table.find? (·.1 = entry.1) with
  | none => simpa using List.find?_eq_none.mp found entry mem
  | some other =>
    have same : other.1 = entry.1 := by simpa using List.find?_some found
    have mem' := List.mem_of_find?_eq_some found
    exact ⟨other, rfl, by rw [List.inj_on_of_nodup_map h mem' mem same]⟩

theorem Proper.mem_values (h : table.Proper) {value : α} :
    value ∈ table.values ↔ ∃ name, table.get? name = some value := by
  constructor
  · intro mem
    obtain ⟨entry, here, rfl⟩ := List.mem_map.mp mem
    exact ⟨entry.1, h.get?_of_mem here⟩
  · exact fun ⟨_, h⟩ => mem_values_of_get? h

end Table

def Link.socket? : Link → Option SocketId
  | .socket id => some id
  | .wire => none

inductive Holder where
  | plain (name : String)
  | session (name : String)
  -- A part of the library that is about to pass the socket on.
  | hand
  | shared (name : String)
  | callback (id : CallbackId)
  | busy
deriving DecidableEq

def Holder.isAlone : Holder → Bool
  | .plain _ | .session _ | .hand => true
  | .shared _ | .callback _ | .busy => false

def Holder.handle (name : String) (asynchronous : Bool) : Holder :=
  if asynchronous then .shared name else .plain name

namespace Machine

variable {ω : Type} {before after machine : Machine ω}

def Holds (machine : Machine ω) (hand : Option SocketId) : Holder → SocketId → Prop
  | .plain name, id => machine.socketHandles.get? name = some ⟨id, false⟩
  | .shared name, id => machine.socketHandles.get? name = some ⟨id, true⟩
  | .session name, id => ∃ opened, machine.sessionHandles.get? name = some opened ∧
    opened.link.socket? = some id
  | .hand, id => hand = some id
  | .callback number, id => ∃ seen, machine.view? number = some seen ∧
    seen.operation.socket? = some id
  | .busy, id => id ∈ machine.busySockets

/-- What is in hand matters to the hand only. -/
theorem Holds.whatever {hand : Option SocketId} {holder : Holder} {id : SocketId}
    (h : machine.Holds hand holder id) (apart : holder ≠ .hand) (other : Option SocketId) :
    machine.Holds other holder id := by
  cases holder with
  | hand => exact absurd rfl apart
  | _ => exact h

theorem Holds.ne_hand {holder : Holder} {id : SocketId} (h : machine.Holds none holder id) :
    holder ≠ .hand := by
  rintro rfl
  cases h

def Reached (machine : Machine ω) (id : CallbackId) : Prop :=
  (∃ loop, ∃ registration ∈ machine.entries loop, registration.callback = id) ∨
    ∃ found ∈ machine.snapshots, id ∈ found

def Active (machine : Machine ω) : Holder → Prop
  | .callback id => id ∈ machine.executing ∨
    (∃ seen, machine.view? id = some seen ∧ seen.spent = false) ∧ machine.Reached id
  | _ => True

theorem isReachable_iff {id : CallbackId} : machine.isReachable id = true ↔ machine.Reached id := by
  simp only [isReachable, Reached, Bool.or_eq_true, List.any_eq_true, List.contains_iff_mem]
  refine or_congr_left ⟨?_, ?_⟩
  · rintro ⟨loop, mem, here⟩
    obtain ⟨registration, mem', same⟩ := List.mem_map.mp here
    obtain ⟨position, known, rfl⟩ := List.getElem_of_mem mem
    refine ⟨position, registration, ?_, same⟩
    simpa [entries, loopAt, List.getD_eq_getElem?_getD, known] using mem'
  · rintro ⟨loop, registration, mem, same⟩
    have known := lt_of_mem_entries mem
    refine ⟨machine.loops[loop], List.getElem_mem known, List.mem_map.mpr ⟨registration, ?_, same⟩⟩
    simpa [entries, loopAt, List.getD_eq_getElem?_getD, known] using mem

theorem needs_iff {number : CallbackId} {id : SocketId} : machine.needs number id = true ↔
    machine.Holds none (.callback number) id ∧ machine.Active (.callback number) := by
  rw [needs]
  cases known : machine.callback? number with
  | none =>
    have none : machine.view? number = none := by rw [view?, known]; rfl
    simp [Holds, none]
  | some callback =>
    have view := view?_of_callback? known
    simp [Holds, Active, view, isReachable_iff, Callback.uncounted]

theorem keeps_iff (sockets : machine.socketHandles.Proper) (sessions : machine.sessionHandles.Proper)
    {id : SocketId} :
    machine.keeps id = true ↔ ∃ holder, machine.Holds none holder id ∧ machine.Active holder := by
  simp only [keeps, Bool.or_eq_true, List.contains_iff_mem, List.any_eq_true, List.mem_range,
    sockets.mem_values, sessions.mem_values, beq_iff_eq, needs_iff]
  constructor
  · rintro (((busy | ⟨handle, ⟨name, there⟩, rfl⟩) | ⟨opened, ⟨name, there⟩, link⟩) |
      ⟨number, -, holds, active⟩)
    · exact ⟨.busy, busy, trivial⟩
    · obtain ⟨id, asynchronous⟩ := handle
      cases asynchronous with
      | true => exact ⟨.shared name, there, trivial⟩
      | false => exact ⟨.plain name, there, trivial⟩
    · exact ⟨.session name, ⟨opened, there, by rw [link]; rfl⟩, trivial⟩
    · exact ⟨.callback number, holds, active⟩
  · rintro ⟨holder, holds, active⟩
    cases holder with
    | plain name => exact .inl (.inl (.inr ⟨_, ⟨name, holds⟩, rfl⟩))
    | shared name => exact .inl (.inl (.inr ⟨_, ⟨name, holds⟩, rfl⟩))
    | session name =>
      obtain ⟨opened, there, link⟩ := holds
      refine .inl (.inr ⟨opened, ⟨name, there⟩, ?_⟩)
      cases under : opened.link <;> rw [under] at link <;> cases link
      rfl
    | hand => cases holds
    | busy => exact .inl (.inl (.inl holds))
    | callback number =>
      have ⟨seen, view, _⟩ := holds
      exact .inr ⟨number, lt_of_view? view, holds, active⟩

structure Scene where
  executing : List CallbackId := []
  snapshots : List (List CallbackId) := []
  busyLoops : List LoopId := []
  busySockets : List SocketId := []

def scene (machine : Machine ω) : Scene where
  executing := machine.executing
  snapshots := machine.snapshots
  busyLoops := machine.busyLoops
  busySockets := machine.busySockets

/-- What is on its way inside an action: a descriptor without a socket yet, a socket in hand, one that may have
lost its last holder, and a loop that nothing may keep any more. -/
structure Transit where
  loose : Option Descriptor := none
  hand : Option SocketId := none
  doubt : Option SocketId := none
  stray : Option LoopId := none

structure Custody (scene : Scene) (transit : Transit) (machine : Machine ω) : Prop where
  books : Books transit.loose machine
  scene : machine.scene = scene
  socketNames : machine.socketHandles.Proper
  sessionNames : machine.sessionHandles.Proper
  loopNames : machine.loopHandles.Proper
  known : ∀ holder id, machine.Holds transit.hand holder id → id < machine.sockets.length
  alone : ∀ holder other id, holder.isAlone = true → machine.Holds transit.hand holder id →
    machine.Holds transit.hand other id → other = holder
  kept : ∀ id, (machine.socketAt id).isOpen = true →
    (∃ holder, machine.Holds transit.hand holder id ∧ machine.Active holder) ∨ transit.doubt = some id
  live : ∀ loop, machine.entries loop ≠ [] → machine.keepsLoop loop = true ∨ transit.stray = some loop

variable {scene : Scene} {transit : Transit} {id : SocketId}

theorem custody_new (outside : ω) : Custody {} {} { outside } where
  books := books_new outside
  scene := rfl
  socketNames := List.nodup_nil
  sessionNames := List.nodup_nil
  loopNames := List.nodup_nil
  known holder id holds := by
    cases holder with
    | session name =>
      obtain ⟨_, there, _⟩ := holds
      cases there
    | callback number =>
      obtain ⟨_, view, _⟩ := holds
      cases view
    | _ => cases holds
  alone holder other id alone holds := by
    cases holder with
    | session name =>
      obtain ⟨_, there, _⟩ := holds
      cases there
    | plain name => cases holds
    | hand => cases holds
    | _ => cases alone
  kept id isOpen := nomatch isOpen
  live loop some := absurd rfl some

namespace Custody

/-- A change of nothing that matters to custody but the journal. -/
theorem same (h : Custody scene transit before) (books : Books transit.loose after)
    (around : after.scene = before.scene) (sockets : after.sockets = before.sockets)
    (handles : after.socketHandles = before.socketHandles)
    (sessions : after.sessionHandles = before.sessionHandles)
    (loops : after.loopHandles = before.loopHandles)
    (views : ∀ id, after.view? id = before.view? id)
    (entries : ∀ loop, after.entries loop = before.entries loop) : Custody scene transit after := by
  have executing : after.executing = before.executing := congrArg Scene.executing around
  have snapshots : after.snapshots = before.snapshots := congrArg Scene.snapshots around
  have busyLoops : after.busyLoops = before.busyLoops := congrArg Scene.busyLoops around
  have busySockets : after.busySockets = before.busySockets := congrArg Scene.busySockets around
  have holds holder id : after.Holds transit.hand holder id ↔ before.Holds transit.hand holder id := by
    cases holder <;> simp only [Holds, handles, sessions, views, busySockets]
  have active holder : after.Active holder ↔ before.Active holder := by
    cases holder <;> simp only [Active, Reached, executing, snapshots, views, entries]
  exact {
    books
    scene := around.trans h.scene
    socketNames := by rw [handles]; exact h.socketNames
    sessionNames := by rw [sessions]; exact h.sessionNames
    loopNames := by rw [loops]; exact h.loopNames
    known := fun holder id there => by rw [sockets]; exact h.known holder id ((holds _ _).mp there)
    alone := fun holder other id alone mine theirs =>
      h.alone holder other id alone ((holds _ _).mp mine) ((holds _ _).mp theirs)
    kept := fun id isOpen => by
      rw [socketAt, sockets] at isOpen
      simp only [holds, active]
      exact h.kept id isOpen
    live := fun loop some => by
      rw [entries] at some
      rw [keepsLoop, busyLoops, loops]
      exact h.live loop some }

/-- Every holder was one before, under this name or that, or it shares the socket with others. -/
theorem holders (h : Custody scene transit before) (after : Machine ω) {hand : Option SocketId}
    (back : Holder → Holder) (apart : back.Injective) (sockets : before.sockets.length ≤ after.sockets.length)
    (came : ∀ holder id, after.Holds hand holder id →
      (before.Holds transit.hand (back holder) id ∧ (holder.isAlone = true → (back holder).isAlone = true)) ∨
      (holder.isAlone = false ∧ ∃ other, other.isAlone = false ∧ before.Holds transit.hand other id)) :
    (∀ holder id, after.Holds hand holder id → id < after.sockets.length) ∧
      ∀ holder other id, holder.isAlone = true → after.Holds hand holder id →
        after.Holds hand other id → other = holder := by
  constructor
  · intro holder id holds
    refine Nat.lt_of_lt_of_le ?_ sockets
    obtain ⟨was, -⟩ | ⟨-, other, -, was⟩ := came holder id holds
    · exact h.known _ id was
    · exact h.known _ id was
  · intro holder other id alone mine theirs
    obtain ⟨was, still⟩ | ⟨shares, -⟩ := came holder id mine
    · obtain ⟨was', -⟩ | ⟨-, third, shares, was'⟩ := came other id theirs
      · exact apart (h.alone _ _ id (still alone) was was')
      · have same := h.alone _ _ id (still alone) was was'
        rw [same, still alone] at shares
        cases shares
    · rw [alone] at shares
      cases shares

/-- What is in hand is held by nothing else. -/
theorem keeps_hand (h : Custody scene transit machine) (hand : transit.hand = some id) :
    machine.keeps id = false := by
  rw [Bool.eq_false_iff]
  intro keeps
  obtain ⟨holder, holds, -⟩ := (keeps_iff h.socketNames h.sessionNames).mp keeps
  exact holds.ne_hand (h.alone .hand holder id rfl hand (holds.whatever holds.ne_hand _))

theorem lt_of_hand (h : Custody scene transit machine) (hand : transit.hand = some id) :
    id < machine.sockets.length := h.known .hand id hand

end Custody
end Machine
end NetReactor
