import NetReactor.Proofs.Ownership.Release
/-!
Passing sockets and loops on keeps custody: names are given and taken away, and sockets go from the kernel over
some hand to a handle or to a session. Whatever had the name before is let go of.
-/
namespace NetReactor.Machine

variable {ω α β : Type} {scene : Scene} {transit : Transit} {machine : Machine ω}
variable {id : SocketId} {loop : LoopId}

theorem keepsLoop_iff (names : machine.loopHandles.Proper) : machine.keepsLoop loop = true ↔
    loop ∈ machine.busyLoops ∨ ∃ name, machine.loopHandles.get? name = some loop := by
  simp only [keepsLoop, Bool.or_eq_true, List.contains_iff_mem, names.mem_values]

namespace Custody

theorem storedLoop (h : Custody scene transit machine) (host : Host ω) (sure : transit.doubt = none)
    (tame : transit.stray = none) (name : Nat) (loop : LoopId) :
    Custody scene transit (storeLoop host name loop machine).2 := by
  have names := h.loopNames.put name loop
  have stored := h.loops tame machine.busyLoops names (machine.loopHandles.get? name) fun other keeps => by
    rw [keepsLoop_iff names]
    obtain busy | ⟨known, there⟩ := (keepsLoop_iff h.loopNames).mp keeps
    · exact .inl (.inl busy)
    · by_cases own : name = known
      · exact .inr (own ▸ there)
      · exact .inl (.inr ⟨known, by rw [Table.get?_put, if_neg own, there]⟩)
  have stored := stored.reframe h.scene
  have tamed : { transit with stray := none } = transit := by
    cases transit
    cases tame
    rfl
  have store : Passes (fun now => now = machine) (storeLoop host name loop)
      fun _ => Custody scene transit := by
    refine .bind .get fun seen => .bind .changed fun _ => ?_
    split
    · next old there =>
      rintro _ ⟨_, ⟨rfl, rfl⟩, rfl⟩
      rw [there] at stored
      exact tamed ▸ stored.releasedLoop host sure rfl
    · next there =>
      rintro _ ⟨_, ⟨rfl, rfl⟩, rfl⟩
      rw [there, tamed] at stored
      exact stored
  exact store machine rfl

end Custody

theorem holds_handle {hand : Option SocketId} {name : String} {asynchronous : Bool} :
    machine.Holds hand (Holder.handle name asynchronous) id ↔
      machine.socketHandles.get? name = some ⟨id, asynchronous⟩ := by
  cases asynchronous <;> rfl

/-- Whatever becomes of one name, the holders that go by others stay. -/
theorem holds_other {hand : Option SocketId} {name : String} {handles : Table String SocketHandle}
    (same : ∀ other, other ≠ name → handles.get? other = machine.socketHandles.get? other)
    {holder : Holder} (apart : ∀ asynchronous, holder ≠ .handle name asynchronous) :
    Holds { machine with socketHandles := handles } hand holder id ↔ machine.Holds hand holder id := by
  cases holder with
  | plain known =>
    simp only [Holds, same known fun own => apart false (by rw [own]; rfl)]
  | shared known =>
    simp only [Holds, same known fun own => apart true (by rw [own]; rfl)]
  | _ => rfl

namespace Custody

/-- Handles change. Every holder was one before, and what lost its holder is in doubt. -/
theorem handles (h : Custody scene transit machine) (sure : transit.doubt = none)
    {socketHandles : Table String SocketHandle} {sessionHandles : Table String OpenSession}
    (socketNames : socketHandles.Proper) (sessionNames : sessionHandles.Proper)
    (hand doubt : Option SocketId) (back : Holder → Holder) (apart : back.Injective)
    (came : ∀ holder id, Holds { machine with socketHandles, sessionHandles } hand holder id →
      machine.Holds transit.hand (back holder) id ∧ (holder.isAlone = true → (back holder).isAlone = true))
    (stays : ∀ holder id, machine.Holds transit.hand holder id → machine.Active holder →
      (∃ other, Holds { machine with socketHandles, sessionHandles } hand other id ∧
        machine.Active other) ∨ doubt = some id) :
    Custody scene { transit with hand, doubt } { machine with socketHandles, sessionHandles } :=
  have passed := h.holders { machine with socketHandles, sessionHandles } back apart (Nat.le_refl _)
    fun holder id holds => .inl (came holder id holds)
  { h with
    books := h.books.same rfl rfl
    socketNames
    sessionNames
    known := passed.1
    alone := passed.2
    kept := fun other isOpen => by
      obtain ⟨holder, holds, active⟩ := (h.kept other isOpen).resolve_right (by simp [sure])
      refine (stays holder other holds active).imp_left ?_
      rintro ⟨third, holds', active'⟩
      exact ⟨third, holds', by cases third <;> exact active'⟩ }

/-- A socket in hand gets a name, and the socket that had the name is in doubt. -/
theorem named (h : Custody scene transit machine) (sure : transit.doubt = none)
    (hand : transit.hand = some id) (name : String) (asynchronous : Bool) :
    Custody scene
      { transit with hand := none, doubt := (machine.socketHandles.get? name).map (·.id) }
      { machine with socketHandles := machine.socketHandles.put name ⟨id, asynchronous⟩ } := by
  have same := machine.socketHandles.get?_put_of_ne name ⟨id, asynchronous⟩
  have now : (machine.socketHandles.put name ⟨id, asynchronous⟩).get? name = some ⟨id, asynchronous⟩ := by
    rw [Table.get?_put, if_pos rfl]
  refine h.handles sure (h.socketNames.put name _) h.sessionNames none _
    (Equiv.swap (Holder.handle name asynchronous) .hand) (Equiv.injective _) ?_ ?_
  · intro holder other holds
    by_cases own : ∃ kind, holder = .handle name kind
    · obtain ⟨kind, rfl⟩ := own
      obtain ⟨rfl, rfl⟩ := Option.some.inj (now.symm.trans (holds_handle.mp holds))
      rw [Equiv.swap_apply_left]
      exact ⟨hand, fun _ => rfl⟩
    · have apart kind (is : holder = .handle name kind) : False := own ⟨kind, is⟩
      rw [Equiv.swap_apply_of_ne_of_ne (apart _) holds.ne_hand]
      exact ⟨((holds_other same apart).mp holds).whatever holds.ne_hand _, fun alone => alone⟩
  · intro holder other holds active
    by_cases own : ∃ kind, holder = .handle name kind
    · obtain ⟨kind, rfl⟩ := own
      rw [holds_handle.mp holds]
      exact .inr rfl
    · have apart kind (is : holder = .handle name kind) : False := own ⟨kind, is⟩
      by_cases inHand : holder = .hand
      · subst inHand
        cases hand.symm.trans holds
        exact .inl ⟨.handle name asynchronous, holds_handle.mpr now, by cases asynchronous <;> trivial⟩
      · exact .inl ⟨holder, (holds_other same apart).mpr (holds.whatever inHand _), active⟩

theorem storedSocket (h : Custody scene transit machine) (host : Host ω) (sure : transit.doubt = none)
    (hand : transit.hand = some id) (name : String) (asynchronous : Bool) :
    Custody scene { transit with hand := none } (storeSocket host name ⟨id, asynchronous⟩ machine).2 := by
  have stored := h.named sure hand name asynchronous
  have sure' : ({ transit with hand := none } : Transit).doubt = none := sure
  have store : Passes (fun now => now = machine) (storeSocket host name ⟨id, asynchronous⟩)
      fun _ => Custody scene { transit with hand := none } := by
    rw [← Transit.undoubted sure']
    refine .bind .get fun seen => .bind .changed fun _ => ?_
    split
    · next old there =>
      rintro _ ⟨_, ⟨rfl, rfl⟩, rfl⟩
      rw [there] at stored
      exact stored.released host rfl
    · next there =>
      rintro _ ⟨_, ⟨rfl, rfl⟩, rfl⟩
      rw [there] at stored
      exact stored
  exact store machine rfl

/-- The socket of a handle that has it for itself is taken in hand. -/
theorem taken (h : Custody scene transit machine) (sure : transit.doubt = none)
    (empty : transit.hand = none) {name : String}
    (there : machine.socketHandles.get? name = some ⟨id, false⟩) :
    Custody scene { transit with hand := some id }
      { machine with socketHandles := machine.socketHandles.without name } := by
  have same := machine.socketHandles.get?_without_of_ne name
  have gone : (machine.socketHandles.without name).get? name = none := by
    rw [Table.get?_without, if_pos rfl]
  refine sure ▸ h.handles sure (h.socketNames.without name) h.sessionNames (some id) none
    (Equiv.swap (Holder.handle name false) .hand) (Equiv.injective _) ?_ ?_
  · intro holder other holds
    by_cases own : ∃ kind, holder = .handle name kind
    · obtain ⟨kind, rfl⟩ := own
      cases gone.symm.trans (holds_handle.mp holds)
    · have apart kind (is : holder = .handle name kind) : False := own ⟨kind, is⟩
      by_cases inHand : holder = .hand
      · subst inHand
        cases holds
        rw [Equiv.swap_apply_right]
        exact ⟨there, fun _ => rfl⟩
      · rw [Equiv.swap_apply_of_ne_of_ne (apart false) inHand]
        exact ⟨((holds_other same apart).mp holds).whatever inHand _, fun alone => alone⟩
  · intro holder other holds active
    rw [empty] at holds
    by_cases own : ∃ kind, holder = .handle name kind
    · obtain ⟨kind, rfl⟩ := own
      cases there.symm.trans (holds_handle.mp holds)
      exact .inl ⟨.hand, rfl, trivial⟩
    · have apart kind (is : holder = .handle name kind) : False := own ⟨kind, is⟩
      exact .inl ⟨holder, (holds_other same apart).mpr (holds.whatever holds.ne_hand _), active⟩

/-- A name is taken away, and its socket is in doubt. -/
theorem unnamed (h : Custody scene transit machine) (sure : transit.doubt = none) {name : String}
    {handle : SocketHandle} (there : machine.socketHandles.get? name = some handle) :
    Custody scene { transit with doubt := some handle.id }
      { machine with socketHandles := machine.socketHandles.without name } := by
  have same := machine.socketHandles.get?_without_of_ne name
  have gone : (machine.socketHandles.without name).get? name = none := by
    rw [Table.get?_without, if_pos rfl]
  refine h.handles sure (h.socketNames.without name) h.sessionNames transit.hand (some handle.id) id
    Function.injective_id ?_ ?_
  · intro holder other holds
    by_cases own : ∃ kind, holder = .handle name kind
    · obtain ⟨kind, rfl⟩ := own
      cases gone.symm.trans (holds_handle.mp holds)
    · exact ⟨(holds_other same fun kind is => own ⟨kind, is⟩).mp holds, fun alone => alone⟩
  · intro holder other holds active
    by_cases own : ∃ kind, holder = .handle name kind
    · obtain ⟨kind, rfl⟩ := own
      cases there.symm.trans (holds_handle.mp holds)
      exact .inr rfl
    · exact .inl ⟨holder, (holds_other same fun kind is => own ⟨kind, is⟩).mpr holds, active⟩

end Custody

theorem holds_otherSession {hand : Option SocketId} {name : String} {handles : Table String OpenSession}
    (same : ∀ other, other ≠ name → handles.get? other = machine.sessionHandles.get? other)
    {holder : Holder} (apart : holder ≠ .session name) :
    Holds { machine with sessionHandles := handles } hand holder id ↔ machine.Holds hand holder id := by
  cases holder with
  | session known => simp only [Holds, same known fun own => apart (by rw [own])]
  | _ => rfl

namespace Custody

/-- The session in hand gets a name, or the name is taken away. The socket of the session that had the name is
in hand then. -/
theorem exchanged (h : Custody scene transit machine) (sure : transit.doubt = none) {name : String}
    {handles : Table String OpenSession} (names : handles.Proper)
    (same : ∀ other, other ≠ name → handles.get? other = machine.sessionHandles.get? other)
    (hand : transit.hand = (handles.get? name).bind (·.link.socket?)) :
    Custody scene { transit with hand := (machine.sessionHandles.get? name).bind (·.link.socket?) }
      { machine with sessionHandles := handles } := by
  refine sure ▸ h.handles sure h.socketNames names _ none
    (Equiv.swap (.session name) .hand) (Equiv.injective _) ?_ ?_
  · intro holder other holds
    by_cases own : holder = .session name
    · subst own
      rw [Equiv.swap_apply_left]
      obtain ⟨opened, there, link⟩ := holds
      refine ⟨?_, fun _ => rfl⟩
      rw [Holds, hand, there]
      exact link
    · by_cases inHand : holder = .hand
      · subst inHand
        rw [Equiv.swap_apply_right]
        exact ⟨Option.bind_eq_some_iff.mp holds, fun _ => rfl⟩
      · rw [Equiv.swap_apply_of_ne_of_ne own inHand]
        exact ⟨((holds_otherSession same own).mp holds).whatever inHand _, fun alone => alone⟩
  · intro holder other holds active
    by_cases own : holder = .session name
    · subst own
      exact .inl ⟨.hand, Option.bind_eq_some_iff.mpr holds, trivial⟩
    · by_cases inHand : holder = .hand
      · subst inHand
        exact .inl ⟨.session name, Option.bind_eq_some_iff.mp (hand.symm.trans holds), trivial⟩
      · exact .inl ⟨holder, (holds_otherSession same own).mpr (holds.whatever inHand _), active⟩

/-- A session is put back under its name. -/
theorem putBack (h : Custody scene transit machine) (sure : transit.doubt = none) {name : String}
    {opened changed : OpenSession} (there : machine.sessionHandles.get? name = some opened)
    (link : changed.link = opened.link) :
    Custody scene transit { machine with sessionHandles := machine.sessionHandles.put name changed } := by
  have same := machine.sessionHandles.get?_put_of_ne name changed
  have now : (machine.sessionHandles.put name changed).get? name = some changed := by
    rw [Table.get?_put, if_pos rfl]
  have kept {holder other} (own : holder = .session name) :
      Holds { machine with sessionHandles := machine.sessionHandles.put name changed } transit.hand
        holder other ↔ machine.Holds transit.hand holder other := by
    subst own
    simp [Holds, now, there, link]
  refine Transit.undoubted sure ▸ h.handles sure h.socketNames (h.sessionNames.put name changed) transit.hand
    none id Function.injective_id (fun holder other holds => ?_) fun holder other holds active => ?_
  · refine ⟨?_, fun alone => alone⟩
    by_cases own : holder = .session name
    · exact (kept own).mp holds
    · exact (holds_otherSession same own).mp holds
  · by_cases own : holder = .session name
    · exact .inl ⟨holder, (kept own).mpr holds, active⟩
    · exact .inl ⟨holder, (holds_otherSession same own).mpr holds, active⟩

end Custody
end NetReactor.Machine
