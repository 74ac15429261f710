import NetReactor.Proofs.Ownership.Cycles
/-!
What an action uses is kept until the action is over: its loop, and the socket of a background operation. A
callback that the operation leaves behind shares that socket with the action, and so with its handle.
-/
namespace NetReactor.Machine

variable {ω α : Type} {host : Host ω} {scene : Scene} {machine : Machine ω}
variable {loop : LoopId} {socket : SocketId}

theorem keepsLoop_used {used : List LoopId} (names : machine.loopHandles.Proper) :
    keepsLoop { machine with busyLoops := used } loop = true ↔
      loop ∈ used ∨ ∃ name, machine.loopHandles.get? name = some loop := by
  have names : ({ machine with busyLoops := used }).loopHandles.Proper := names
  exact keepsLoop_iff names

namespace Custody

theorem occupied (h : Custody scene {} machine) (loop : LoopId) :
    Custody { scene with busyLoops := loop :: scene.busyLoops } {}
      { machine with busyLoops := loop :: machine.busyLoops } := by
  have used := h.loops rfl (loop :: machine.busyLoops) h.loopNames none fun other keeps =>
    .inl ((keepsLoop_used h.loopNames).mpr
      (((keepsLoop_iff h.loopNames).mp keeps).imp_left (List.mem_cons_of_mem _)))
  refine used.reframe ?_
  rw [← h.scene]
  rfl

theorem vacated (h : Custody { scene with busyLoops := loop :: scene.busyLoops } {} machine) (host : Host ω) :
    Custody scene {} (releaseLoop host loop { machine with busyLoops := machine.busyLoops.erase loop }).2 := by
  have busy : machine.busyLoops = loop :: scene.busyLoops := congrArg Scene.busyLoops h.scene
  have left := h.loops rfl (machine.busyLoops.erase loop) h.loopNames (some loop) fun other keeps => by
    by_cases own : other = loop
    · exact .inr (by rw [own])
    · exact .inl ((keepsLoop_used h.loopNames).mpr
        (((keepsLoop_iff h.loopNames).mp keeps).imp_left (List.mem_erase_of_ne own).mpr))
  refine Custody.releasedLoop (left.reframe ?_) host rfl rfl
  have back : ({ machine with busyLoops := machine.busyLoops.erase loop }).scene =
    { machine.scene with busyLoops := machine.busyLoops.erase loop } := rfl
  rw [back, h.scene, busy, List.erase_cons_head]

theorem holds_unused {hand : Option SocketId} {holder : Holder} {id : SocketId} {sockets : List SocketId}
    (apart : holder ≠ .busy) :
    Holds { machine with busySockets := sockets } hand holder id ↔ machine.Holds hand holder id := by
  cases holder with
  | busy => exact absurd rfl apart
  | _ => rfl

/-- Other sockets are in use. What is in use now shares its socket with the action or with a handle. -/
theorem used (h : Custody scene {} machine) (sockets : List SocketId) (doubt : Option SocketId)
    (shares : ∀ id ∈ sockets, id ∈ machine.busySockets ∨
      ∃ name, machine.socketHandles.get? name = some ⟨id, true⟩)
    (stays : ∀ id ∈ machine.busySockets, id ∈ sockets ∨ doubt = some id) :
    Custody { scene with busySockets := sockets } { doubt } { machine with busySockets := sockets } :=
  have passed := h.holders { machine with busySockets := sockets } id Function.injective_id (Nat.le_refl _)
    fun holder other holds => by
      by_cases own : holder = .busy
      · subst own
        obtain busy | ⟨name, there⟩ := shares other holds
        · exact .inl ⟨busy, fun alone => alone⟩
        · exact .inr ⟨rfl, .shared name, rfl, there⟩
      · exact .inl ⟨(holds_unused own).mp holds, fun alone => alone⟩
  { h with
    scene := congrArg (fun scene : Scene => { scene with busySockets := sockets }) h.scene
    books := h.books.same rfl rfl
    known := passed.1
    alone := passed.2
    kept := fun other isOpen => by
      obtain ⟨holder, holds, active⟩ := (h.kept other isOpen).resolve_right nofun
      by_cases own : holder = .busy
      · subst own
        exact (stays other holds).imp_left fun busy => ⟨.busy, busy, trivial⟩
      · exact .inl ⟨holder, (holds_unused own).mpr holds, by cases holder <;> exact active⟩ }

/-- An asynchronous handle shares its socket with the action. -/
theorem lent (h : Custody scene {} machine) {name : String}
    (there : machine.socketHandles.get? name = some ⟨socket, true⟩) :
    Custody { scene with busySockets := socket :: scene.busySockets } {}
      { machine with busySockets := socket :: machine.busySockets } := by
  have used := h.used (socket :: machine.busySockets) none (fun id mem => ?_) fun id mem =>
    .inl (List.mem_cons_of_mem _ mem)
  · refine used.reframe ?_
    rw [← h.scene]
    rfl
  · obtain rfl | busy := List.mem_cons.mp mem
    · exact .inr ⟨name, there⟩
    · exact .inl busy

theorem givenBack (h : Custody { scene with busySockets := socket :: scene.busySockets } {} machine)
    (host : Host ω) :
    Custody scene {}
      (releaseSocket host socket { machine with busySockets := machine.busySockets.erase socket }).2 := by
  have busy : machine.busySockets = socket :: scene.busySockets := congrArg Scene.busySockets h.scene
  have left := h.used (machine.busySockets.erase socket) (some socket)
    (fun id mem => .inl (List.mem_of_mem_erase mem)) fun id mem => by
      by_cases own : id = socket
      · exact .inr (by rw [own])
      · exact .inl ((List.mem_erase_of_ne own).mpr mem)
  refine Custody.released (left.reframe ?_) host rfl
  have back : ({ machine with busySockets := machine.busySockets.erase socket }).scene =
    { machine.scene with busySockets := machine.busySockets.erase socket } := rfl
  rw [back, h.scene, busy, List.erase_cons_head]

theorem enlisted (h : Custody scene {} machine) {callback : Callback}
    (works : ∀ socket, callback.operation.socket? = some socket → socket ∈ scene.busySockets) :
    Custody scene {} (machine.withCallback callback) := by
  have busy : machine.busySockets = scene.busySockets := congrArg Scene.busySockets h.scene
  have passed := h.holders (machine.withCallback callback) id Function.injective_id (Nat.le_refl _)
    fun holder other holds => by
      cases holder with
      | callback number =>
        obtain ⟨seen, view, operates⟩ := holds
        rw [view?_withCallback] at view
        split at view
        · cases view
          refine .inr ⟨rfl, .busy, rfl, ?_⟩
          rw [Holds, busy]
          exact works other operates
        · exact .inl ⟨⟨seen, view, operates⟩, fun alone => alone⟩
      | _ => exact .inl ⟨holds, fun alone => alone⟩
  exact {
    h with
    books := h.books.same rfl rfl
    known := passed.1
    alone := passed.2
    kept := fun other isOpen => by
      refine (h.kept other isOpen).imp_left ?_
      rintro ⟨holder, holds, active⟩
      refine ⟨holder, ?_⟩
      cases holder with
      | callback number =>
        obtain ⟨seen, view, operates⟩ := holds
        have same : (machine.withCallback callback).view? number = machine.view? number := by
          rw [view?_withCallback, if_neg (Nat.ne_of_lt (lt_of_view? view))]
        refine ⟨⟨seen, same.trans view, operates⟩, active.imp_right ?_⟩
        rintro ⟨⟨fresh, known, unspent⟩, reached⟩
        exact ⟨⟨fresh, same.trans known, unspent⟩, reached⟩
      | _ => exact ⟨holds, active⟩ }

theorem registered (h : Custody scene {} machine) (host : Host ω) (busy : loop ∈ scene.busyLoops)
    (descriptor : Descriptor) (interest : Interest) {callback : Callback}
    (works : ∀ socket, callback.operation.socket? = some socket → socket ∈ scene.busySockets) :
    Custody scene {} (register host loop descriptor interest callback machine).2 := by
  have enrolled : Custody scene
      { doubt := ((machine.loopAt loop).registry.lookup? descriptor).bind fun registration =>
        (machine.withCallback callback).socketOf? registration.callback }
      (machine.enrolled loop descriptor interest callback) := by
    refine (h.enlisted works).registry rfl (fun other registration mem => ?_) fun other some => ?_
    · by_cases own : loop = other ∧ registration.descriptor = descriptor
      · obtain ⟨rfl, here⟩ := own
        have old : (machine.loopAt loop).registry.lookup? descriptor = some registration :=
          Registry.lookup?_eq_some.mpr ⟨mem, here⟩
        rw [old]
        exact .inr rfl
      · refine .inl (.inl ⟨other, registration, ?_, rfl⟩)
        rw [entries, registry_updateRegistry]
        split
        · next here => exact Registry.mem_insert_of_ne mem fun same => own ⟨here.1, same⟩
        · exact mem
    · by_cases own : loop = other
      · refine .inr ((keepsLoop_iff h.loopNames).mpr (.inl ?_))
        rw [← own, show machine.busyLoops = scene.busyLoops from congrArg Scene.busyLoops h.scene]
        exact busy
      · refine .inl ?_
        rw [entries, registry_updateRegistry, if_neg fun here => own here.1] at some
        exact some
  have last : (register host loop descriptor interest callback machine).2 =
      (releaseOld host ((machine.loopAt loop).registry.lookup? descriptor)
        (machine.enrolled loop descriptor interest callback)).2 := rfl
  rw [last]
  cases old : (machine.loopAt loop).registry.lookup? descriptor with
  | none =>
    rw [old] at enrolled
    exact enrolled
  | some registration =>
    rw [old] at enrolled
    exact enrolled.releasedCallback host registration.callback rfl

end Custody

theorem leads_usingLoop {action : Run ω α}
    (inner : Leads (Custody { scene with busyLoops := loop :: scene.busyLoops } {}) action
      fun _ => Custody { scene with busyLoops := loop :: scene.busyLoops } {}) :
    Leads (Custody scene {}) (usingLoop host loop action) fun _ => Custody scene {} := by
  refine .bind (.modify fun _ h => h.occupied loop) fun _ => .bind inner fun answer => ?_
  intro machine result after h run
  cases run
  exact h.vacated host

theorem leads_usingSocket {action : Run ω α} (name : String)
    (inner : Leads (Custody { scene with busySockets := socket :: scene.busySockets } {}) action
      fun _ => Custody { scene with busySockets := socket :: scene.busySockets } {}) :
    Leads (fun machine => Custody scene {} machine ∧
        machine.socketHandles.get? name = some ⟨socket, true⟩)
      (usingSocket host socket action) fun _ => Custody scene {} := by
  refine .bind (.modify fun _ h => h.1.lent h.2) fun _ => .bind inner fun answer => ?_
  intro machine result after h run
  cases run
  exact h.givenBack host

end NetReactor.Machine
