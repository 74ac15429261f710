import NetReactor.Proofs.Ownership.Calls
import NetReactor.Proofs.Ownership.Rules
/-!
Letting go keeps custody. A socket that may have lost its last holder is closed if it has, and so are the
sockets of callbacks that lose their registration or their place in a cycle; a loop that nothing keeps any more
loses its registrations. A socket is closed without being asked for only when nothing keeps it.
-/
namespace NetReactor.Machine

variable {ω α β : Type} {scene : Scene} {transit next : Transit} {before after machine : Machine ω}
variable {id : SocketId} {loop : LoopId}

/-- Closing a socket that has no descriptor does nothing. -/
theorem closeSocket_shut (host : Host ω) (asked : Bool) (shut : (machine.socketAt id).isOpen = false) :
    (closeSocket host id asked machine).2 = machine := by
  have noted : machine.closing id asked = machine := by simp [closing, shut]
  have same : machine.setSocket id Socket.shut = machine := by
    have at_ := Socket.eq_shut shut
    rw [socketAt, List.getD_eq_getElem?_getD] at at_
    rw [setSocket]
    congr 1
    refine List.ext_getElem? fun position => ?_
    rw [List.getElem?_set]
    split
    · next here =>
      subst here
      split
      · next known => simpa [known] using at_.symm
      · next beyond => rw [List.getElem?_eq_none (Nat.le_of_not_lt beyond)]
    · rfl
  have last : (closeSocket host id asked machine).2 =
      (((machine.closing id asked).socketAt id).close (kernel host)
        (machine.closing id asked)).2.setSocket id Socket.shut :=
    congrArg (Machine.setSocket _ id) (close_eq_shut host _ _)
  have silent : ((machine.socketAt id).close (kernel host) machine).2 = machine := by
    rw [Socket.eq_shut shut]
    rfl
  rw [last, noted, silent, same]

/-- Closing an open socket puts down why, and makes the call. -/
theorem closeSocket_open (host : Host ω) (asked : Bool) (isOpen : (machine.socketAt id).isOpen = true) :
    ∃ outside reply, (closeSocket host id asked machine).2 =
      { machine with
        outside
        journal := .syscall (.close (machine.socketAt id).descriptor) reply ::
          .socket id (.closing (machine.socketAt id).descriptor asked (machine.keeps id)) ::
            machine.journal
        sockets := machine.sockets.set id Socket.shut } := by
  have noted : machine.closing id asked = machine.note (.socket id
      (.closing (machine.socketAt id).descriptor asked (machine.keeps id))) := by
    simp [closing, isOpen]
  have last : (closeSocket host id asked machine).2 =
      (((machine.closing id asked).socketAt id).close (kernel host)
        (machine.closing id asked)).2.setSocket id Socket.shut :=
    congrArg (Machine.setSocket _ id) (close_eq_shut host _ _)
  have called : ((machine.socketAt id).close (kernel host) (machine.closing id asked)).2 =
      (kernel host (.close (machine.socketAt id).descriptor) (machine.closing id asked)).2 := by
    unfold Socket.close
    rw [isOpen]
    rfl
  have at_ : (machine.closing id asked).socketAt id = machine.socketAt id := by rw [noted]; rfl
  rw [last, at_, called, noted]
  exact ⟨_, _, rfl⟩

theorem sessionHandles_closeSocket (host : Host ω) (id : SocketId) (asked : Bool) (machine : Machine ω) :
    (closeSocket host id asked machine).2.sessionHandles = machine.sessionHandles := by
  cases isOpen : (machine.socketAt id).isOpen with
  | false => rw [closeSocket_shut host asked isOpen]
  | true =>
    obtain ⟨outside, reply, last⟩ := closeSocket_open host asked isOpen
    rw [last]

namespace Custody

/-- A socket that has lost its descriptor needs no holder any more. -/
theorem shutting (h : Custody scene transit before) {outside : ω} {journal : List Event}
    (books : Books transit.loose
      { before with outside, journal, sockets := before.sockets.set id Socket.shut }) :
    Custody scene transit
      { before with outside, journal, sockets := before.sockets.set id Socket.shut } where
  books := books
  scene := h.scene
  socketNames := h.socketNames
  sessionNames := h.sessionNames
  loopNames := h.loopNames
  known holder other holds := by
    rw [List.length_set]
    exact h.known holder other (by cases holder <;> exact holds)
  alone holder third other alone mine theirs :=
    h.alone holder third other alone (by cases holder <;> exact mine) (by cases third <;> exact theirs)
  kept other isOpen := by
    have isOpen : ((before.setSocket id Socket.shut).socketAt other).isOpen = true := isOpen
    rw [socketAt_setSocket] at isOpen
    split at isOpen
    · cases isOpen
    · refine (h.kept other isOpen).imp_left ?_
      rintro ⟨holder, holds, active⟩
      exact ⟨holder, by cases holder <;> exact holds, by cases holder <;> exact active⟩
  live := h.live

theorem closed (h : Custody scene transit machine) (host : Host ω) (asked : Bool)
    (right : asked = true ∨ machine.keeps id = false) :
    Custody scene transit (closeSocket host id asked machine).2 ∧
      (closeSocket host id asked machine).2.socketAt id = Socket.shut := by
  cases isOpen : (machine.socketAt id).isOpen with
  | false =>
    rw [closeSocket_shut host asked isOpen]
    exact ⟨h, Socket.eq_shut isOpen⟩
  | true =>
    have known : id < machine.sockets.length := lt_of_isOpen isOpen
    obtain ⟨outside, reply, last⟩ := closeSocket_open host asked isOpen
    rw [last]
    refine ⟨h.shutting (h.books.close isOpen known right rfl rfl), ?_⟩
    exact (socketAt_setSocket machine id id Socket.shut).trans (if_pos ⟨rfl, known⟩)

/-- A doubt is settled by a holder, or by the socket having no descriptor. -/
theorem settle (h : Custody scene transit machine) (doubt : transit.doubt = some id)
    (settled : (machine.socketAt id).isOpen = false ∨ machine.keeps id = true) :
    Custody scene { transit with doubt := none } machine :=
  { h with
    kept := fun other isOpen => by
      obtain held | same := h.kept other isOpen
      · exact .inl held
      · rw [doubt] at same
        cases same
        obtain shut | keeps := settled
        · rw [shut] at isOpen
          cases isOpen
        · obtain ⟨holder, holds, active⟩ := (keeps_iff h.socketNames h.sessionNames).mp keeps
          refine .inl ⟨holder, ?_, active⟩
          cases holder with
          | hand => cases holds
          | _ => exact holds }

/-- A socket in hand that has no descriptor can be put away. -/
theorem putAway (h : Custody scene transit machine) (hand : transit.hand = some id)
    (shut : (machine.socketAt id).isOpen = false) :
    Custody scene { transit with hand := none } machine :=
  { h with
    known := fun holder other holds => h.known holder other (holds.whatever holds.ne_hand _)
    alone := fun holder third other alone mine theirs => h.alone holder third other alone
      (mine.whatever mine.ne_hand _) (theirs.whatever theirs.ne_hand _)
    kept := fun other isOpen => by
      refine (h.kept other isOpen).imp_left ?_
      rintro ⟨holder, holds, active⟩
      refine ⟨holder, holds.whatever ?_ _, active⟩
      rintro rfl
      cases hand.symm.trans holds
      rw [shut] at isOpen
      cases isOpen }

/-- A socket that is let go of by the hand is in doubt. -/
theorem putDown (h : Custody scene transit machine) (sure : transit.doubt = none) :
    Custody scene { transit with hand := none, doubt := transit.hand } machine :=
  { h with
    known := fun holder other holds => h.known holder other (holds.whatever holds.ne_hand _)
    alone := fun holder third other alone mine theirs => h.alone holder third other alone
      (mine.whatever mine.ne_hand _) (theirs.whatever theirs.ne_hand _)
    kept := fun other isOpen => by
      obtain ⟨holder, holds, active⟩ := (h.kept other isOpen).resolve_right (by simp [sure])
      by_cases inHand : holder = .hand
      · subst inHand
        exact .inr holds
      · exact .inl ⟨holder, holds.whatever inHand _, active⟩ }

end Custody

theorem releaseSocket_eq (host : Host ω) (id : SocketId) (machine : Machine ω) :
    (releaseSocket host id machine).2 =
      if machine.keeps id then machine else (closeSocket host id false machine).2 := by
  unfold releaseSocket
  change ((if !machine.keeps id then closeSocket host id false else pure () : Step ω Unit) machine).2 = _
  cases machine.keeps id <;> rfl

namespace Custody

/-- A doubt is settled by releasing the socket. -/
theorem released (h : Custody scene transit machine) (host : Host ω)
    (doubt : transit.doubt = some id) :
    Custody scene { transit with doubt := none } (releaseSocket host id machine).2 := by
  rw [releaseSocket_eq]
  split
  · next keeps => exact h.settle doubt (.inr keeps)
  · next lost =>
    obtain ⟨closed, shut⟩ := h.closed host false (.inr (Bool.eq_false_iff.mpr lost))
    exact closed.settle doubt (.inl (by rw [shut]; rfl))

end Custody

def socketOf? (machine : Machine ω) (number : CallbackId) : Option SocketId :=
  (machine.callback? number).bind (·.operation.socket?)

theorem Holds.socketOf? {hand : Option SocketId} {number : CallbackId}
    (h : machine.Holds hand (.callback number) id) : machine.socketOf? number = some id := by
  obtain ⟨seen, view, works⟩ := h
  obtain ⟨callback, known, rfl⟩ := callback?_of_view? view
  rw [Machine.socketOf?, known]
  exact works

theorem Transit.undoubted (sure : transit.doubt = none) : { transit with doubt := none } = transit := by
  cases transit
  cases sure
  rfl

namespace Custody

theorem releasedCallback (h : Custody scene transit machine) (host : Host ω) (number : CallbackId)
    (doubt : transit.doubt = machine.socketOf? number) :
    Custody scene { transit with doubt := none } (releaseCallback host number machine).2 := by
  have release : Passes (fun now => now = machine) (releaseCallback host number)
      fun _ => Custody scene { transit with doubt := none } := by
    refine .bind .get fun seen => ?_
    split
    · next socket works =>
      rintro now ⟨rfl, rfl⟩
      exact h.released host (doubt.trans works)
    · next works =>
      rintro now ⟨rfl, rfl⟩
      rw [Transit.undoubted (doubt.trans works)]
      exact h
  exact release machine rfl

/-- Registrations of a loop change. A callback that is not reached any more is the one in doubt. -/
theorem registry (h : Custody scene transit machine) (sure : transit.doubt = none)
    {event : LoopEvent} {change : Registry → Registry} {doubt : Option SocketId}
    (stays : ∀ other, ∀ registration ∈ machine.entries other,
      (machine.updateRegistry loop event change).Reached registration.callback ∨
        machine.socketOf? registration.callback = doubt)
    (live : ∀ other, (machine.updateRegistry loop event change).entries other ≠ [] →
      machine.entries other ≠ [] ∨ machine.keepsLoop other = true) :
    Custody scene { transit with doubt } (machine.updateRegistry loop event change) :=
  { h with
    books := h.books.one rfl rfl rfl
    known := fun holder other holds => h.known holder other (by cases holder <;> exact holds)
    alone := fun holder third other alone mine theirs => h.alone holder third other alone
      (by cases holder <;> exact mine) (by cases third <;> exact theirs)
    kept := fun other isOpen => by
      obtain ⟨holder, holds, active⟩ := (h.kept other isOpen).resolve_right (by simp [sure])
      have holds' : (machine.updateRegistry loop event change).Holds transit.hand holder other := by
        cases holder <;> exact holds
      cases holder with
      | callback number =>
        obtain executing | ⟨fresh, ⟨place, registration, mem, rfl⟩ | running⟩ := active
        · exact .inl ⟨_, holds', .inl executing⟩
        · obtain reached | lost := stays place registration mem
          · exact .inl ⟨_, holds', .inr ⟨fresh, reached⟩⟩
          · exact .inr (lost.symm.trans holds.socketOf?)
        · exact .inl ⟨_, holds', .inr ⟨fresh, .inr running⟩⟩
      | _ => exact .inl ⟨_, holds', trivial⟩
    live := fun other some => by
      obtain was | keeps := live other some
      · exact h.live other was
      · exact .inl keeps }

/-- Registrations are only taken away. -/
theorem withdrawn (h : Custody scene transit machine) (sure : transit.doubt = none)
    {event : LoopEvent} {change : Registry → Registry} {doubt : Option SocketId}
    (fewer : ∀ other, ∀ registration ∈ (machine.updateRegistry loop event change).entries other,
      registration ∈ machine.entries other)
    (stays : ∀ other, ∀ registration ∈ machine.entries other,
      (machine.updateRegistry loop event change).Reached registration.callback ∨
        machine.socketOf? registration.callback = doubt) :
    Custody scene { transit with doubt } (machine.updateRegistry loop event change) :=
  h.registry sure stays fun other some => by
    obtain ⟨registration, mem⟩ := List.exists_mem_of_ne_nil _ some
    exact .inl (List.ne_nil_of_mem (fewer other registration mem))

/-- A registration is taken away, and its callback is let go of. -/
theorem takenAway (h : Custody scene transit machine) (host : Host ω) (sure : transit.doubt = none)
    (descriptor : Descriptor) (event : LoopEvent) :
    Custody scene transit (takeAway host loop descriptor event machine).2 := by
  have stays other registration (mem : registration ∈ machine.entries other) :
      (machine.updateRegistry loop event (·.remove descriptor)).Reached registration.callback ∨
        machine.socketOf? registration.callback =
          ((machine.loopAt loop).registry.lookup? descriptor).bind (machine.socketOf? ·.callback) := by
    by_cases own : loop = other ∧ registration.descriptor = descriptor
    · obtain ⟨rfl, here⟩ := own
      rw [Registry.lookup?_eq_some.mpr ⟨mem, here⟩]
      exact .inr rfl
    · refine .inl (.inl ⟨other, registration, ?_, rfl⟩)
      rw [entries, registry_updateRegistry]
      split
      · next here => exact Registry.mem_remove.mpr ⟨mem, fun same => own ⟨here.1, same⟩⟩
      · exact mem
  have removed := h.withdrawn sure (fun _ _ => mem_entries_remove) stays
  have last : (takeAway host loop descriptor event machine).2 =
      (releaseOld host ((machine.loopAt loop).registry.lookup? descriptor)
        (machine.updateRegistry loop event (·.remove descriptor))).2 := rfl
  rw [last]
  cases old : (machine.loopAt loop).registry.lookup? descriptor with
  | none =>
    rw [old] at removed
    exact Transit.undoubted sure ▸ removed
  | some registration =>
    rw [old] at removed
    have released := removed.releasedCallback host registration.callback rfl
    exact Transit.undoubted sure ▸ released

theorem reframe {around : Scene} (h : Custody scene transit machine) (is : machine.scene = around) :
    Custody around transit machine := { h with scene := is }

/-- Callbacks begin or end, and cycles let go of what they found. -/
theorem around (h : Custody scene transit machine) (sure : transit.doubt = none)
    (executing : List CallbackId) (snapshots : List (List CallbackId)) (doubt : Option SocketId)
    (stays : ∀ number, machine.Active (.callback number) →
      Active { machine with executing, snapshots } (.callback number) ∨ machine.socketOf? number = doubt) :
    Custody { scene with executing, snapshots } { transit with doubt }
      { machine with executing, snapshots } :=
  { h with
    scene := congrArg (fun scene : Scene => { scene with executing, snapshots }) h.scene
    books := h.books.same rfl rfl
    known := fun holder other holds => h.known holder other (by cases holder <;> exact holds)
    alone := fun holder third other alone mine theirs => h.alone holder third other alone
      (by cases holder <;> exact mine) (by cases third <;> exact theirs)
    kept := fun other isOpen => by
      obtain ⟨holder, holds, active⟩ := (h.kept other isOpen).resolve_right (by simp [sure])
      have holds' : Holds { machine with executing, snapshots } transit.hand holder other := by
        cases holder <;> exact holds
      cases holder with
      | callback number =>
        obtain active | lost := stays number active
        · exact .inl ⟨_, holds', active⟩
        · exact .inr (lost.symm.trans holds.socketOf?)
      | _ => exact .inl ⟨_, holds', trivial⟩ }

theorem scene_snapshots {old : List (List CallbackId)}
    (h : Custody { scene with snapshots := old } transit machine) (found : List (List CallbackId)) :
    ({ machine with snapshots := found }).scene = { scene with snapshots := found } :=
  congrArg (fun scene : Scene => { scene with snapshots := found }) h.scene

/-- A cycle lets go of the callbacks that it found. -/
theorem releasedSnapshot (host : Host ω) (sure : transit.doubt = none) {ids : List CallbackId}
    {rest : List (List CallbackId)}
    (h : Custody { scene with snapshots := ids :: rest } transit machine) :
    Custody { scene with snapshots := rest } transit (releaseSnapshot host ids machine).2 := by
  have snapshots : machine.snapshots = ids :: rest := congrArg Scene.snapshots h.scene
  induction ids generalizing machine with
  | nil =>
    have ended := h.around sure machine.executing rest none fun number active => .inl <| by
      refine active.imp_right (And.imp_right (Or.imp_right ?_))
      rintro ⟨found, mem, here⟩
      rw [snapshots] at mem
      obtain rfl | mem := List.mem_cons.mp mem
      · cases here
      · exact ⟨found, mem, here⟩
    have last : (releaseSnapshot host [] machine).2 = { machine with snapshots := rest } := by
      change { machine with snapshots := machine.snapshots.tail } = { machine with snapshots := rest }
      rw [snapshots]
      rfl
    rw [last]
    exact Transit.undoubted sure ▸ ended.reframe (h.scene_snapshots rest)
  | cons number ids ih =>
    have shorter := h.around sure machine.executing (ids :: rest) (machine.socketOf? number)
      fun other active => by
        by_cases own : other = number
        · exact .inr (by rw [own])
        · refine .inl (active.imp_right (And.imp_right (Or.imp_right ?_)))
          rintro ⟨found, mem, here⟩
          rw [snapshots] at mem
          obtain rfl | mem := List.mem_cons.mp mem
          · exact ⟨ids, List.mem_cons_self .., (List.mem_cons.mp here).resolve_left own⟩
          · exact ⟨found, List.mem_cons_of_mem _ mem, here⟩
    have released := (shorter.reframe (h.scene_snapshots (ids :: rest))).releasedCallback host number rfl
    have released := Transit.undoubted sure ▸ released
    have last : (releaseSnapshot host (number :: ids) machine).2 = (releaseSnapshot host ids
        (releaseCallback host number { machine with snapshots := ids :: rest }).2).2 := by
      change (releaseSnapshot host ids (releaseCallback host number
        { machine with snapshots := ids :: machine.snapshots.tail }).2).2 = _
      rw [snapshots]
      rfl
    rw [last]
    exact ih released (congrArg Scene.snapshots released.scene)

end Custody

theorem mem_entries_takeAway (host : Host ω) {descriptor : Descriptor} {event : LoopEvent}
    {registration : Registration}
    (mem : registration ∈ (takeAway host loop descriptor event machine).2.entries loop) :
    registration ∈ machine.entries loop ∧ registration.descriptor ≠ descriptor := by
  obtain ⟨events, released⟩ := quietly_releaseOld host
    ((machine.loopAt loop).registry.lookup? descriptor)
    (machine.updateRegistry loop event (·.remove descriptor))
  have mem : registration ∈ (machine.updateRegistry loop event (·.remove descriptor)).entries loop := by
    rw [entries, ← released.registry]
    exact mem
  refine ⟨mem_entries_remove mem, fun here => ?_⟩
  have known := lt_of_mem_entries (mem_entries_remove mem)
  rw [entries, registry_updateRegistry, if_pos ⟨rfl, known⟩] at mem
  exact (Registry.mem_remove.mp mem).2 here

theorem mem_entries_unregisterAll (host : Host ω) {descriptors : List Descriptor}
    {registration : Registration}
    (mem : registration ∈ (unregisterAll host loop descriptors machine).2.entries loop) :
    registration ∈ machine.entries loop ∧ registration.descriptor ∉ descriptors := by
  induction descriptors generalizing machine with
  | nil => exact ⟨mem, List.not_mem_nil⟩
  | cons descriptor rest ih =>
    obtain ⟨there, absent⟩ := ih mem
    obtain ⟨before, apart⟩ := mem_entries_takeAway host there
    exact ⟨before, by simp [apart, absent]⟩

namespace Custody

theorem unregisteredAll (host : Host ω) (sure : transit.doubt = none) (descriptors : List Descriptor)
    (h : Custody scene transit machine) :
    Custody scene transit (unregisterAll host loop descriptors machine).2 := by
  induction descriptors generalizing machine with
  | nil => exact h
  | cons descriptor rest ih => exact ih (h.takenAway host sure descriptor (.removed descriptor))

/-- A stray loop that is kept after all, or has nothing registered, is no concern. -/
theorem found (h : Custody scene transit machine) (stray : transit.stray = some loop)
    (settled : machine.entries loop = [] ∨ machine.keepsLoop loop = true) :
    Custody scene { transit with stray := none } machine :=
  { h with
    live := fun other some => by
      obtain keeps | same := h.live other some
      · exact .inl keeps
      · rw [stray] at same
        cases same
        exact .inl (settled.resolve_left some) }

theorem releasedLoop (h : Custody scene transit machine) (host : Host ω) (sure : transit.doubt = none)
    (stray : transit.stray = some loop) :
    Custody scene { transit with stray := none } (releaseLoop host loop machine).2 := by
  have last : (releaseLoop host loop machine).2 = ((if !machine.keepsLoop loop then unregisterAll host loop
      ((machine.entries loop).map (·.descriptor)) else pure () : Step ω Unit) machine).2 := rfl
  rw [last]
  cases keeps : machine.keepsLoop loop with
  | true => exact h.found stray (.inr keeps)
  | false =>
    refine (h.unregisteredAll host sure _).found stray (.inl ?_)
    refine List.eq_nil_iff_forall_not_mem.mpr fun registration mem => ?_
    obtain ⟨there, absent⟩ := mem_entries_unregisterAll host mem
    exact absent (List.mem_map_of_mem there)

/-- Loops change hands. One that may have lost its last one is stray. -/
theorem loops (h : Custody scene transit machine) (tame : transit.stray = none)
    (busyLoops : List LoopId) {loopHandles : Table Nat LoopId} (names : loopHandles.Proper)
    (stray : Option LoopId)
    (stays : ∀ loop, machine.keepsLoop loop = true →
      keepsLoop { machine with busyLoops, loopHandles } loop = true ∨ stray = some loop) :
    Custody { scene with busyLoops } { transit with stray }
      { machine with busyLoops, loopHandles } :=
  { h with
    scene := congrArg (fun scene : Scene => { scene with busyLoops }) h.scene
    books := h.books.same rfl rfl
    loopNames := names
    known := fun holder other holds => h.known holder other (by cases holder <;> exact holds)
    alone := fun holder third other alone mine theirs => h.alone holder third other alone
      (by cases holder <;> exact mine) (by cases third <;> exact theirs)
    kept := fun other isOpen => by
      refine (h.kept other isOpen).imp_left ?_
      rintro ⟨holder, holds, active⟩
      exact ⟨holder, by cases holder <;> exact holds, by cases holder <;> exact active⟩
    live := fun other some => stays other ((h.live other some).resolve_right (by simp [tame])) }

end Custody
end NetReactor.Machine
