import NetReactor.Proofs.Machine.QuietSession
import NetReactor.Proofs.Machine.Trace
/-!
What takes registrations away, and the operations of callbacks: apart from quiet calls they only take
registrations away. Whatever relation between machines holds of both holds of them.
-/
namespace NetReactor.Machine

variable {ω α : Type} {host : Host ω} {loop : LoopId} {kind : Machine ω → Machine ω → Prop}

theorem Quietly.within {action : Step ω α} (quiet : Subrelation Quieted kind) (h : Quietly action) :
    Within kind action := fun machine => quiet (h machine)

section
variable [IsPreorder (Machine ω) kind]

section
variable (taken : ∀ descriptor, Within kind (unregister host loop descriptor))
include taken

theorem within_unregisterAll (descriptors : List Descriptor) :
    Within kind (unregisterAll host loop descriptors) := by
  induction descriptors with
  | nil => exact .pure _
  | cons descriptor rest ih => exact .bind (taken descriptor) fun _ => ih

theorem within_releaseLoop : Within kind (releaseLoop host loop) := by
  refine .bind .get fun machine => ?_
  split
  · exact within_unregisterAll taken _
  · exact .pure _

end

section
variable (quiet : Subrelation Quieted kind)
include quiet

theorem within_takeAway {descriptor : Descriptor} {event : LoopEvent}
    (h : ∀ machine, kind machine (machine.updateRegistry loop event (·.remove descriptor))) :
    Within kind (takeAway host loop descriptor event) :=
  .bind .get fun _ => .bind h fun _ => (quietly_releaseOld host _).within quiet

theorem within_storeLoop (taken : ∀ loop descriptor, Within kind (unregister host loop descriptor))
    (name : Nat) : Within kind (storeLoop host name loop) := by
  have named (machine : Machine ω) : kind machine
      { machine with loopHandles := machine.loopHandles.put name loop } :=
    quiet ⟨[], .of_same rfl rfl rfl rfl rfl rfl⟩
  refine .bind .get fun machine => .bind named fun _ => ?_
  split
  · exact within_releaseLoop (taken _)
  · exact .pure _

variable {id : CallbackId} {descriptor : Descriptor} {operation : Operation} {ready : Interest}

theorem within_acceptResult (withdrawn : Within kind (withdraw host loop descriptor id)) (socket : SocketId)
    (keep : Option String) : Within kind (acceptResult host loop id socket keep descriptor ready) := by
  unfold acceptResult
  split
  · exact .bind withdrawn fun _ => .pure _
  · refine .bind .get fun machine => .bind ((quietly_accept host _).within quiet) fun result => ?_
    split
    · exact .bind ((quietly_placeAccepted host _ _ _).within quiet) fun _ => .pure _
    · exact .pure _
    · exact .bind withdrawn fun _ => .pure _

theorem within_respond
    (withdrawn : operation.accepts = true → Within kind (withdraw host loop descriptor id)) :
    Within kind (respond host loop id operation descriptor ready) := by
  cases operation with
  | watch => exact .pure _
  | connect socket => exact .bind ((quietly_connectResult host _ _).within quiet) fun _ => .pure _
  | accept socket keep => exact .bind (within_acceptResult quiet (withdrawn rfl) _ _) fun _ => .pure _
  | send socket data => exact .bind ((quietly_sendResult host _ _ _).within quiet) fun _ => .pure _
  | recv socket buffer => exact .bind ((quietly_recvResult host _ _ _).within quiet) fun _ => .pure _

end
end
end NetReactor.Machine
