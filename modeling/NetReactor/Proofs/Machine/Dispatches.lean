import NetReactor.Proofs.Machine.Growth
/-!
The dispatches of a loop, read off the journal in the order in which they happened. Those of one cycle have a depth
of their own among everything that happens during the cycle.
-/
namespace NetReactor.Machine

variable {ω : Type} {loop : LoopId} {depth : Nat} {events early late : List Event}
variable {registration : Registration}

def dispatch? (loop : LoopId) (depth : Nat) : Event → Option (CallbackId × Descriptor × Interest)
  | .loop other (.dispatched deep id descriptor ready) =>
    if other = loop ∧ deep = depth then some (id, descriptor, ready) else none
  | _ => none

def dispatches (loop : LoopId) (depth : Nat) (events : List Event) :
    List (CallbackId × Descriptor × Interest) :=
  events.reverse.filterMap (dispatch? loop depth)

theorem dispatches_append : dispatches loop depth (late ++ early) =
    dispatches loop depth early ++ dispatches loop depth late := by
  simp [dispatches]

theorem dispatches_cons (event : Event) : dispatches loop depth (event :: events) =
    dispatches loop depth events ++ (dispatch? loop depth event).toList := by
  cases h : dispatch? loop depth event <;> simp [dispatches, h]

theorem dispatches_eq_nil (h : ∀ event ∈ events, dispatch? loop depth event = none) :
    dispatches loop depth events = [] :=
  List.filterMap_eq_nil_iff.mpr fun event mem => h event (List.mem_reverse.mp mem)

theorem dispatches_retirement : dispatches loop depth (retirement loop registration) = [] := by
  apply dispatches_eq_nil
  intro event mem
  rw [(mem_retirement.mp mem).2]
  rfl

theorem dispatches_outward (h : ∀ event ∈ events, event.isOutward = true) :
    dispatches loop depth events = [] := by
  apply dispatches_eq_nil
  intro event mem
  cases event with
  | loop other event => cases h _ mem
  | _ => rfl

end NetReactor.Machine
