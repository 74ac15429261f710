import NetReactor.Machine.Cycle
/-!
What event loops answer to a program, by the names of their handles. A loop lives as long as it has a handle
or is in use; a weak handle only finds it while it lives.
-/
namespace NetReactor.Machine

variable {ω : Type}

def askLoop (host : Host ω) (perform : Action ω → Run ω Answer) (budget : Nat) (loop : LoopId)
    (request : LoopRequest) : Run ω Answer := do
  let state := (← get).loopAt loop
  match request with
  | .add descriptor interest code once =>
    register host loop descriptor interest { operation := .watch, code, once }
    return .nothing
  | .remove descriptor =>
    unregister host loop descriptor
    return .nothing
  | .runOnce timeout => return .count (← runOnce host perform loop timeout)
  | .run timeout =>
    run host perform loop timeout budget
    return .nothing
  | .runDefault =>
    run host perform loop state.defaultTimeout budget
    return .nothing
  | .stop =>
    modify fun machine => (machine.setRunning loop false).note (.loop loop .stopped)
    return .nothing
  | .isRunning => return .flag state.running
  | .isEmpty => return .flag state.registry.isEmpty
  | .size => return .count state.registry.size
  | .contains descriptor => return .flag (state.registry.contains descriptor)
  | .interest descriptor => return .mask (state.registry.interest? descriptor)
  | .defaultTimeout => return .duration state.defaultTimeout
  | .text => return .text state.text

def upgraded? (machine : Machine ω) (weak : Nat) : Option LoopId :=
  (machine.weakHandles.get? weak).filter machine.keepsLoop

def loopAction (host : Host ω) (perform : Action ω → Run ω Answer) (budget : Nat)
    (action : LoopAction) : Run ω Answer := do
  let machine ← get
  match action with
  | .create name settings =>
    let loop ← (addLoop settings.build : Step ω LoopId)
    storeLoop host name loop
    return .nothing
  | .clone name other =>
    match machine.loopHandles.get? name with
    | none => return .missing
    | some loop =>
      storeLoop host other loop
      return .nothing
  | .drop name =>
    match machine.loopHandles.get? name with
    | none => return .flag false
    | some loop =>
      set { machine with loopHandles := machine.loopHandles.without name }
      releaseLoop host loop
      return .flag true
  | .weaken weak name =>
    match machine.loopHandles.get? name with
    | none => return .missing
    | some loop =>
      set { machine with weakHandles := machine.weakHandles.put weak loop }
      return .nothing
  | .upgrade weak keep =>
    match machine.upgraded? weak, keep with
    | none, _ => return .flag false
    | some _, none => return .flag true
    | some loop, some name =>
      storeLoop host name loop
      return .flag true
  | .weakRemove weak descriptor =>
    match machine.upgraded? weak with
    | none => return .nothing
    | some loop =>
      unregister host loop descriptor
      return .nothing
  | .weakText weak => return .text (EventLoop.weakText (machine.upgraded? weak).isSome)
  | .request name request =>
    match machine.loopHandles.get? name with
    | none => return .missing
    | some loop => usingLoop host loop (askLoop host perform budget loop request)

end NetReactor.Machine
