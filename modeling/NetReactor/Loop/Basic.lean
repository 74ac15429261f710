import NetReactor.Duration
import NetReactor.Loop.Registry
import NetReactor.Poll
/-!
The state of one event loop: its registrations, whether it is running, the timeout of a run that is not
given one, and a buffer that its cycles use again and again.
-/
namespace NetReactor

structure LoopSettings where
  timeout : Option Duration := some (Duration.ofMillis 100)
  -- A hint that changes no behaviour.
  capacity : Nat := 0

structure EventLoop where
  registry : Registry := Registry.empty
  running : Bool := false
  defaultTimeout : Option Duration := some (Duration.ofMillis 100)
  -- What the last cycle left there.
  buffer : List PollEntry := []

def LoopSettings.build (settings : LoopSettings) : EventLoop :=
  { defaultTimeout := settings.timeout }

namespace EventLoop

def shouldContinue (loop : EventLoop) : Bool := loop.running && !loop.registry.isEmpty

def timeoutText : Option Duration → String
  | none => "None"
  | some duration => "Some(" ++ duration.text ++ ")"

def text (loop : EventLoop) : String :=
  "EventLoop \x7b registrations: " ++ toString loop.registry.size ++ ", running: " ++
    toString loop.running ++ ", default_timeout: " ++ timeoutText loop.defaultTimeout ++ " \x7d"

def weakText (alive : Bool) : String := "WeakEventLoop \x7b alive: " ++ toString alive ++ " \x7d"

end EventLoop
end NetReactor
