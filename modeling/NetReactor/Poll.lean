import NetReactor.Duration
import NetReactor.Interest
import NetReactor.Kernel
/-!
Waiting for readiness. One call watches all entries, in their order; the reported masks are overwritten
whatever it answers. Nothing is kept between calls.
-/
namespace NetReactor

structure PollEntry where
  descriptor : Descriptor
  requested : Interest
  returned : Interest := Interest.empty
deriving DecidableEq

namespace PollEntry

def isReady (entry : PollEntry) : Bool := !entry.returned.isEmpty

def watch (entry : PollEntry) : Watch := (entry.descriptor, entry.requested.toEvents)

def reset (entry : PollEntry) : PollEntry := { entry with returned := Interest.empty }

def report : List PollEntry → List UInt16 → List PollEntry
  | [], _ => []
  | entry :: entries, [] => entry.reset :: report entries []
  | entry :: entries, events :: rest =>
    { entry with returned := Interest.ofEvents events } :: report entries rest

def text (entry : PollEntry) : String :=
  "PollEntry \x7b descriptor: " ++ toString entry.descriptor ++ ", requested: " ++
    entry.requested.flags ++ ", returned: " ++ entry.returned.flags ++ " \x7d"

end PollEntry

/-- Waits until some entry is ready or the timeout has passed. Gives the number of ready entries, or the
failure of the call, and the entries with what was reported. Without entries no call is made. -/
def poll {σ : Type} (kernel : Kernel σ) (entries : List PollEntry) (timeout : Option Duration) :
    StateM σ (Outcome Nat × List PollEntry) :=
  if entries.isEmpty then pure (.ok 0, [])
  else do
    let reply ← kernel (.poll (entries.map PollEntry.watch) (Duration.pollTimeout timeout))
    let reported :=
      if 0 < reply.result then PollEntry.report entries reply.events
      else entries.map PollEntry.reset
    if reply.failed then return (.error reply.error, reported)
    else return (.ok (reported.countP PollEntry.isReady), reported)

end NetReactor
