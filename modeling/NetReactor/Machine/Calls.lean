import NetReactor.Machine.Program
/-!
Calls that leave the library. Each is made on the outside state and recorded in the journal.
-/
namespace NetReactor.Machine

variable {ω α : Type}

def outer (action : StateM ω α) : Step ω α := fun machine =>
  let (result, outside) := action machine.outside
  (result, { machine with outside })

def recorded (action : StateM ω α) (event : α → Event) : Step ω α := do
  let result ← outer action
  modify (·.note (event result))
  return result

def succeeded {ε : Type} : Except ε α → Bool
  | .ok _ => true
  | .error _ => false

def kernel (host : Host ω) : Kernel (Machine ω) := fun call =>
  recorded (host.kernel call) (.syscall call)

def channel (host : Host ω) (id : SessionId) : SecureChannel (Machine ω) where
  acquireCredentials context :=
    recorded ((host.channel id).acquireCredentials context) fun result =>
      .provider id (.credentials context.role context.hostname (succeeded result))
  handshakeStep target input :=
    recorded ((host.channel id).handshakeStep target input) fun answer =>
      .provider id (.step target input answer)
  streamSizes :=
    recorded (host.channel id).streamSizes fun result => .provider id (.sizes (succeeded result))
  encrypt record := do
    modify (·.note (.provider id (.encrypt record)))
    outer ((host.channel id).encrypt record)
  decrypt message :=
    recorded ((host.channel id).decrypt message) fun (decrypted, _) =>
      .provider id (.decrypt message decrypted.status)
  shutdownToken :=
    recorded (host.channel id).shutdownToken fun result =>
      .provider id (.shutdown (succeeded result))

def wire (host : Host ω) (id : SessionId) : Transport (Machine ω) where
  send data := recorded ((host.wire id).send data) fun result => .wire id (.send data result)
  recv buffer :=
    recorded ((host.wire id).recv buffer) fun (result, _) => .wire id (.recv buffer.length result)
  close := recorded (host.wire id).close fun _ => .wire id .close

end NetReactor.Machine
