import NetReactor.Session.Channel
/-!
The provider without a handshake and without encryption: a record is its plaintext. Its state is the side
it was asked to play, which it has once credentials were requested.
-/
namespace NetReactor.Plaintext

def maxMessage : Nat := 16384

def handshakeStep (input : Option Bytes) : HandshakeStep :=
  match input with
  | some (byte :: rest) => { status := .done, extra := some (byte :: rest).length }
  | _ => { status := .done }

def decrypt (message : Bytes) : Decrypted :=
  if message.isEmpty then { status := .incompleteMessage }
  else { status := .done, regions := [⟨.data, 0, message.length⟩] }

def sizes (role : Option Role) : Except ChannelError RecordSizing :=
  if role.isSome then .ok ⟨0, 0, maxMessage⟩ else .error .noContext

def channel : SecureChannel (Option Role) where
  acquireCredentials context := do
    set (some context.role)
    return .ok ()
  handshakeStep _ input := pure (handshakeStep input)
  streamSizes := do return sizes (← get)
  encrypt record := pure (.ok 0, record)
  decrypt message := pure (decrypt message, message)
  shutdownToken := pure (.ok [])

end NetReactor.Plaintext
