import NetReactor.Bytes
import NetReactor.Session.Context
/-!
The provider of a secure session: an opaque state machine that exchanges handshake tokens and that
encrypts and decrypts records in place. Its answers are not trusted, and its state is of any type.
-/
namespace NetReactor

inductive Status where
  | done
  | continueNeeded
  | incompleteMessage
  | error
deriving DecidableEq, Repr

structure HandshakeStep where
  status : Status
  output : Bytes := []
  -- How many bytes at the end of the input were not used.
  extra : Option Nat := none
deriving DecidableEq, Repr

structure RecordSizing where
  header : Nat
  trailer : Nat
  maxMessage : Nat
deriving DecidableEq, Repr

inductive RegionKind where
  | header
  | data
  | trailer
  -- What lies past the record.
  | extra
deriving DecidableEq, Repr

structure Region where
  kind : RegionKind
  first : Nat
  past : Nat
deriving DecidableEq, Repr

namespace Region

def isEmpty (region : Region) : Bool := region.past ≤ region.first

def bytes? (region : Region) (message : Bytes) : Option Bytes :=
  message.slice? region.first region.past

end Region

structure Decrypted where
  status : Status
  regions : List Region := []
deriving DecidableEq, Repr

def Decrypted.region? (decrypted : Decrypted) (kind : RegionKind) : Option Region :=
  decrypted.regions.find? (·.kind == kind)

def Decrypted.payload? (decrypted : Decrypted) : Option Region :=
  decrypted.regions.find? fun region => region.kind == .data && !region.isEmpty

inductive ChannelError where
  | credentials (reason : String)
  | noContext
  | encrypt (reason : String)
  | shutdown (reason : String)
deriving DecidableEq, Repr

def ChannelError.message : ChannelError → String
  | .credentials reason => "credentials unavailable: " ++ reason
  | .noContext => "no established security context"
  | .encrypt reason => "record encryption failed: " ++ reason
  | .shutdown reason => "shutdown token unavailable: " ++ reason

instance : ToString ChannelError := ⟨ChannelError.message⟩

structure Record where
  header : Bytes
  body : Bytes
  trailer : Bytes
deriving DecidableEq, Repr

/-- A provider with its state. The first handshake step has no input. Encryption gives the number of
trailer bytes in use, and the record as it was left; decryption gives the message as it was left. -/
structure SecureChannel (σ : Type) where
  acquireCredentials : Context → StateM σ (Except ChannelError Unit)
  handshakeStep : (target : Option String) → (input : Option Bytes) → StateM σ HandshakeStep
  streamSizes : StateM σ (Except ChannelError RecordSizing)
  encrypt : Record → StateM σ (Except ChannelError Nat × Record)
  decrypt : (message : Bytes) → StateM σ (Decrypted × Bytes)
  shutdownToken : StateM σ (Except ChannelError Bytes)

end NetReactor
