import NetReactor.Session.Path
/-!
What a secure session is asked for: the protocol version, whether the peer is verified, the side it plays,
the name of the peer and the files of a certificate and its key.
-/
namespace NetReactor

inductive Method where
  | systemDefault
  | tls12
  | tls13
deriving DecidableEq, Repr

inductive Verify where
  | unchecked
  | peer
deriving DecidableEq, Repr

inductive Role where
  | client
  | server
deriving DecidableEq, Repr

def Method.text : Method → String
  | .systemDefault => "System Default"
  | .tls12 => "TLS 1.2"
  | .tls13 => "TLS 1.3"

def Verify.text : Verify → String
  | .unchecked => "None"
  | .peer => "Peer"

def Role.text : Role → String
  | .client => "Client"
  | .server => "Server"

instance : ToString Method := ⟨Method.text⟩
instance : ToString Verify := ⟨Verify.text⟩
instance : ToString Role := ⟨Role.text⟩

structure Context where
  method : Method := .systemDefault
  verify : Verify := .peer
  role : Role := .client
  host : Option String := none
  certificate : Option Path := none
  key : Option Path := none
deriving BEq

namespace Context

def client (host : String) : Context := { host := some host }

def server : Context := { role := .server }

def hostname (context : Context) : Option String := context.host.filter (· != "")

def text (context : Context) : String :=
  "TlsContext: method=" ++ context.method.text ++ ", verify=" ++ context.verify.text ++
    ", role=" ++ context.role.text ++ ", host=" ++ context.hostname.getD "(none)"

instance : ToString Context := ⟨text⟩

end Context
end NetReactor
