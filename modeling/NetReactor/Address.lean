import NetReactor.Kernel
/-!
Internet socket addresses and the 128-byte storage in which the kernel passes them. Ports and addresses
are stored most significant byte first, the family, the flow information and the scope least significant
byte first; all other bytes of a written storage are zero.
-/
namespace NetReactor

inductive Family where
  | v4
  | v6
deriving DecidableEq, Repr

inductive Address where
  | v4 (ip : UInt32) (port : UInt16)
  | v6 (ip : BitVec 128) (port : UInt16) (flow scope : UInt32)
deriving DecidableEq

def Family.domain : Family → Nat
  | .v4 => 2
  | .v6 => 10

namespace Address

def family : Address → Family
  | .v4 .. => .v4
  | .v6 .. => .v6

def storageSize : Nat := 128

def encode (address : Address) : Bytes :=
  Bytes.littleEndian 2 address.family.domain ++
  match address with
  | .v4 ip port => Bytes.bigEndian 2 port.toNat ++ Bytes.bigEndian 4 ip.toNat ++ Bytes.zeros 8
  | .v6 ip port flow scope =>
    Bytes.bigEndian 2 port.toNat ++ Bytes.littleEndian 4 flow.toNat ++ Bytes.bigEndian 16 ip.toNat ++
      Bytes.littleEndian 4 scope.toNat

def storage (address : Address) : Bytes := (Bytes.zeros storageSize).overlay address.encode

def field (storage : Bytes) (first width : Nat) : Bytes := (storage.drop first).take width

def decode (storage : Bytes) : Outcome Address :=
  let family := Bytes.ofLittleEndian (field storage 0 2)
  let port := UInt16.ofNat (Bytes.ofBigEndian (field storage 2 2))
  if family = Family.v4.domain then
    .ok (.v4 (UInt32.ofNat (Bytes.ofBigEndian (field storage 4 4))) port)
  else if family = Family.v6.domain then
    .ok (.v6 (BitVec.ofNat 128 (Bytes.ofBigEndian (field storage 8 16))) port
      (UInt32.ofNat (Bytes.ofLittleEndian (field storage 4 4)))
      (UInt32.ofNat (Bytes.ofLittleEndian (field storage 24 4))))
  else .error .invalidAddress

def ofReply (reply : Reply) : Outcome Address :=
  decode ((Bytes.zeros storageSize).overlay reply.data)

end Address
end NetReactor
