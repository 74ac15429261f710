/-!
Masks of conditions that a descriptor is watched for or was reported with. The four known conditions
sit in the low bits; other bits are kept as they were given. Only reading and writing can be asked of a
poll call, and only known conditions come back from one.
-/
namespace NetReactor

structure Interest where
  bits : UInt8
deriving DecidableEq, Repr

namespace Interest

def read : Interest := ⟨1⟩

def write : Interest := ⟨2⟩

def error : Interest := ⟨4⟩

def hangUp : Interest := ⟨8⟩

def empty : Interest := ⟨0⟩

def known : List (String × Interest) :=
  [("READ", read), ("WRITE", write), ("ERROR", error), ("HANG_UP", hangUp)]

def knownBits : UInt8 := 15

def isEmpty (mask : Interest) : Bool := mask.bits == 0

def contains (mask other : Interest) : Bool := mask.bits &&& other.bits == other.bits

def intersects (mask other : Interest) : Bool := mask.bits &&& other.bits != 0

def isAll (mask : Interest) : Bool := mask.contains ⟨knownBits⟩

def union (mask other : Interest) : Interest := ⟨mask.bits ||| other.bits⟩

def intersection (mask other : Interest) : Interest := ⟨mask.bits &&& other.bits⟩

def difference (mask other : Interest) : Interest := ⟨mask.bits &&& ~~~other.bits⟩

def symmetricDifference (mask other : Interest) : Interest := ⟨mask.bits ^^^ other.bits⟩

def complement (mask : Interest) : Interest := ⟨~~~mask.bits &&& knownBits⟩

def truncate (mask : Interest) : Interest := ⟨mask.bits &&& knownBits⟩

def ofBits? (bits : UInt8) : Option Interest :=
  if bits &&& knownBits = bits then some ⟨bits⟩ else none

def unknownPart (mask : Interest) : Interest := ⟨mask.bits &&& ~~~knownBits⟩

def named (mask : Interest) : List (String × Interest) := known.filter (mask.contains ·.2)

def parts (mask : Interest) : List Interest :=
  mask.named.map (·.2) ++ (if mask.unknownPart.isEmpty then [] else [mask.unknownPart])

def pollIn : UInt16 := 1

def pollOut : UInt16 := 4

def pollError : UInt16 := 8

def pollHangUp : UInt16 := 16

def pollInvalid : UInt16 := 32

def toEvents (mask : Interest) : UInt16 :=
  (if mask.contains read then pollIn else 0) ||| (if mask.contains write then pollOut else 0)

def given (condition : Interest) (test : Bool) : Interest := if test then condition else empty

def ofEvents (events : UInt16) : Interest :=
  (read.given (events &&& pollIn != 0)).union <|
  (write.given (events &&& pollOut != 0)).union <|
  (error.given (events &&& (pollError ||| pollInvalid) != 0)).union <|
  hangUp.given (events &&& pollHangUp != 0)

def name (mask : Interest) : String :=
  if mask = empty then "None"
  else if mask = read then "ReadReady"
  else if mask = write then "WriteReady"
  else if mask = error then "Error"
  else if mask = hangUp then "HangUp"
  else "Mixed"

def text (mask : Interest) : String :=
  if mask.name ≠ "Mixed" then mask.name
  else "Mixed(" ++ "|".intercalate (mask.parts.map name) ++ ")"

def hex (bits : UInt8) : String := String.ofList (Nat.toDigits 16 bits.toNat)

def flags (mask : Interest) : String :=
  let names := mask.named.map (·.1)
  let rest := if mask.unknownPart.isEmpty then [] else ["0x" ++ hex mask.unknownPart.bits]
  if mask.isEmpty then "Interest(0x0)"
  else "Interest(" ++ " | ".intercalate (names ++ rest) ++ ")"

instance : ToString Interest := ⟨text⟩

end Interest
end NetReactor
