/-!
Lengths of time, and their three outside forms: the millisecond count of a poll call, the seconds and
microseconds of a socket option, and a text in the largest unit that leaves a whole part.
-/
namespace NetReactor

structure Duration where
  seconds : UInt64
  nanos : Nat
  nanos_lt : nanos < 1000000000
deriving DecidableEq

namespace Duration

def ofParts (seconds nanos : Nat) : Duration :=
  ⟨UInt64.ofNat (seconds + nanos / 1000000000), nanos % 1000000000, Nat.mod_lt _ (by decide)⟩

def ofMillis (millis : UInt64) : Duration :=
  ofParts (millis.toNat / 1000) (millis.toNat % 1000 * 1000000)

def total (duration : Duration) : Nat := duration.seconds.toNat * 1000000000 + duration.nanos

def isZero (duration : Duration) : Bool := duration.total == 0

def longestPoll : Nat := 2147483647

/-- The milliseconds of a poll call. A length that its whole milliseconds do not reach is rounded up,
so that a short wait does not become none, and a length beyond the longest wait is cut to it. -/
def pollMillis (duration : Duration) : Nat :=
  if duration.isZero then 0
  else
    let whole := duration.total / 1000000
    let millis := if (ofMillis (UInt64.ofNat whole)).total < duration.total then whole + 1 else whole
    min millis longestPoll

def pollTimeout : Option Duration → Int
  | none => -1
  | some duration => duration.pollMillis

def timevalSeconds (duration : Duration) : Nat := min duration.seconds.toNat 9223372036854775807

def timevalMicros (duration : Duration) : Nat := duration.nanos / 1000

def fractionDigits : (places fraction place : Nat) → List Char
  | 0, _, _ => []
  | places + 1, fraction, place =>
    -- No trailing zeros.
    if fraction = 0 then []
    else Nat.digitChar (fraction / place) :: fractionDigits places (fraction % place) (place / 10)

def decimal (whole fraction place : Nat) : String :=
  match fractionDigits 9 fraction place with
  | [] => toString whole
  | digits => toString whole ++ "." ++ String.ofList digits

def text (duration : Duration) : String :=
  if duration.seconds ≠ 0 then
    decimal duration.seconds.toNat duration.nanos 100000000 ++ "s"
  else if 1000000 ≤ duration.nanos then
    decimal (duration.nanos / 1000000) (duration.nanos % 1000000) 100000 ++ "ms"
  else if 1000 ≤ duration.nanos then
    decimal (duration.nanos / 1000) (duration.nanos % 1000) 100 ++ "µs"
  else
    toString duration.nanos ++ "ns"

end Duration
end NetReactor
