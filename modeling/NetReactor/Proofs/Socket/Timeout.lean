import NetReactor.Socket.Option
/-!
The timeout of a socket as its kernel reads it: whole seconds, no more than fit, and whole microseconds. What the
kernel takes for no timeout at all is not only a length of zero.
-/
namespace NetReactor

variable {σ : Type}

def Kernel.logged (kernel : Kernel σ) : Kernel (σ × List (Syscall × Reply)) := fun syscall (state, calls) =>
  let (reply, next) := kernel syscall state
  (reply, next, calls ++ [(syscall, reply)])

namespace Socket

variable {kernel : Kernel σ} {socket : Socket} {duration other : Duration}

def signed (bytes : Bytes) : Int := (BitVec.ofNat 64 (Bytes.ofLittleEndian bytes)).toInt

structure Timeval where
  seconds : Int
  micros : Int
deriving DecidableEq

namespace Timeval

def ofBytes (value : Bytes) : Timeval := ⟨signed (value.take 8), signed (value.drop 8)⟩

def total (timeval : Timeval) : Int := timeval.seconds * 1000000 + timeval.micros

end Timeval

def longest : Nat := 9223372036854775807

/-- What the kernel is told of a timeout. -/
def told (duration : Duration) : Timeval := .ofBytes (timeval duration)

theorem signed_littleEndian {number : Nat} (small : number ≤ longest) :
    signed (Bytes.littleEndian 8 number) = number := by
  have whole : Bytes.ofLittleEndian (Bytes.littleEndian 8 number) = number := by
    rw [Bytes.ofLittleEndian_littleEndian]
    exact Nat.mod_eq_of_lt (Nat.lt_of_le_of_lt small (by decide))
  have value : (BitVec.ofNat 64 number).toNat = number := by
    rw [BitVec.toNat_ofNat]
    exact Nat.mod_eq_of_lt (Nat.lt_of_le_of_lt small (by decide))
  simp only [longest] at small
  rw [signed, whole, BitVec.toInt_eq_toNat_of_lt (by omega), value]

theorem told_eq (duration : Duration) :
    told duration = ⟨(min duration.seconds.toNat longest : Nat), (duration.nanos / 1000 : Nat)⟩ := by
  have micros : duration.timevalMicros ≤ longest := by
    have below := duration.nanos_lt
    simp only [Duration.timevalMicros, longest]
    omega
  have seconds : duration.timevalSeconds ≤ longest := Nat.min_le_right _ _
  rw [told, timeval, Timeval.ofBytes, List.take_left' (Bytes.length_littleEndian 8 _),
    List.drop_left' (Bytes.length_littleEndian 8 _), signed_littleEndian seconds, signed_littleEndian micros]
  rfl

structure Overtakes (duration other : Duration) : Prop where
  cut : longest ≤ duration.seconds.toNat
  shorter : duration.seconds.toNat < other.seconds.toNat
  more : other.nanos / 1000 < duration.nanos / 1000

structure Tells (duration : Duration) : Prop where
  length : (timeval duration).length = 16
  seconds : 0 ≤ (told duration).seconds ∧ (told duration).seconds ≤ longest
  micros : 0 ≤ (told duration).micros ∧ (told duration).micros < 1000000
  -- The limit is taken away by every timeout below a microsecond.
  clears_iff : told duration = ⟨0, 0⟩ ↔ duration.total < 1000
  near : duration.seconds.toNat ≤ longest →
    (told duration).total * 1000 ≤ duration.total ∧ duration.total < (told duration).total * 1000 + 1000
  ordered_iff : ∀ other : Duration, duration.total ≤ other.total →
    ((told duration).total ≤ (told other).total ↔ ¬ Overtakes duration other)

theorem tells (duration : Duration) : Tells duration := by
  have below := duration.nanos_lt
  constructor
  case length => simp [timeval]
  case seconds =>
    rw [told_eq]
    dsimp only
    omega
  case micros =>
    rw [told_eq]
    dsimp only
    omega
  case clears_iff =>
    rw [told_eq, Timeval.mk.injEq]
    simp only [Duration.total, longest]
    omega
  case near =>
    intro fits
    rw [told_eq]
    simp only [Timeval.total, Duration.total]
    omega
  case ordered_iff =>
    intro other le
    have below' := other.nanos_lt
    rw [told_eq, told_eq]
    simp only [Duration.total] at le
    simp only [Timeval.total]
    -- Seconds that are not cut decide the order alone, unless they are equal.
    constructor
    · rintro ordered ⟨cut, shorter, more⟩
      omega
    · intro keeps
      exact Int.not_lt.mp fun inverted => keeps ⟨by omega, by omega, by omega⟩

inductive Sets (socket : Socket) (value : Bytes) : List (Syscall × Reply) → Outcome Unit → Prop
  | shut (shut : socket.isOpen = false) : Sets socket value [] (.error .socketClosed)
  | refused {reply : Reply} (isOpen : socket.isOpen = true) (failed : reply.failed = true) :
    Sets socket value [(.setOption socket.descriptor socketLevel receiveTimeout value, reply)] (.error reply.error)
  | both {first second : Reply} (isOpen : socket.isOpen = true) (done : first.failed = false) :
    Sets socket value [(.setOption socket.descriptor socketLevel receiveTimeout value, first),
      (.setOption socket.descriptor socketLevel sendTimeout value, second)] (second.outcome id)

section
variable {option : Int} {value : Bytes} {state after : σ} {reply : Reply}

theorem setOption_shut (shut : socket.isOpen = false) :
    socket.setOption kernel option value state = (.error .socketClosed, state) := by
  rw [setOption, call, if_neg (by simp [shut])]
  rfl

theorem setOption_open (isOpen : socket.isOpen = true)
    (asked : kernel (.setOption socket.descriptor socketLevel option value) state = (reply, after)) :
    socket.setOption kernel option value state = (reply.outcome id, after) := by
  rw [setOption, call, if_pos isOpen]
  simp only [Bind.bind, StateT.bind, asked]
  rfl

theorem setTimeout_failed {failure : Error}
    (first : socket.setOption kernel receiveTimeout (timeval duration) state = (.error failure, after)) :
    socket.setTimeout kernel duration state = (.error failure, after) := by
  simp only [setTimeout, Bind.bind, StateT.bind, first]
  rfl

theorem setTimeout_done
    (first : socket.setOption kernel receiveTimeout (timeval duration) state = (.ok (), after)) :
    socket.setTimeout kernel duration state = socket.setOption kernel sendTimeout (timeval duration) after := by
  simp [setTimeout, Bind.bind, StateT.bind, first]

theorem logged_eq {syscall : Syscall} {calls : List (Syscall × Reply)}
    (asked : kernel syscall state = (reply, after)) :
    kernel.logged syscall (state, calls) = (reply, after, calls ++ [(syscall, reply)]) := by
  simp [Kernel.logged, asked]

end

theorem sets_setTimeout (kernel : Kernel σ) (socket : Socket) (duration : Duration) (state : σ) :
    ∃ result after calls, socket.setTimeout kernel duration state = (result, after) ∧
      socket.setTimeout kernel.logged duration (state, []) = (result, after, calls) ∧
      Sets socket (timeval duration) calls result := by
  cases isOpen : socket.isOpen with
  | false => exact ⟨_, state, [], setTimeout_failed (setOption_shut isOpen), setTimeout_failed (setOption_shut isOpen),
      .shut isOpen⟩
  | true =>
    rcases asked : kernel (.setOption socket.descriptor socketLevel receiveTimeout (timeval duration)) state with
      ⟨first, middle⟩
    have plain := setOption_open isOpen asked
    have logged := setOption_open isOpen (@logged_eq _ kernel _ _ _ _ [] asked)
    cases failed : first.failed with
    | true =>
      rw [Reply.outcome, failed, if_pos rfl] at plain logged
      exact ⟨_, middle, _, setTimeout_failed plain, setTimeout_failed logged, .refused isOpen failed⟩
    | false =>
      rw [Reply.outcome, failed, if_neg Bool.false_ne_true] at plain logged
      rcases asked' : kernel (.setOption socket.descriptor socketLevel sendTimeout (timeval duration)) middle with
        ⟨second, after⟩
      exact ⟨_, after, _, (setTimeout_done plain).trans (setOption_open isOpen asked'),
        (setTimeout_done logged).trans (setOption_open isOpen (logged_eq asked')), .both isOpen failed⟩

/-- Whatever the kernel answers, an open socket tells it the timeout for receiving, and then the same for sending if
that was taken. It is told rounded down and cut to what fits, so that it is cleared by all that is below a microsecond,
and longer timeouts are told as longer ones, or as the same, unless they are cut. -/
theorem setTimeout_tells (kernel : Kernel σ) (socket : Socket) (duration : Duration) (state : σ) :
    Tells duration ∧ ∃ result after calls, socket.setTimeout kernel duration state = (result, after) ∧
      socket.setTimeout kernel.logged duration (state, []) = (result, after, calls) ∧
      Sets socket (timeval duration) calls result :=
  ⟨tells duration, sets_setTimeout kernel socket duration state⟩

def obliging : Kernel Unit := fun _ => pure {}

def tiny : Duration := ⟨0, 999, by decide⟩

def greatest : Duration := ⟨9223372036854775807, 999999999, by decide⟩

def beyond : Duration := ⟨9223372036854775808, 0, by decide⟩

/-- A timeout that is not zero is told as none, and one is told as shorter than a shorter one. -/
theorem timeout_lost : tiny.total = 999 ∧
    (Socket.setTimeout obliging.logged ⟨1000⟩ tiny ((), [])).2.2 =
      [(.setOption 1000 socketLevel receiveTimeout (Bytes.zeros 16), {}),
        (.setOption 1000 socketLevel sendTimeout (Bytes.zeros 16), {})] ∧
    told tiny = ⟨0, 0⟩ ∧ greatest.total < beyond.total ∧ (told beyond).total < (told greatest).total := by
  decide +kernel

end Socket
end NetReactor
