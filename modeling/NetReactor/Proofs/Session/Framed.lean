import NetReactor.Proofs.Session.Conversation
import NetReactor.Proofs.Session.Paired
/-!
A provider whose messages and records tell their length in their first byte, and a stream that is cut as one
likes. They are lawful, and stand for the providers and streams that the theorems on sessions are about.
-/
namespace NetReactor

variable {payload bytes rest : Bytes} {τ : Type}

def frame (payload : Bytes) : Bytes := UInt8.ofNat payload.length :: payload

def IsFrame (bytes : Bytes) : Prop := ∃ payload, payload.length < 256 ∧ bytes = frame payload

def unframe? : Bytes → Option (Bytes × Bytes)
  | [] => none
  | length :: body =>
    if length.toNat ≤ body.length then some (body.take length.toNat, body.drop length.toNat) else none

theorem unframe?_frame (short : payload.length < 256) (rest : Bytes) :
    unframe? (frame payload ++ rest) = some (payload, rest) := by
  have length : (UInt8.ofNat payload.length).toNat = payload.length := by
    rw [UInt8.toNat_ofNat', Nat.mod_eq_of_lt short]
  simp [frame, unframe?, length]

theorem unframe?_eq_some (h : unframe? bytes = some (payload, rest)) :
    payload.length < 256 ∧ bytes = frame payload ++ rest := by
  cases bytes with
  | nil => cases h
  | cons length body =>
    rw [unframe?] at h
    split at h
    · next le =>
      cases h
      have size : (body.take length.toNat).length = length.toNat := by
        rw [List.length_take, Nat.min_eq_left le]
      refine ⟨size.symm ▸ length.toNat_lt, ?_⟩
      rw [frame, size, List.cons_append, List.take_append_drop]
      congr 1
      exact (UInt8.toNat.inj (by simp)).symm
    · cases h

theorem unframe?_eq_none (h : Starved IsFrame bytes) : unframe? bytes = none := by
  cases found : unframe? bytes with
  | none => rfl
  | some pair =>
    obtain ⟨payload, rest⟩ := pair
    obtain ⟨short, split⟩ := unframe?_eq_some found
    exact absurd ⟨rest, split.symm⟩ (h _ ⟨payload, short, rfl⟩)

theorem delimited_frame : Delimited IsFrame where
  nonempty := by
    rintro _ ⟨payload, -, rfl⟩
    exact List.cons_ne_nil _ _
  ends := by
    rintro _ _ ⟨payload, short, rfl⟩ ⟨other, short', rfl⟩ ⟨rest, whole⟩
    have same := unframe?_frame short rest
    have same' := unframe?_frame short' []
    rw [List.append_nil] at same'
    rw [whole, same'] at same
    cases same
    rfl

def mask (bytes : Bytes) : Bytes := bytes.map (· ^^^ 0x5a)

theorem mask_mask (bytes : Bytes) : mask (mask bytes) = bytes := by
  have twice (byte : UInt8) : (byte ^^^ 0x5a) ^^^ 0x5a = byte := by
    rw [UInt8.xor_assoc, UInt8.xor_self, UInt8.xor_zero]
  simp [mask, Function.comp_def, twice]

def answerFrame (earlier : Nat) (payload rest : Bytes) : HandshakeStep :=
  { status := if payload.isEmpty then .error else if earlier = 0 then .continueNeeded else .done
    output := frame payload.reverse
    extra := if rest.isEmpty then none else some rest.length }

def openFrame (payload rest : Bytes) : Decrypted :=
  { status := .done
    regions := [⟨.header, 0, 1⟩, ⟨.data, 1, 1 + payload.length⟩] ++
      if rest.isEmpty then [] else [⟨.extra, 1 + payload.length, 1 + payload.length + rest.length⟩] }

def framed : SecureChannel Nat where
  acquireCredentials _ := pure (.ok ())
  handshakeStep _ input := fun earlier =>
    match input with
    | none => ({ status := .continueNeeded, output := frame [1] }, earlier)
    | some bytes =>
      match unframe? bytes with
      | none => ({ status := .incompleteMessage }, earlier)
      | some (payload, rest) => (answerFrame earlier payload rest, earlier + 1)
  streamSizes := pure (.ok ⟨1, 0, 255⟩)
  encrypt record :=
    pure (.ok 0, ⟨[UInt8.ofNat record.body.length], mask record.body, record.trailer⟩)
  decrypt message :=
    match unframe? message with
    | none => pure ({ status := .incompleteMessage }, message)
    | some (payload, rest) =>
      pure (openFrame payload rest, UInt8.ofNat payload.length :: mask payload ++ rest)
  shutdownToken := pure (.ok [])

theorem messageWise_framed : MessageWise framed IsFrame where
  delimited := delimited_frame
  incomplete provider starved := by
    simp [framed, unframe?_eq_none starved]
  complete := by
    rintro _ target earlier ⟨payload, short, rfl⟩
    refine ⟨(answerFrame earlier payload []).status, frame payload.reverse, earlier + 1, ?_,
      fun rest => ⟨(answerFrame earlier payload rest).extra, ?_, ?_⟩⟩
    · unfold answerFrame
      dsimp only
      split
      · nofun
      · split <;> nofun
    · cases rest <;> rfl
    · simp only [framed, unframe?_frame short]
      rfl

def Masked (_ _ : Nat) (flight : Flight) : Prop :=
  ∀ pair ∈ flight, pair.1.length < 256 ∧ pair.2 = frame (mask pair.1)

theorem length_mask (bytes : Bytes) : (mask bytes).length = bytes.length := List.length_map _

theorem wireBytes_masked (data : Bytes) :
    Session.wireBytes (Session.written (Session.blank ⟨1, 0, 255⟩ data)
      ⟨[UInt8.ofNat data.length], mask data, []⟩) 0 = frame (mask data) := by
  simp only [Session.wireBytes, Session.written, Session.blank, List.take_zero, List.append_nil]
  rw [Bytes.overlay_eq_of_length_eq (length_mask data), frame, length_mask]
  rfl

/-- Once it is unmasked, the plaintext of a frame is found, and what follows the frame. -/
theorem opens_frame (data rest : Bytes) : Opens (openFrame data rest) (frame data ++ rest) data rest where
  done := rfl
  data := by
    refine ⟨⟨.data, 1, 1 + data.length⟩, ?_, Bytes.slice?_append [UInt8.ofNat data.length] data rest⟩
    unfold openFrame
    cases rest <;> rfl
  extra region mem kind := by
    cases rest with
    | nil =>
      have others : region = ⟨.header, 0, 1⟩ ∨ region = ⟨.data, 1, 1 + data.length⟩ := by
        simpa [openFrame] using mem
      obtain rfl | rfl := others <;> cases kind
    | cons byte rest =>
      have all : region = ⟨.header, 0, 1⟩ ∨ region = ⟨.data, 1, 1 + data.length⟩ ∨
          region = ⟨.extra, 1 + data.length, 1 + data.length + (byte :: rest).length⟩ := by
        simpa [openFrame] using mem
      obtain rfl | rfl | rfl := all
      · cases kind
      · cases kind
      · have last := Bytes.slice?_append (frame data) (byte :: rest) []
        rwa [List.append_nil, frame, List.length_cons, Nat.add_comm data.length 1] at last
  covered nonempty := by
    refine ⟨⟨.extra, 1 + data.length, 1 + data.length + rest.length⟩, ?_, rfl⟩
    rw [openFrame, if_neg (by simpa using nonempty)]
    simp

theorem paired_framed : Paired framed framed ⟨1, 0, 255⟩ IsFrame Masked where
  delimited := delimited_frame
  encrypts := by
    intro one other flight data used record next ahead nonempty fits encrypted
    cases encrypted
    have short : (mask data).length < 256 := by
      rw [length_mask]
      exact Nat.lt_succ_of_le fits
    have record := wireBytes_masked data
    refine ⟨⟨mask data, short, record⟩, fun pair mem => ?_⟩
    cases List.mem_append.mp mem with
    | inl early => exact ahead pair early
    | inr last =>
      obtain rfl := List.mem_singleton.mp last
      exact ⟨Nat.lt_succ_of_le fits, record⟩
  incomplete other starved := by
    refine ⟨{ status := .incompleteMessage }, _, ?_, rfl, Bytes.overlay_eq_of_length_eq rfl⟩
    simp only [framed, unframe?_eq_none starved]
    rfl
  decrypts := by
    intro one other data bytes flight ahead rest
    have first : data.length < 256 ∧ bytes = frame (mask data) := ahead (data, bytes) List.mem_cons_self
    obtain ⟨short, rfl⟩ := first
    have short' : (mask data).length < 256 := by rwa [length_mask]
    have same : openFrame (mask data) rest = openFrame data rest := by simp [openFrame, length_mask]
    have left : UInt8.ofNat (mask data).length :: mask (mask data) ++ rest = frame data ++ rest := by
      rw [mask_mask, length_mask]
      rfl
    refine ⟨openFrame data rest, frame data ++ rest, other, ?_, ?_,
      fun pair mem => ahead pair (List.mem_cons_of_mem _ mem)⟩
    · simp only [framed, unframe?_frame short', same, left]
      rfl
    · rw [Bytes.overlay_eq_of_length_eq (by simp [frame, length_mask])]
      exact opens_frame data rest

structure Pieces where
  unread : Bytes
  -- How long the next reads may be, and how much a write takes, less one.
  cuts : List Nat := []
  room : Nat := 0

def pieces : Transport Pieces where
  send data := fun stream => (.ok (min data.length (stream.room + 1)), stream)
  recv buffer := fun stream =>
    let count := min (min (stream.cuts.headD buffer.length + 1) buffer.length) stream.unread.length
    ((.ok count, stream.unread.take count ++ buffer.drop count),
      { stream with unread := stream.unread.drop count, cuts := stream.cuts.tail })
  close := pure ()

theorem steady_pieces : Steady pieces where
  takes data stream nonempty := by
    have positive := List.length_pos_iff.mpr nonempty
    exact ⟨_, stream, rfl, by omega⟩
  gives buffer stream _ := ⟨_, _, _, rfl⟩

theorem delivers_pieces : Delivers pieces Pieces.unread where
  send _ _ := rfl
  recv_error h := nomatch congrArg (fun called => called.1.1) h
  recv_ok := by
    intro buffer stream count left next nonempty h
    have positive := List.length_pos_iff.mpr nonempty
    cases h
    refine ⟨by omega, ?_, ?_, fun none => ?_⟩
    · simp only [List.length_append, List.length_take, List.length_drop]
      omega
    · rw [List.take_append_of_le_length (by simp), List.take_take, Nat.min_self, List.take_append_drop]
    · exact List.length_eq_zero_iff.mp (by omega)

end NetReactor
