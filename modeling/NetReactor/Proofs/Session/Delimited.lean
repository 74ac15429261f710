import Mathlib.Logic.Basic
import NetReactor.Bytes
/-!
Messages that tell where they end, handshake messages as well as records, and streams of them. However such a
stream is cut, the message it starts with can be told from its first bytes alone.
-/
namespace NetReactor

variable {Message : Bytes → Prop} {message other input rest : Bytes}

structure Delimited (Message : Bytes → Prop) : Prop where
  nonempty : ∀ {message}, Message message → message ≠ []
  ends : ∀ {message other}, Message message → Message other → message <+: other → message = other

def Starved (Message : Bytes → Prop) (bytes : Bytes) : Prop :=
  ∀ message, Message message → ¬ message <+: bytes

theorem starved_or (Message : Bytes → Prop) (input : Bytes) :
    Starved Message input ∨ ∃ message rest, Message message ∧ input = message ++ rest := by
  apply or_iff_not_imp_left.mpr
  intro fed
  simp only [Starved, not_forall, not_not] at fed
  obtain ⟨message, is, rest, rfl⟩ := fed
  exact ⟨message, rest, is, rfl⟩

namespace Delimited

variable (law : Delimited Message)
include law

theorem starved_nil : Starved Message [] :=
  fun _ is first => law.nonempty is (List.prefix_nil.mp first)

/-- A stream starts with at most one message. -/
theorem first_unique (one : Message message) (two : Message other)
    (same : message ++ input = other ++ rest) : message = other ∧ input = rest := by
  have first : message <+: other ++ rest := ⟨input, same⟩
  have equal : message = other := by
    cases List.prefix_or_prefix_of_prefix first (List.prefix_append other rest) with
    | inl shorter => exact law.ends one two shorter
    | inr longer => exact (law.ends two one longer).symm
  subst equal
  exact ⟨rfl, List.append_cancel_left same⟩

end Delimited
end NetReactor
