/-!
Histories are lists, and what is known about a history is known about its stretches. Where an element stands in a
list that is put together decides in which of its parts it is.
-/
namespace NetReactor

variable {α : Type} {first second early late rest done : List α} {one other : α}

/-- An element of two stretches is one of the first or one of the second. -/
theorem split_append (h : first ++ second = early ++ one :: late) :
    (∃ rest, first = early ++ one :: rest ∧ late = rest ++ second) ∨
      ∃ rest, second = rest ++ one :: late ∧ early = first ++ rest := by
  obtain ⟨rest, rfl, same⟩ | ⟨rest, rfl, same⟩ := List.append_eq_append_iff.mp h
  · exact .inr ⟨rest, same, rfl⟩
  · cases rest with
    | nil => exact .inr ⟨[], same.symm, by simp⟩
    | cons head rest =>
      obtain ⟨rfl, rfl⟩ := List.cons.inj same
      exact .inl ⟨rest, rfl, rfl⟩

theorem cons_split (ne : one ≠ other) (h : other :: rest = early ++ one :: late) :
    ∃ inner, early = other :: inner ∧ rest = inner ++ one :: late := by
  cases early with
  | nil => exact absurd (List.cons.inj h).1.symm ne
  | cons head inner =>
    obtain ⟨rfl, same⟩ := List.cons.inj h
    exact ⟨inner, rfl, same⟩

theorem split_singleton (h : [other] = early ++ one :: late) : early = [] ∧ one = other ∧ late = [] := by
  cases early with
  | nil =>
    cases h
    exact ⟨rfl, rfl, rfl⟩
  | cons head inner => simp at h

/-- Of two elements in a list, the one that is not before the other comes after it. -/
theorem split_after (h : late ++ one :: early = rest ++ other :: done) (absent : one ∉ done) (ne : one ≠ other) :
    ∃ between, rest = late ++ one :: between ∧ early = between ++ other :: done := by
  obtain ⟨_, -, inside⟩ | ⟨own, inside, rfl⟩ := split_append h
  · exact absurd (by simp [inside]) absent
  · obtain ⟨between, rfl, rfl⟩ := cons_split ne.symm inside
    exact ⟨between, rfl, rfl⟩

end NetReactor
