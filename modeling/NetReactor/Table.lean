/-!
Tables of named values. A name has one value; storing under a name that is taken replaces the value.
-/
namespace NetReactor

abbrev Table (κ α : Type) := List (κ × α)

namespace Table

variable {κ α : Type} [DecidableEq κ]

def get? (table : Table κ α) (name : κ) : Option α :=
  (table.find? (·.1 = name)).map (·.2)

def without (table : Table κ α) (name : κ) : Table κ α := table.filter (·.1 ≠ name)

def put (table : Table κ α) (name : κ) (value : α) : Table κ α :=
  (name, value) :: table.without name

def values (table : Table κ α) : List α := table.map (·.2)

theorem get?_put (table : Table κ α) (name other : κ) (value : α) :
    (table.put name value).get? other = if name = other then some value else table.get? other := by
  by_cases h : name = other
  · simp [get?, put, h]
  · simp only [get?, put, without, List.find?_cons, h, decide_false, if_false]
    rw [List.find?_filter]
    congr 2
    funext entry
    by_cases e : entry.1 = other
    · subst e; simp [Ne.symm h]
    · simp [e]

theorem get?_without (table : Table κ α) (name other : κ) :
    (table.without name).get? other = if name = other then none else table.get? other := by
  simp only [get?, without, List.find?_filter]
  by_cases h : name = other
  · simp [h]
  · simp only [h, if_false]
    congr 2
    funext entry
    by_cases e : entry.1 = other
    · subst e; simp [Ne.symm h]
    · simp [e]

end Table
end NetReactor
