/-!
Paths of certificate and key files. A path keeps the text it was given; two paths are the same when they
name the same way through the directories, whatever separators and empty steps were written.
-/
namespace NetReactor

structure Path where
  text : String
deriving Repr

namespace Path

def pieces : List Char → List (List Char)
  | [] => [[]]
  | c :: rest =>
    if c = '/' then [] :: pieces rest
    else
      match pieces rest with
      | [] => [[c]]
      | first :: others => (c :: first) :: others

def isStep (piece : List Char) : Bool := piece != [] && piece != ['.']

def steps (path : Path) : Bool × List (List Char) :=
  match pieces path.text.toList with
  | [] => (false, [])
  | first :: others =>
    let absolute := first.isEmpty && !others.isEmpty
    let leading := if first.isEmpty then [] else [first]
    (absolute, leading ++ others.filter isStep)

/-- Paths are compared by their steps. -/
instance : BEq Path := ⟨fun path other => path.steps == other.steps⟩

end Path
end NetReactor
