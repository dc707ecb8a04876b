import ModalLexer.Table.Basic
/-!
# Listing a table

A listing has a line for each rule: its name, its kind, the states in which it is eligible, the state change and the
pattern as declared, in columns that are padded with blanks.
-/
namespace ModalLexer

/-- Pads a column with blanks.  A longer text is left as it is. -/
def padRight (width : Nat) (s : String) : String :=
  s ++ String.ofList (List.replicate (width - s.toList.length) ' ')

def Transition.describe : Transition → String
  | stay => ""
  | push s => "push " ++ s.name
  | pop => "pop"

namespace Table

def describeRule (t : Table) (r : Rule) : String :=
  padRight 20 r.name ++ " " ++ padRight 18 r.kind.name ++ " " ++
    padRight 28 (",".intercalate ((t.states.filter r.mask.contains).map (·.name))) ++ " " ++
    padRight 18 r.transition.describe ++ " " ++ String.ofList r.source

def describeRules (t : Table) : List String := t.rules.map t.describeRule

/-- The keywords in the order of their code points. -/
def sortedKeywords (t : Table) : List String := t.keywords.mergeSort fun a b => decide (a ≤ b)

end Table
end ModalLexer
