/-!
# Views

A view is the list of columns that the widgets of a dashboard may name.  A name means the first
column that has it, character for character.
-/

namespace WidgetBoard

inductive ColumnKind where
  | numeric
  | temporal
  | text
  | boolean
  deriving DecidableEq, Repr

namespace ColumnKind

def all : List ColumnKind := [.numeric, .temporal, .text, .boolean]

def name : ColumnKind → String
  | .numeric => "numeric"
  | .temporal => "temporal"
  | .text => "text"
  | .boolean => "boolean"

/-- text and boolean columns can be grouped by their values -/
def isCategorical : ColumnKind → Bool
  | .text | .boolean => true
  | .numeric | .temporal => false

end ColumnKind

structure Column where
  name : String
  kind : ColumnKind
  deriving DecidableEq, Repr

abbrev View := List Column

namespace View

/-- the kind of the first column of that name -/
def kindOf? (v : View) (name : String) : Option ColumnKind :=
  (v.find? fun c => c.name == name).map (·.kind)

theorem kindOf?_nil (name : String) : kindOf? [] name = none := rfl

theorem kindOf?_cons (c : Column) (v : View) (name : String) :
    kindOf? (c :: v) name = if c.name = name then some c.kind else kindOf? v name := by
  by_cases h : c.name = name
  · simp [kindOf?, h]
  · simp [kindOf?, List.find?_cons_of_neg, h]

end View

end WidgetBoard
