import WidgetBoard.Text.Blank

/-!
# Orders

* `OrderBy`               by a column or by a metric, up or down;
* `OrderByDraft`          an order under edit, which may name both, either or none;
* `OrderByDraft.resolve?` the order meant: a metric goes before a column, a blank name is none.
-/

namespace WidgetBoard

inductive SortDirection where
  | asc
  | desc
  deriving DecidableEq, Repr

namespace SortDirection

def all : List SortDirection := [.asc, .desc]

def name : SortDirection → String
  | .asc => "asc"
  | .desc => "desc"

end SortDirection

inductive OrderTarget where
  | column (name : String)
  | metric (ref : String)
  deriving DecidableEq, Repr

structure OrderBy where
  target : OrderTarget
  direction : SortDirection
  deriving DecidableEq, Repr

structure OrderByDraft where
  column : Option String := none
  metricRef : Option String := none
  direction : SortDirection := .asc
  deriving DecidableEq, Repr

namespace OrderByDraft

def resolve? (o : OrderByDraft) : Option OrderBy :=
  match o.metricRef.bind Text.nonBlank?, o.column.bind Text.nonBlank? with
  | some ref, _ => some ⟨.metric ref, o.direction⟩
  | none, some column => some ⟨.column column, o.direction⟩
  | none, none => none

/-- what is said of an order that names nothing -/
def unresolvedMessage : String :=
  "order_by entry needs either \x60column\x60 or \x60metric_ref\x60"

end OrderByDraft

/-- an order as it is edited -/
def OrderBy.toDraft (o : OrderBy) : OrderByDraft :=
  match o.target with
  | .column name => { column := some name, direction := o.direction }
  | .metric ref => { metricRef := some ref, direction := o.direction }

end WidgetBoard
