import WidgetBoard.Json.Basic
import WidgetBoard.Text.Blank

/-!
# Filters

A filter compares a column with a value.  A *relative window*, such as the last seven days, is a
value that is resolved whenever the filter is applied; an editor may also ask for one with the
operator `relative` and the name of the period.

* `RelativePeriod`     the periods of a window;
* `FilterValue`        a window, or any JSON value;
* `Filter.compile`     a list of filters as it is kept: names trimmed, filters without a column
                       dropped, and `relative` with a known period turned into `between` a window.
-/

namespace WidgetBoard

inductive FilterOp where
  | eq
  | neq
  | gt
  | lt
  | gte
  | lte
  | contains
  | between
  | isIn
  | notIn
  | isNull
  | notNull
  /-- of an editor only; see `Filter.compile` -/
  | relative
  deriving DecidableEq, Repr

namespace FilterOp

def all : List FilterOp :=
  [.eq, .neq, .gt, .lt, .gte, .lte, .contains, .between, .isIn, .notIn, .isNull, .notNull,
    .relative]

def name : FilterOp → String
  | .eq => "eq"
  | .neq => "neq"
  | .gt => "gt"
  | .lt => "lt"
  | .gte => "gte"
  | .lte => "lte"
  | .contains => "contains"
  | .between => "between"
  | .isIn => "in"
  | .notIn => "not_in"
  | .isNull => "is_null"
  | .notNull => "not_null"
  | .relative => "relative"

end FilterOp

inductive RelativePeriod where
  | today
  | yesterday
  | last7Days
  | last30Days
  | thisMonth
  | lastMonth
  | thisYear
  deriving DecidableEq, Repr

namespace RelativePeriod

def all : List RelativePeriod :=
  [.today, .yesterday, .last7Days, .last30Days, .thisMonth, .lastMonth, .thisYear]

def name : RelativePeriod → String
  | .today => "today"
  | .yesterday => "yesterday"
  | .last7Days => "last_7_days"
  | .last30Days => "last_30_days"
  | .thisMonth => "this_month"
  | .lastMonth => "last_month"
  | .thisYear => "this_year"

/-- the period of that name, blanks around it aside -/
def parse? (s : String) : Option RelativePeriod :=
  all.find? fun p => p.name == Text.trim s

end RelativePeriod

inductive FilterValue where
  | window (period : RelativePeriod)
  | scalar (value : Json)
  deriving DecidableEq, Repr

/-- the period of a window, or the one that a text names -/
def FilterValue.period? : FilterValue → Option RelativePeriod
  | .window p => some p
  | .scalar (.str s) => RelativePeriod.parse? s
  | .scalar _ => none

structure Filter where
  column : String
  op : FilterOp
  value : Option FilterValue := none
  deriving DecidableEq, Repr

namespace Filter

def isWindow (f : Filter) : Bool :=
  match f.value with
  | some (.window _) => true
  | _ => false

/-- between the ends of a window -/
def within (column : String) (p : RelativePeriod) : Filter :=
  { column := column, op := .between, value := some (.window p) }

/-- a filter as it is kept, if it has a column -/
def compile? (f : Filter) : Option Filter :=
  (Text.nonBlank? f.column).map fun column =>
    match f.op, f.value.bind FilterValue.period? with
    | .relative, some p => within column p
    | _, _ => { f with column := column }

def compile (fs : List Filter) : List Filter :=
  fs.filterMap compile?

end Filter

end WidgetBoard
