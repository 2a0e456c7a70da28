import WidgetBoard.Metric

/-!
# Statements

A statement is a list of titled rows of metrics.  One row, which must be a result, is the base of
the percentages.

* `StatementRow`          a row with its place in the statement;
* `percentBase?`          the index of the base: the stored one if it is a result row, else the first
                          result row.
-/

namespace WidgetBoard

inductive RowType where
  | result
  | deduction
  | detail
  deriving DecidableEq, Repr

namespace RowType

def all : List RowType := [.result, .deduction, .detail]

def name : RowType → String
  | .result => "result"
  | .deduction => "deduction"
  | .detail => "detail"

end RowType

structure StatementRow where
  title : String
  rowType : RowType
  metrics : List Metric := []
  deriving DecidableEq, Repr

namespace StatementRow

def isResult (r : StatementRow) : Bool :=
  r.rowType == .result

/-- the row of a fresh statement -/
def revenue : StatementRow :=
  { title := "Revenue", rowType := .result, metrics := [Metric.count] }

/-- is there a result row at that index? -/
def isResultAt (rows : List StatementRow) (i : Nat) : Bool :=
  match rows[i]? with
  | some r => r.isResult
  | none => false

end StatementRow

def percentBase? (rows : List StatementRow) (stored : Option Nat) : Option Nat :=
  match stored with
  | some i => if StatementRow.isResultAt rows i then some i else rows.findIdx? (·.isResult)
  | none => rows.findIdx? (·.isResult)

end WidgetBoard
