import WidgetBoard.Config

/-!
# Violations

What can be wrong with a configuration, and the sentence for each.  A violation in a row of a
statement carries the number of the row, from one.
-/

namespace WidgetBoard

inductive Violation where
  | metricColumnRequired (op : AggOp)
  | unknownColumn (column : String)
  | nonNumericColumn (op : AggOp) (column : String)
  | compositeTimeRequired
  | compositeTimeNotTemporal (column : String)
  | lineTimeRequired
  | lineTimeNotTemporal (column : String)
  | lineMetricCount (count : Nat)
  | sensitivityOutOfRange (value : UInt8)
  | labelWindowInvalid (value : UInt8)
  | labelGapInvalid
  | dimensionCount (kind : WidgetKind) (count : Nat)
  | metricCount (kind : WidgetKind) (count : Nat)
  | dimensionNotCategorical (column : String)
  | bucketNotAllowed (kind : WidgetKind)
  | bucketNotTemporal (column : String)
  | tableColumnsRequired
  | textContentRequired
  | statementRowsRequired
  | statementResultRequired
  | rowTitleRequired
  | rowMetricsRequired
  | inRow (row : Nat) (violation : Violation)
  | windowNotTemporal (column : String)
  | periodInvalid (column : String)
  deriving DecidableEq, Repr

namespace Violation

def message : Violation → String
  | metricColumnRequired op => "Aggregation " ++ op.label ++ " requires a column."
  | unknownColumn column => "Column '" ++ column ++ "' does not exist in the view."
  | nonNumericColumn op column =>
    "Aggregation " ++ op.label ++ " requires a numeric column, '" ++ column ++ "' is not numeric."
  | compositeTimeRequired => "Composite metric requires a time column."
  | compositeTimeNotTemporal column =>
    "Composite metric time column '" ++ column ++ "' must be temporal."
  | lineTimeRequired => "Line chart requires a time column."
  | lineTimeNotTemporal column => "Line chart time column '" ++ column ++ "' must be temporal."
  | lineMetricCount count =>
    "Line chart requires 1 or 2 metrics (found " ++ toString count ++ ")."
  | sensitivityOutOfRange value =>
    "Data label sensitivity must be between 25% and 100% (found " ++ toString value.toNat ++ "%)."
  | labelWindowInvalid value =>
    "Data label window must be 3, 5 or 7 (found " ++ toString value.toNat ++ ")."
  | labelGapInvalid => "Minimum gap between data labels must be at least 1."
  | dimensionCount kind count =>
    kind.name ++ " chart requires exactly 1 dimension (found " ++ toString count ++ ")."
  | metricCount kind count =>
    kind.name ++ " chart requires exactly 1 metric (found " ++ toString count ++ ")."
  | dimensionNotCategorical column =>
    "Dimension '" ++ column ++ "' must be a categorical column."
  | bucketNotAllowed kind => kind.name ++ " chart cannot group by a time bucket."
  | bucketNotTemporal column => "Time bucket column '" ++ column ++ "' must be temporal."
  | tableColumnsRequired => "Table requires at least one column."
  | textContentRequired => "Text content is required."
  | statementRowsRequired => "Statement requires at least one row."
  | statementResultRequired => "Statement requires at least one result row as percent base."
  | rowTitleRequired => "Row title is required."
  | rowMetricsRequired => "Row requires at least one metric."
  | inRow row violation => "Row " ++ toString row ++ ": " ++ violation.message
  | windowNotTemporal column =>
    "Relative date filter on '" ++ column ++ "' requires a temporal column."
  | periodInvalid column => "Relative date filter on '" ++ column ++ "' has no valid period."

end Violation

end WidgetBoard
