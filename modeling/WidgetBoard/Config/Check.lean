import WidgetBoard.Config.Normal
import WidgetBoard.Violation

/-!
# Checking configurations

A configuration is checked against the columns of a view.  The violations are listed in the order in
which the parts are gone through, filters last; a configuration without any may be saved.

* `View.checkMetric`, `View.checkTemporal`   the use of a single column;
* `Config.check`        the violations of a configuration;
* `View.checkFilters`   the violations of a list of filters;
* `Draft.compile`       the configuration of a draft with its violations, nothing saved.
-/

namespace WidgetBoard

namespace View

/-! ## Columns -/

/-- the column exists, and is numeric if the aggregation needs numbers -/
def checkMetric (v : View) (m : Metric) : List Violation :=
  match m.column.bind Text.nonBlank? with
  | none => if m.op.requiresColumn then [.metricColumnRequired m.op] else []
  | some column =>
    match v.kindOf? column with
    | none => [.unknownColumn column]
    | some kind =>
      if m.op.requiresNumeric && kind != .numeric then [.nonNumericColumn m.op column] else []

def checkMetrics (v : View) (ms : List Metric) : List Violation :=
  ms.flatMap v.checkMetric

/-- the column exists and is temporal -/
def checkTemporal (v : View) (notTemporal : String → Violation) (column : String) :
    List Violation :=
  match v.kindOf? column with
  | none => [.unknownColumn column]
  | some .temporal => []
  | some _ => [notTemporal column]

/-- the column exists -/
def checkExists (v : View) (column : String) : List Violation :=
  if (v.kindOf? column).isSome then [] else [.unknownColumn column]

/-! ## Parts of a configuration -/

def checkComposite (v : View) (c : CompositeMetric) : List Violation :=
  match Text.nonBlank? c.timeColumn with
  | none => [.compositeTimeRequired]
  | some column => v.checkTemporal .compositeTimeNotTemporal column

def checkKpi (v : View) (c : KpiConfig) : List Violation :=
  v.checkMetric c.measure.metric ++
    match c.measure with
    | .single _ => []
    | .composite composite => v.checkComposite composite

def checkLineTime (v : View) (time : Option TimeAxis) : List Violation :=
  match time.bind fun t => Text.nonBlank? t.column with
  | none => [.lineTimeRequired]
  | some column => v.checkTemporal .lineTimeNotTemporal column

def checkLabels (l : LineLabels) : List Violation :=
  (if LineLabels.minSensitivity ≤ l.sensitivity ∧ l.sensitivity ≤ LineLabels.maxSensitivity then []
    else [.sensitivityOutOfRange l.sensitivity])
  ++ (if l.window = 3 ∨ l.window = 5 ∨ l.window = 7 then [] else [.labelWindowInvalid l.window])
  ++ (if 1 ≤ l.minGap then [] else [.labelGapInvalid])

def checkLine (v : View) (c : LineConfig) : List Violation :=
  v.checkLineTime c.time
  ++ (if c.metrics.length = 1 ∨ c.metrics.length = 2 then []
      else [.lineMetricCount c.metrics.length])
  ++ v.checkMetrics c.metrics
  ++ checkLabels c.labels

def checkDimension (v : View) (kind : WidgetKind) : Dimension → List Violation
  | .plain column =>
    match v.kindOf? column with
    | none => [.unknownColumn column]
    | some k => if k.isCategorical then [] else [.dimensionNotCategorical column]
  | .bucket _ column =>
    if kind.allowsBucket then v.checkTemporal .bucketNotTemporal column
    else [.bucketNotAllowed kind]

/-- a dimension is looked at when it is the only one -/
def checkChart (v : View) (kind : WidgetKind) (c : ChartConfig) : List Violation :=
  (if c.dimensions.length = 1 then [] else [.dimensionCount kind c.dimensions.length])
  ++ (if c.metrics.length = 1 then [] else [.metricCount kind c.metrics.length])
  ++ (match c.dimensions with
      | [d] => v.checkDimension kind d
      | _ => [])
  ++ v.checkMetrics c.metrics

def checkTable (v : View) (c : TableConfig) : List Violation :=
  (if c.columns.isEmpty then [.tableColumnsRequired] else [])
  ++ c.columns.flatMap v.checkExists
  ++ v.checkMetrics c.metrics

def checkText (style : TextStyle) : List Violation :=
  if Text.allBlank style.content then [.textContentRequired] else []

def checkRow (v : View) (r : StatementRow) : List Violation :=
  (if Text.allBlank r.title then [.rowTitleRequired] else [])
  ++ (if r.metrics.isEmpty then [.rowMetricsRequired] else [])
  ++ v.checkMetrics r.metrics

/-- the rows from number `n` on -/
def checkRows (v : View) (n : Nat) : List StatementRow → List Violation
  | [] => []
  | r :: rs => (v.checkRow r).map (.inRow n) ++ v.checkRows (n + 1) rs

/-- a statement without rows has that one violation -/
def checkStatement (v : View) (c : StatementConfig) : List Violation :=
  if c.rows.isEmpty then [.statementRowsRequired]
  else
    (if c.rows.any (·.isResult) then [] else [.statementResultRequired]) ++ v.checkRows 1 c.rows

/-- a relative filter that is left after compiling has no period; a window needs a time column -/
def checkFilter (v : View) (f : Filter) : List Violation :=
  match v.kindOf? f.column with
  | none => [.unknownColumn f.column]
  | some kind =>
    if f.op = .relative then [.periodInvalid f.column]
    else if f.isWindow && kind != .temporal then [.windowNotTemporal f.column]
    else []

def checkFilters (v : View) (fs : List Filter) : List Violation :=
  fs.flatMap v.checkFilter

end View

/-! ## Configurations -/

namespace Config

/-- the violations that come from the kind, filters left aside -/
def checkBody (v : View) : Config → List Violation
  | .kpi c => v.checkKpi c
  | .line c => v.checkLine c
  | .bar c => v.checkChart .bar c
  | .column c => v.checkChart .column c
  | .donut c => v.checkChart .donut c
  | .table c => v.checkTable c
  | .text style => View.checkText style
  | .statement c => v.checkStatement c

def check (c : Config) (v : View) : List Violation :=
  c.checkBody v ++ v.checkFilters c.filters

end Config

/-! ## Reports -/

structure CompileReport where
  config : Config
  violations : List Violation
  description : Option String
  deriving Repr

def Draft.compile (d : Draft) (v : View) : CompileReport :=
  { config := d.normalize, violations := d.normalize.check v,
    description := d.normalize.description? }

end WidgetBoard
