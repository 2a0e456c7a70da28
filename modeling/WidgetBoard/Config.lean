import WidgetBoard.Appearance
import WidgetBoard.Dimension
import WidgetBoard.Filter
import WidgetBoard.OrderBy
import WidgetBoard.Statement

/-!
# Configurations of widgets

A configuration has one of eight kinds, and of each kind exactly the fields that mean something for
it.  Bar, column and donut charts share one shape.

* `WidgetKind`            the kinds;
* `Config`                a configuration;
* `Config.filters`        its filters;
* `Config.description?`   the words for a composite metric;
* `KpiMeasure.metric`     the one metric that a KPI shows.
-/

namespace WidgetBoard

inductive WidgetKind where
  | kpi
  | line
  | bar
  | column
  | donut
  | table
  | text
  | statement
  deriving DecidableEq, Repr

namespace WidgetKind

def all : List WidgetKind := [.kpi, .line, .bar, .column, .donut, .table, .text, .statement]

def name : WidgetKind → String
  | .kpi => "kpi"
  | .line => "line"
  | .bar => "bar"
  | .column => "column"
  | .donut => "donut"
  | .table => "table"
  | .text => "text"
  | .statement => "dre"

/-- bar, column and donut -/
def isCategoricalChart : WidgetKind → Bool
  | .bar | .column | .donut => true
  | _ => false

/-- bar and column may group by buckets of time -/
def allowsBucket : WidgetKind → Bool
  | .bar | .column => true
  | _ => false

end WidgetKind

inductive KpiMeasure where
  | single (metric : Metric)
  | composite (composite : CompositeMetric)
  deriving DecidableEq, Repr

/-- the metric itself, or the inner aggregation of a composite -/
def KpiMeasure.metric : KpiMeasure → Metric
  | .single m => m
  | .composite c => c.innerMetric

structure KpiConfig where
  measure : KpiMeasure
  filters : List Filter
  deriving DecidableEq, Repr

structure LineConfig where
  time : Option TimeAxis
  metrics : List Metric
  filters : List Filter
  orderBy : List OrderBy
  labels : LineLabels
  deriving DecidableEq, Repr

/-- of a bar, column or donut chart -/
structure ChartConfig where
  dimensions : List Dimension
  metrics : List Metric
  filters : List Filter
  orderBy : List OrderBy
  topN : Option UInt32
  deriving DecidableEq, Repr

structure TableConfig where
  columns : List String
  metrics : List Metric
  dimensions : List Dimension
  filters : List Filter
  orderBy : List OrderBy
  formats : Dictionary String
  pageSize : UInt32
  deriving DecidableEq, Repr

structure StatementConfig where
  rows : List StatementRow
  percentBase : Option Nat
  filters : List Filter
  deriving DecidableEq, Repr

inductive Config where
  | kpi (c : KpiConfig)
  | line (c : LineConfig)
  | bar (c : ChartConfig)
  | column (c : ChartConfig)
  | donut (c : ChartConfig)
  | table (c : TableConfig)
  | text (style : TextStyle)
  | statement (c : StatementConfig)
  deriving DecidableEq, Repr

namespace Config

def kind : Config → WidgetKind
  | .kpi _ => .kpi
  | .line _ => .line
  | .bar _ => .bar
  | .column _ => .column
  | .donut _ => .donut
  | .table _ => .table
  | .text _ => .text
  | .statement _ => .statement

def filters : Config → List Filter
  | .kpi c => c.filters
  | .line c => c.filters
  | .bar c | .column c | .donut c => c.filters
  | .table c => c.filters
  | .text _ => []
  | .statement c => c.filters

/-- the words for the composite metric of a KPI -/
def description? : Config → Option String
  | .kpi ⟨.composite c, _⟩ => some c.describe
  | _ => none

/-- the one metric of a KPI -/
def effectiveMetric? : Config → Option Metric
  | .kpi c => some c.measure.metric
  | _ => none

end Config

end WidgetBoard
