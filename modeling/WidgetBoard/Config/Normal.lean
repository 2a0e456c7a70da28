import WidgetBoard.Draft

/-!
# The configuration of a draft

Every draft has a configuration: names are trimmed, blank parts are dropped, numbers are brought
within bounds, and what a kind needs is filled in.  Whether the result may be saved is another
question (`WidgetBoard.Config.Check`).

* `Draft.normalize`   the configuration;
* `Draft.kpiMetric?`  the metric that a KPI draft shows: the first of its metrics, else the inner
                      side of its composite;
* `Draft.verbatim?`   the fields of a draft as they are, put into a configuration without cleaning.
-/

namespace WidgetBoard

/-- trims the names of a metric; it stands on no axis -/
def Metric.clean (m : Metric) : Metric :=
  { op := m.op, column := m.column.bind Text.nonBlank?, label := m.label.bind Text.nonBlank? }

/-- trims the column, if there is one -/
def Dimension.clean? (d : Dimension) : Option Dimension :=
  (Text.nonBlank? d.columnName).map d.withColumn

def TimeAxis.clean? (t : TimeAxis) : Option TimeAxis :=
  (Text.nonBlank? t.column).map fun column => { t with column := column }

def StatementRow.clean (r : StatementRow) : StatementRow :=
  { r with title := Text.trim r.title, metrics := r.metrics.map Metric.clean }

/-- the first of each -/
def dedup : List String → List String
  | [] => []
  | s :: ss => s :: (dedup ss).filter (· ≠ s)

namespace Draft

def kpiMetric? (d : Draft) : Option Metric :=
  d.metrics.head?.or (d.composite.map CompositeMetric.innerMetric)

/-! ## The parts of a configuration -/

def orders (d : Draft) : List OrderBy :=
  d.orderBy.filterMap OrderByDraft.resolve?

/-- the picked metric drives the inner side of a composite -/
def measure (d : Draft) : KpiMeasure :=
  match d.composite with
  | some c =>
    let inner := d.kpiMetric?.getD c.innerMetric
    .composite
      { inner := inner.op, outer := c.outer, valueColumn := inner.column.bind Text.nonBlank?,
        timeColumn := Text.trim c.timeColumn, granularity := c.granularity }
  | none => .single ((d.kpiMetric?.map Metric.clean).getD Metric.count)

/-- the first metric stands on the left, another one on the right unless it asks for the left -/
def secondAxis (m : Metric) : Axis :=
  if m.axis = some .left then .left else .right

/-- one or two metrics, each on an axis -/
def lineMetrics : List Metric → List Metric
  | [] => [Metric.count.onAxis .left]
  | [m] => [m.clean.onAxis .left]
  | m :: n :: _ => [m.clean.onAxis .left, n.clean.onAxis (secondAxis n)]

def lineConfig (d : Draft) : LineConfig :=
  { time := d.time.bind TimeAxis.clean?, metrics := lineMetrics d.metrics,
    filters := Filter.compile d.filters, orderBy := d.orders,
    labels := (d.labels.getD {}).normalize }

def chartConfig (d : Draft) : ChartConfig :=
  { dimensions := d.dimensions.filterMap Dimension.clean?, metrics := d.metrics.map Metric.clean,
    filters := Filter.compile d.filters, orderBy := d.orders,
    topN := d.topN.filter fun n => 0 < n }

/-- the columns of a table: each once, in order of first occurrence -/
def tableColumns (d : Draft) : List String :=
  dedup ((d.columns.getD []).filterMap Text.nonBlank?)

/-- the formats of columns that are in the table -/
def tableFormats (d : Draft) : Dictionary String :=
  (d.formats.getD {}).filterMap fun column format =>
    if column ∈ d.tableColumns then Text.nonBlank? format else none

def defaultPageSize : UInt32 := 25

def maxPageSize : UInt32 := 500

def tableConfig (d : Draft) : TableConfig :=
  { columns := d.tableColumns, metrics := d.metrics.map Metric.clean,
    dimensions := d.dimensions.filterMap Dimension.clean?, filters := Filter.compile d.filters,
    orderBy := d.orders, formats := d.tableFormats,
    pageSize := max 1 (min (d.pageSize.getD defaultPageSize) maxPageSize) }

def statementConfig (d : Draft) : StatementConfig :=
  let rows := (d.rows.getD []).map StatementRow.clean
  { rows := rows, percentBase := percentBase? rows d.percentBase,
    filters := Filter.compile d.filters }

/-! ## Normalizing -/

def normalize (d : Draft) : Config :=
  match d.kind with
  | .kpi => .kpi { measure := d.measure, filters := Filter.compile d.filters }
  | .line => .line d.lineConfig
  | .bar => .bar d.chartConfig
  | .column => .column d.chartConfig
  | .donut => .donut d.chartConfig
  | .table => .table d.tableConfig
  | .text => .text (d.style.getD {})
  | .statement => .statement d.statementConfig

/-! ## Without cleaning -/

def verbatimChart (d : Draft) (orders : List OrderBy) : ChartConfig :=
  { dimensions := d.dimensions, metrics := d.metrics, filters := d.filters, orderBy := orders,
    topN := d.topN }

/-- every order must name something, whatever the kind -/
def verbatim? (d : Draft) : Option Config :=
  (d.orderBy.mapM OrderByDraft.resolve?).map fun orders =>
    match d.kind with
    | .kpi =>
      let measure := match d.composite with
        | some c => KpiMeasure.composite c
        | none => .single (d.metrics.head?.getD Metric.count)
      .kpi { measure := measure, filters := d.filters }
    | .line =>
      .line { time := d.time, metrics := d.metrics, filters := d.filters, orderBy := orders,
              labels := d.labels.getD {} }
    | .bar => .bar (d.verbatimChart orders)
    | .column => .column (d.verbatimChart orders)
    | .donut => .donut (d.verbatimChart orders)
    | .table =>
      .table { columns := d.columns.getD [], metrics := d.metrics, dimensions := d.dimensions,
               filters := d.filters, orderBy := orders, formats := d.formats.getD {},
               pageSize := d.pageSize.getD defaultPageSize }
    | .text => .text (d.style.getD {})
    | .statement =>
      .statement { rows := d.rows.getD [], percentBase := d.percentBase, filters := d.filters }

end Draft

end WidgetBoard
