import WidgetBoard.Config
import WidgetBoard.View

/-!
# Drafts of configurations

A draft is a configuration under edit: one flat record with the fields of all kinds, most of them
optional.  Configurations are stored in this form too.

* `Draft.ofConfig`    a configuration as a draft, with every field its kind does not use unset;
* `Draft.retype`      another kind: what the new kind cannot use is cleared, what it needs is seeded;
* `Draft.switchLabels`  the data labels of a line chart, on or off;
* `Draft.default`     the draft that a fresh widget starts from, over the columns of a view.
-/

namespace WidgetBoard

structure Draft where
  kind : WidgetKind
  metrics : List Metric := []
  dimensions : List Dimension := []
  filters : List Filter := []
  orderBy : List OrderByDraft := []
  time : Option TimeAxis := none
  composite : Option CompositeMetric := none
  rows : Option (List StatementRow) := none
  percentBase : Option Nat := none
  columns : Option (List String) := none
  formats : Option (Dictionary String) := none
  pageSize : Option UInt32 := none
  style : Option TextStyle := none
  labels : Option LineLabels := none
  topN : Option UInt32 := none
  deriving DecidableEq, Repr

namespace Draft

/-! ## Configurations as drafts -/

def ofChart (kind : WidgetKind) (c : ChartConfig) : Draft :=
  { kind := kind, dimensions := c.dimensions, metrics := c.metrics, filters := c.filters,
    orderBy := c.orderBy.map OrderBy.toDraft, topN := c.topN }

def ofConfig : Config → Draft
  | .kpi ⟨.single m, filters⟩ => { kind := .kpi, metrics := [m], filters := filters }
  | .kpi ⟨.composite c, filters⟩ => { kind := .kpi, composite := some c, filters := filters }
  | .line c =>
    { kind := .line, time := c.time, metrics := c.metrics, filters := c.filters,
      orderBy := c.orderBy.map OrderBy.toDraft, labels := some c.labels }
  | .bar c => ofChart .bar c
  | .column c => ofChart .column c
  | .donut c => ofChart .donut c
  | .table c =>
    { kind := .table, columns := some c.columns, metrics := c.metrics, dimensions := c.dimensions,
      filters := c.filters, orderBy := c.orderBy.map OrderBy.toDraft, formats := some c.formats,
      pageSize := some c.pageSize }
  | .text style => { kind := .text, style := some style }
  | .statement c =>
    { kind := .statement, rows := some c.rows, percentBase := c.percentBase, filters := c.filters }

theorem kind_ofConfig (c : Config) : (ofConfig c).kind = c.kind := by
  rcases c with ⟨_ | _, _⟩ | _ | _ | _ | _ | _ | _ | _ <;> rfl

/-! ## Editing -/

/-- the metrics, or one that counts rows when there are none -/
def seedMetrics (ms : List Metric) : List Metric :=
  if ms.isEmpty then [Metric.count] else ms

/-- keeps what a draft of that kind may hold of the fields that belong to one kind alone -/
def clearForeign (d : Draft) (kind : WidgetKind) : Draft :=
  { d with
    kind := kind
    composite := if kind = .kpi then d.composite else none
    rows := if kind = .statement then d.rows else none
    percentBase := if kind = .statement then d.percentBase else none
    columns := if kind = .table then d.columns else none
    formats := if kind = .table then d.formats else none
    pageSize := if kind = .table then d.pageSize else none
    style := if kind = .text then d.style else none
    labels := if kind = .line then d.labels else none
    metrics := if kind = .line then d.metrics else d.metrics.map Metric.offAxis }

/-- the draft as one of another kind -/
def retype (d : Draft) (kind : WidgetKind) : Draft :=
  let d := d.clearForeign kind
  match kind with
  | .text =>
    { d with metrics := [], dimensions := [], filters := [], orderBy := [], time := none,
             topN := none, style := some (d.style.getD {}) }
  | .kpi =>
    { d with metrics := seedMetrics d.metrics, dimensions := [], orderBy := [], time := none,
             topN := none }
  | .line =>
    { d with metrics := seedMetrics d.metrics, dimensions := [], topN := none,
             labels := some (d.labels.getD {}) }
  | .bar | .column => { d with metrics := seedMetrics d.metrics, time := none }
  | .donut =>
    { d with metrics := seedMetrics d.metrics, time := none,
             dimensions := d.dimensions.filter Dimension.isPlain }
  | .table => { d with time := none, topN := none, columns := some (d.columns.getD []) }
  | .statement =>
    { d with metrics := [], dimensions := [], orderBy := [], time := none, topN := none,
             rows := some (d.rows.getD [StatementRow.revenue]) }

def switchLabels (d : Draft) (enabled : Bool) : Draft :=
  { d with labels := some ((d.labels.getD {}).switch enabled) }

/-! ## Fresh widgets -/

def firstTemporal? (v : View) : Option Column :=
  v.find? fun c => c.kind == .temporal

def firstCategorical? (v : View) : Option Column :=
  v.find? fun c => c.kind.isCategorical

/-- the grouping of a fresh bar or column chart: by a categorical column, or by month -/
def defaultDimension? (v : View) : Option Dimension :=
  match firstCategorical? v, firstTemporal? v with
  | some c, _ => some (.plain c.name)
  | none, some t => some (.bucket .month t.name)
  | none, none => none

/-- the draft of a fresh widget, which can be saved at once if the view has columns for it -/
def default (kind : WidgetKind) (v : View) : Draft :=
  let d := retype { kind := kind } kind
  match kind with
  | .line => { d with time := (firstTemporal? v).map fun c => { column := c.name } }
  | .bar | .column => { d with dimensions := d.dimensions ++ (defaultDimension? v).toList }
  | .donut =>
    { d with
      dimensions :=
        d.dimensions ++ ((firstCategorical? v).map fun c => Dimension.plain c.name).toList }
  | .table => { d with columns := some (v.map (·.name)) }
  | .text => { d with style := some { content := "New text" } }
  | .kpi | .statement => d

end Draft

end WidgetBoard
