import WidgetBoard.Config.Check
import WidgetBoard.Json.Reader

/-!
# Configurations as JSON

Every type has a written form (`toJson`) and a reader for it.  A written object has its members
sorted by key and leaves out absent optional ones; a reader takes members in any order, passes over
unknown ones and takes null for an absent optional one.  An array of the values, in the order in
which a reader lists the members, is read as well.

A dimension is written as its text, an order as a draft of an order, a configuration as its draft;
reading a configuration normalizes the draft again.
-/

namespace WidgetBoard

/-- reads one of the listed values by its name -/
def Reader.byName {α : Type} (all : List α) (name : α → String) : Reader α :=
  Reader.named (all.map fun a => (name a, a))

/-! ## Columns -/

def ColumnKind.reader : Reader ColumnKind := .byName all name

def Column.toJson (c : Column) : Json :=
  .record [("name", some (.str c.name)), ("type", some (.str c.kind.name))]

def Column.reader : Reader Column :=
  (Members.of Column.mk |>.required "name" Reader.string |>.required "type" ColumnKind.reader).reader

def View.toJson (v : View) : Json := .arr (v.map Column.toJson)

def View.reader : Reader View := Reader.list Column.reader

/-! ## Metrics -/

def AggOp.reader : Reader AggOp := .byName all name

def Axis.reader : Reader Axis := .byName all name

def TimeGranularity.reader : Reader TimeGranularity := .byName all name

def Metric.toJson (m : Metric) : Json :=
  .record
    [("alias", m.label.map .str), ("column", m.column.map .str),
     ("line_y_axis", m.axis.map fun a => .str a.name), ("op", some (.str m.op.name))]

def Metric.reader : Reader Metric :=
  (Members.of Metric.mk |>.required "op" AggOp.reader |>.optional "column" Reader.string
    |>.optional "alias" Reader.string |>.optional "line_y_axis" Axis.reader).reader

def TimeAxis.toJson (t : TimeAxis) : Json :=
  .record [("column", some (.str t.column)), ("granularity", some (.str t.granularity.name))]

def TimeAxis.reader : Reader TimeAxis :=
  (Members.of TimeAxis.mk |>.required "column" Reader.string
    |>.withDefault "granularity" .day TimeGranularity.reader).reader

def CompositeMetric.toJson (c : CompositeMetric) : Json :=
  .record
    [("granularity", some (.str c.granularity.name)), ("inner_agg", some (.str c.inner.name)),
     ("outer_agg", some (.str c.outer.name)), ("time_column", some (.str c.timeColumn)),
     ("value_column", c.valueColumn.map .str)]

def CompositeMetric.reader : Reader CompositeMetric :=
  (Members.of CompositeMetric.mk |>.required "inner_agg" AggOp.reader |>.required "outer_agg" AggOp.reader
    |>.optional "value_column" Reader.string |>.withDefault "time_column" "" Reader.string
    |>.withDefault "granularity" .day TimeGranularity.reader).reader

/-! ## Filters -/

def FilterOp.reader : Reader FilterOp := .byName all name

def RelativePeriod.reader : Reader RelativePeriod := .byName all name

def FilterValue.toJson : FilterValue → Json
  | .window p => .record [("relative", some (.str p.name))]
  | .scalar v => v

/-- the period of an object whose member `relative` names one -/
def FilterValue.windowReader : Reader RelativePeriod :=
  (Members.of id |>.required "relative" RelativePeriod.reader).objectReader

def FilterValue.reader : Reader FilterValue := fun j => do
  let v ← Reader.value j
  match windowReader j with
  | .ok p => .ok (.window p)
  | .error _ => .ok (.scalar v)

def Filter.toJson (f : Filter) : Json :=
  .record
    [("column", some (.str f.column)), ("op", some (.str f.op.name)),
     ("value", f.value.map FilterValue.toJson)]

def Filter.reader : Reader Filter :=
  (Members.of Filter.mk |>.required "column" Reader.string |>.required "op" FilterOp.reader
    |>.optional "value" FilterValue.reader).reader

def Filter.listToJson (fs : List Filter) : Json := .arr (fs.map Filter.toJson)

def Filter.listReader : Reader (List Filter) := Reader.list Filter.reader

/-! ## Dimensions and orders -/

def Dimension.toJson (d : Dimension) : Json := .str d.encode

def Dimension.reader : Reader Dimension := fun j => (Reader.string j).map Dimension.parse

def SortDirection.reader : Reader SortDirection := .byName all name

def OrderByDraft.toJson (o : OrderByDraft) : Json :=
  .record
    [("column", o.column.map .str), ("direction", some (.str o.direction.name)),
     ("metric_ref", o.metricRef.map .str)]

def OrderByDraft.reader : Reader OrderByDraft :=
  (Members.of OrderByDraft.mk |>.optional "column" Reader.string |>.optional "metric_ref" Reader.string
    |>.withDefault "direction" .asc SortDirection.reader).reader

def OrderBy.toJson (o : OrderBy) : Json := o.toDraft.toJson

/-! ## Statements, texts, labels -/

def RowType.reader : Reader RowType := .byName all name

def StatementRow.toJson (r : StatementRow) : Json :=
  .record
    [("metrics", some (.arr (r.metrics.map Metric.toJson))),
     ("row_type", some (.str r.rowType.name)), ("title", some (.str r.title))]

def StatementRow.reader : Reader StatementRow :=
  (Members.of StatementRow.mk |>.required "title" Reader.string |>.required "row_type" RowType.reader
    |>.withDefault "metrics" [] (Reader.list Metric.reader)).reader

def TextAlign.reader : Reader TextAlign := .byName all name

def TextStyle.toJson (t : TextStyle) : Json :=
  .record
    [("align", some (.str t.align.name)), ("content", some (.str t.content)),
     ("font_size", some (.ofNat t.fontSize.toNat))]

def TextStyle.reader : Reader TextStyle :=
  (Members.of TextStyle.mk |>.withDefault "content" "" Reader.string
    |>.withDefault "font_size" 16 Reader.uint16
    |>.withDefault "align" .left TextAlign.reader).reader

def LabelMode.reader : Reader LabelMode := .byName all name

def LineLabels.toJson (l : LineLabels) : Json :=
  .record
    [("enabled", some (.bool l.enabled)), ("min_gap", some (.ofNat l.minGap.toNat)),
     ("mode", some (.str l.mode.name)), ("sensitivity", some (.ofNat l.sensitivity.toNat)),
     ("window", some (.ofNat l.window.toNat))]

def LineLabels.reader : Reader LineLabels :=
  (Members.of LineLabels.mk |>.withDefault "enabled" false Reader.bool
    |>.withDefault "mode" .both LabelMode.reader
    |>.withDefault "sensitivity" 50 Reader.uint8 |>.withDefault "window" 3 Reader.uint8
    |>.withDefault "min_gap" 2 Reader.uint8).reader

/-! ## Drafts -/

def WidgetKind.reader : Reader WidgetKind := .byName all name

def formatsToJson (d : Dictionary String) : Json :=
  .obj (d.entries.map fun e => (e.1, .str e.2))

def Draft.toJson (d : Draft) : Json :=
  .record
    [("columns", d.columns.map fun cs => .arr (cs.map .str)),
     ("composite_metric", d.composite.map CompositeMetric.toJson),
     ("dimensions", some (.arr (d.dimensions.map Dimension.toJson))),
     ("dre_percent_base_row_index", d.percentBase.map .ofNat),
     ("dre_rows", d.rows.map fun rs => .arr (rs.map StatementRow.toJson)),
     ("filters", some (Filter.listToJson d.filters)),
     ("line_labels", d.labels.map LineLabels.toJson),
     ("metrics", some (.arr (d.metrics.map Metric.toJson))),
     ("order_by", some (.arr (d.orderBy.map OrderByDraft.toJson))),
     ("table_column_formats", d.formats.map formatsToJson),
     ("table_page_size", d.pageSize.map fun n => .ofNat n.toNat),
     ("text_style", d.style.map TextStyle.toJson),
     ("time", d.time.map TimeAxis.toJson),
     ("top_n", d.topN.map fun n => .ofNat n.toNat),
     ("widget_type", some (.str d.kind.name))]

def Draft.members : Members Draft :=
  Members.of Draft.mk |>.required "widget_type" WidgetKind.reader
    |>.withDefault "metrics" [] (Reader.list Metric.reader)
    |>.withDefault "dimensions" [] (Reader.list Dimension.reader)
    |>.withDefault "filters" [] Filter.listReader
    |>.withDefault "order_by" [] (Reader.list OrderByDraft.reader)
    |>.optional "time" TimeAxis.reader
    |>.optional "composite_metric" CompositeMetric.reader
    |>.optional "dre_rows" (Reader.list StatementRow.reader)
    |>.optional "dre_percent_base_row_index" Reader.natural
    |>.optional "columns" (Reader.list Reader.string)
    |>.optional "table_column_formats" (Reader.dictionary Reader.string)
    |>.optional "table_page_size" Reader.uint32
    |>.optional "text_style" TextStyle.reader
    |>.optional "line_labels" LineLabels.reader
    |>.optional "top_n" Reader.uint32

def Draft.reader : Reader Draft := Draft.members.reader

/-! ## Configurations -/

def Config.toJson (c : Config) : Json := (Draft.ofConfig c).toJson

def Config.reader : Reader Config := fun j => (Draft.reader j).map Draft.normalize

def violationsToJson (vs : List Violation) : Json :=
  .arr (vs.map fun v => .str v.message)

def CompileReport.toJson (r : CompileReport) : Json :=
  .record
    [("config", some r.config.toJson), ("description", r.description.map .str),
     ("violations", some (violationsToJson r.violations))]

end WidgetBoard
