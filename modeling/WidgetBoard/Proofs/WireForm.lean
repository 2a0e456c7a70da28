import WidgetBoard.Wire.Config
import WidgetBoard.Proofs.Buckets
import WidgetBoard.Proofs.Records

/-!
# Written forms are read back

What a written draft reads as.  Metrics, orders, statements, texts and labels come back as they
were.  Two parts are told apart by their texts alone, and may come back as something else: a
dimension, which is written as one text, and a filter value, which may look like a window.

* `Dimension.reread`, `FilterValue.reread`, `Draft.reread`   what the written form reads as;
* `Dimension.IsDisguised`, `FilterValue.IsDisguised`   those that do not come back as they were;
* `Draft.reads_toJson`   the written form of a draft reads as `Draft.reread`;
* `Draft.isValue_filters_of_reader`   what the filters of a draft that was read can be.
-/

namespace WidgetBoard

open Members Reader

/-! ## enumerations -/

namespace Reader

theorem reads_byName {α : Type} {all : List α} {name : α → String} {a : α}
    (h : (all.map fun a => (name a, a)).lookup (name a) = some a) :
    (byName all name).Reads (.str (name a)) a :=
  reads_named h

end Reader

theorem AggOp.reads (a : AggOp) : reader.Reads (.str a.name) a :=
  reads_byName (by cases a <;> rfl)

theorem Axis.reads (a : Axis) : reader.Reads (.str a.name) a :=
  reads_byName (by cases a <;> rfl)

theorem TimeGranularity.reads (g : TimeGranularity) : reader.Reads (.str g.name) g :=
  reads_byName (by cases g <;> rfl)

theorem FilterOp.reads (o : FilterOp) : reader.Reads (.str o.name) o :=
  reads_byName (by cases o <;> rfl)

theorem RelativePeriod.reads (p : RelativePeriod) : reader.Reads (.str p.name) p :=
  reads_byName (by cases p <;> rfl)

theorem SortDirection.reads (d : SortDirection) : reader.Reads (.str d.name) d :=
  reads_byName (by cases d <;> rfl)

theorem RowType.reads (t : RowType) : reader.Reads (.str t.name) t :=
  reads_byName (by cases t <;> rfl)

theorem TextAlign.reads (a : TextAlign) : reader.Reads (.str a.name) a :=
  reads_byName (by cases a <;> rfl)

theorem LabelMode.reads (m : LabelMode) : reader.Reads (.str m.name) m :=
  reads_byName (by cases m <;> rfl)

theorem WidgetKind.reads (k : WidgetKind) : reader.Reads (.str k.name) k :=
  reads_byName (by cases k <;> rfl)

/-! ## records that come back as they were -/

theorem Metric.reads (m : Metric) : reader.Reads m.toJson m := by
  refine reads_record ?_ (of_decide_eq_true rfl) (of_decide_eq_true rfl)
  exact (reads_of Metric.mk _).required "op" (by rfl) (AggOp.reads m.op)
    |>.optional_self "column" (by rfl) reads_string
    |>.optional_self "alias" (by rfl) reads_string
    |>.optional_self "line_y_axis" (by rfl) Axis.reads

theorem TimeAxis.reads (t : TimeAxis) : reader.Reads t.toJson t := by
  refine reads_record ?_ (of_decide_eq_true rfl) (of_decide_eq_true rfl)
  exact (reads_of TimeAxis.mk _).required "column" (by rfl) (reads_string t.column)
    |>.withDefault "granularity" (by rfl) (TimeGranularity.reads t.granularity)

theorem CompositeMetric.reads (c : CompositeMetric) : reader.Reads c.toJson c := by
  refine reads_record ?_ (of_decide_eq_true rfl) (of_decide_eq_true rfl)
  exact (reads_of CompositeMetric.mk _).required "inner_agg" (by rfl) (AggOp.reads c.inner)
    |>.required "outer_agg" (by rfl) (AggOp.reads c.outer)
    |>.optional_self "value_column" (by rfl) reads_string
    |>.withDefault "time_column" (by rfl) (reads_string c.timeColumn)
    |>.withDefault "granularity" (by rfl) (TimeGranularity.reads c.granularity)

theorem OrderByDraft.reads (o : OrderByDraft) : reader.Reads o.toJson o := by
  refine reads_record ?_ (of_decide_eq_true rfl) (of_decide_eq_true rfl)
  exact (reads_of OrderByDraft.mk _).optional_self "column" (by rfl) reads_string
    |>.optional_self "metric_ref" (by rfl) reads_string
    |>.withDefault "direction" (by rfl) (SortDirection.reads o.direction)

theorem StatementRow.reads (r : StatementRow) : reader.Reads r.toJson r := by
  refine reads_record ?_ (of_decide_eq_true rfl) (of_decide_eq_true rfl)
  exact (reads_of StatementRow.mk _).required "title" (by rfl) (reads_string r.title)
    |>.required "row_type" (by rfl) (RowType.reads r.rowType)
    |>.withDefault "metrics" (by rfl) (reads_list_self Metric.reads r.metrics)

theorem TextStyle.reads (t : TextStyle) : reader.Reads t.toJson t := by
  refine reads_record ?_ (of_decide_eq_true rfl) (of_decide_eq_true rfl)
  exact (reads_of TextStyle.mk _).withDefault "content" (by rfl) (reads_string t.content)
    |>.withDefault "font_size" (by rfl) (reads_uint16 t.fontSize)
    |>.withDefault "align" (by rfl) (TextAlign.reads t.align)

theorem LineLabels.reads (l : LineLabels) : reader.Reads l.toJson l := by
  refine reads_record ?_ (of_decide_eq_true rfl) (of_decide_eq_true rfl)
  exact (reads_of LineLabels.mk _).withDefault "enabled" (by rfl) (reads_bool l.enabled)
    |>.withDefault "mode" (by rfl) (LabelMode.reads l.mode)
    |>.withDefault "sensitivity" (by rfl) (reads_uint8 l.sensitivity)
    |>.withDefault "window" (by rfl) (reads_uint8 l.window)
    |>.withDefault "min_gap" (by rfl) (reads_uint8 l.minGap)

/-! ## dimensions -/

namespace Dimension

/-- the dimension that the written form of `d` reads as -/
def reread (d : Dimension) : Dimension := parse d.encode

theorem reads (d : Dimension) : reader.Reads d.toJson d.reread := ⟨rfl, trivial⟩

/-- a dimension that was read comes back, since its text does -/
theorem reread_of_reader {j : Json} {d : Dimension} (h : reader j = .ok d) : d.reread = d := by
  obtain ⟨s, _, rfl⟩ := except_map_eq_ok_iff.1 h
  rw [reread, encode_parse]

/-- a plain column whose name is the written form of a bucket -/
def IsDisguised : Dimension → Prop
  | .plain s => ∃ g column, column ≠ "" ∧ s = encode (.bucket g column)
  | .bucket .. => False

/-- a dimension over a column comes back unless it is a bucket in disguise -/
theorem reread_eq_self_iff {d : Dimension} (h : d.columnName ≠ "") :
    d.reread = d ↔ ¬ d.IsDisguised := by
  rw [reread, parse_encode_eq_self_iff]
  cases d with
  | bucket g column => exact iff_of_true h id
  | plain s => simp only [ReadsBack, IsSentinel, IsDisguised, encode_bucket]

end Dimension

/-! ## filters -/

namespace FilterValue

/-- a window, or a scalar that can stand for itself in a record -/
def IsValue : FilterValue → Prop
  | .window _ => True
  | .scalar v => v.IsSettled ∧ v ≠ .null

/-- a scalar that looks like a window -/
def IsDisguised : FilterValue → Prop
  | .window _ => False
  | .scalar v => ∃ p, windowReader v = .ok p

/-- the value that the written form of a filter value reads as -/
def reread : FilterValue → FilterValue
  | .window p => .window p
  | .scalar v =>
    match windowReader v with
    | .ok p => .window p
    | .error _ => .scalar v

theorem reread_eq_self_iff {v : FilterValue} : v.reread = v ↔ ¬ v.IsDisguised := by
  cases v with
  | window p => exact ⟨fun _ h => h.elim, fun _ => rfl⟩
  | scalar v =>
    rw [reread, IsDisguised]
    cases windowReader v with
    | ok p => simp
    | error e => simp

theorem windowReader_window (p : RelativePeriod) :
    windowReader (toJson (.window p)) = .ok p := by
  refine ofObject_present ?_ (of_decide_eq_true rfl) (of_decide_eq_true rfl)
  exact (reads_of id _).required "relative" (by rfl) (RelativePeriod.reads p)

/-- a settled value is a window where it looks like one, and a scalar otherwise -/
theorem reader_of_isSettled {j : Json} (h : j.IsSettled) : reader j = .ok (reread (.scalar j)) := by
  have hv : value j = .ok j := by
    rw [value, show j.settle? = some j from h]
  unfold reader
  rw [hv, reread]
  cases windowReader j <;> rfl

theorem reads {v : FilterValue} (h : v.IsValue) : reader.Reads v.toJson v.reread := by
  cases v with
  | window p =>
    have hr : reread (.scalar (toJson (.window p))) = .window p := by
      rw [reread, windowReader_window]
    have hs : (toJson (.window p)).IsSettled := rfl
    exact ⟨(reader_of_isSettled hs).trans (congrArg Except.ok hr), trivial⟩
  | scalar v =>
    obtain ⟨hs, hn⟩ := h
    refine ⟨reader_of_isSettled hs, ?_⟩
    show v.IsPlain
    cases v with
    | null => exact absurd rfl hn
    | broken | keyless => exact nomatch hs
    | bool | num | str | arr | obj => trivial

/-- a value that was read can be written; read from a settled value, it is not in disguise -/
theorem isValue_of_reader {j : Json} {v : FilterValue} (h : reader j = .ok v) (hj : j ≠ .null) :
    v.IsValue ∧ (j.IsSettled → ¬ v.IsDisguised) := by
  obtain ⟨w, hw, h⟩ := except_bind_eq_ok_iff.1 h
  have hs : j.settle? = some w := by
    unfold value at hw
    split at hw
    · next hv => exact hv.trans (congrArg some (Except.ok.inj hw))
    · exact nomatch hw
  split at h
  · cases h
    exact ⟨trivial, fun _ hd => hd⟩
  · next e he =>
    cases h
    refine ⟨⟨Json.isSettled_of_settle? hs, ?_⟩, ?_⟩
    · rintro rfl
      exact hj (Json.settle?_eq_null_iff.1 hs)
    · rintro hset ⟨p, hp⟩
      obtain rfl : j = w := Option.some.inj (hset.symm.trans hs)
      exact nomatch he.symm.trans hp

end FilterValue

namespace Filter

def IsValue (f : Filter) : Prop := ∀ v ∈ f.value, v.IsValue

def IsDisguised (f : Filter) : Prop := ∃ v ∈ f.value, v.IsDisguised

def reread (f : Filter) : Filter := { f with value := f.value.map FilterValue.reread }

theorem reread_eq_self_iff {f : Filter} : f.reread = f ↔ ¬ f.IsDisguised := by
  obtain ⟨column, op, value⟩ := f
  cases value with
  | none => simp [reread, IsDisguised]
  | some v => simp [reread, IsDisguised, FilterValue.reread_eq_self_iff]

theorem reads {f : Filter} (h : f.IsValue) : reader.Reads f.toJson f.reread := by
  refine reads_record ?_ (of_decide_eq_true rfl) (of_decide_eq_true rfl)
  exact (reads_of Filter.mk _).required "column" (by rfl) (reads_string f.column)
    |>.required "op" (by rfl) (FilterOp.reads f.op)
    |>.optional "value" (by rfl) fun v hv => FilterValue.reads (h v hv)

theorem isValue_of_reader {j : Json} {f : Filter} (h : reader j = .ok f) :
    f.IsValue ∧ (j.IsSettled → ¬ f.IsDisguised) := by
  obtain ⟨find, h, hfind⟩ := exists_build h
  obtain ⟨_, o, rfl, h, ho⟩ := build_optional h
  obtain ⟨_, op, rfl, h, -⟩ := build_required h
  obtain ⟨_, column, rfl, h, -⟩ := build_required h
  cases h
  constructor
  · intro v hv
    obtain ⟨x, _, hr, hx⟩ := ho v hv
    exact (FilterValue.isValue_of_reader hr hx).1
  · rintro hj ⟨v, hv, hd⟩
    obtain ⟨x, hk, hr, hx⟩ := ho v hv
    exact (FilterValue.isValue_of_reader hr hx).2 (hj.of_mem_children (hfind _ x hk)) hd

end Filter

/-! ## drafts -/

namespace Draft

/-- the draft that the written form of `d` reads as -/
def reread (d : Draft) : Draft :=
  { d with
    dimensions := d.dimensions.map Dimension.reread
    filters := d.filters.map Filter.reread }

theorem reads_formats (d : Dictionary String) :
    (dictionary string).Reads (formatsToJson d) d :=
  reads_dictionary (f := Json.str) (fun _ => rfl) d

/-- **The written form of a draft reads as the draft with its dimensions and filters reread.** -/
theorem reads_toJson {d : Draft} (h : ∀ f ∈ d.filters, f.IsValue) :
    reader.Reads d.toJson d.reread := by
  refine reads_record ?_ (of_decide_eq_true rfl) (of_decide_eq_true rfl)
  exact (reads_of Draft.mk _).required "widget_type" (by rfl) (WidgetKind.reads d.kind)
    |>.withDefault "metrics" (by rfl) (reads_list_self Metric.reads d.metrics)
    |>.withDefault "dimensions" (by rfl) (reads_list fun e _ => Dimension.reads e)
    |>.withDefault "filters" (by rfl) (reads_list fun f hf => Filter.reads (h f hf))
    |>.withDefault "order_by" (by rfl) (reads_list_self OrderByDraft.reads d.orderBy)
    |>.optional_self "time" (by rfl) TimeAxis.reads
    |>.optional_self "composite_metric" (by rfl) CompositeMetric.reads
    |>.optional_self "dre_rows" (by rfl) (reads_list_self StatementRow.reads)
    |>.optional_self "dre_percent_base_row_index" (by rfl) reads_natural
    |>.optional_self "columns" (by rfl) (reads_list_self reads_string)
    |>.optional_self "table_column_formats" (by rfl) reads_formats
    |>.optional_self "table_page_size" (by rfl) reads_uint32
    |>.optional_self "text_style" (by rfl) TextStyle.reads
    |>.optional_self "line_labels" (by rfl) LineLabels.reads
    |>.optional_self "top_n" (by rfl) reads_uint32

/-- the dimensions and the filters of a draft that was read have been read one by one -/
theorem exists_items_of_reader {j : Json} {d : Draft} (h : reader j = .ok d) :
    (∀ e ∈ d.dimensions, ∃ x, Dimension.reader x = .ok e) ∧
    ∀ f ∈ d.filters, ∃ x, Filter.reader x = .ok f ∧ (j.IsSettled → x.IsSettled) := by
  obtain ⟨find, h, hfind⟩ := exists_build h
  -- the ten optional members and the orders are listed behind the filters
  iterate 10 obtain ⟨_, _, rfl, h, -⟩ := build_optional h
  obtain ⟨_, _, rfl, h, -⟩ := build_withDefault h
  obtain ⟨_, fs, rfl, h, hfs⟩ := build_withDefault h
  obtain ⟨_, es, rfl, h, hes⟩ := build_withDefault h
  obtain ⟨_, _, rfl, h, -⟩ := build_withDefault h
  obtain ⟨_, _, rfl, h, -⟩ := build_required h
  cases h
  constructor
  · intro e he
    rcases hes with rfl | ⟨x, _, hes⟩
    · exact nomatch he
    · obtain ⟨y, _, hr⟩ := of_mem_list hes e he
      exact ⟨y, hr⟩
  · intro f hf
    rcases hfs with rfl | ⟨x, hx, hfs⟩
    · exact nomatch hf
    · obtain ⟨y, hy, hr⟩ := of_mem_list hfs f hf
      exact ⟨y, hr, fun hj => (hj.of_mem_children (hfind _ x hx)).of_mem_children hy⟩

/-- the filters of a draft that was read can be written; read from a settled value, none is in
disguise -/
theorem isValue_filters_of_reader {j : Json} {d : Draft} (h : reader j = .ok d) :
    ∀ f ∈ d.filters, f.IsValue ∧ (j.IsSettled → ¬ f.IsDisguised) := by
  intro f hf
  obtain ⟨x, hr, hx⟩ := (exists_items_of_reader h).2 f hf
  obtain ⟨hv, hd⟩ := Filter.isValue_of_reader hr
  exact ⟨hv, fun hj => hd (hx hj)⟩

end Draft

end WidgetBoard
