import WidgetBoard.Config.Normal
import WidgetBoard.Proofs.Lists
import WidgetBoard.Proofs.Names

/-!
# The canonical form of a configuration

A configuration is *canonical* when every name in it is trimmed and not blank, every number is
within its bounds, and what one part says of another is so (formats belong to columns of the table,
the base of a statement is a result row).  `Config.IsCanonical` says this field by field, without
a word on how a draft is normalized.

* `Config.isCanonical_normalize`   every draft is normalized to a canonical configuration;
* `Config.normalize_ofConfig`      a canonical configuration is the one that its own draft has.

Together: canonical configurations are the image of `Draft.normalize`, and the fixed points of
normalizing a configuration again (`Config.isCanonical_iff_renormalize`).
-/

namespace WidgetBoard

open Text

/-! ## canonical parts -/

namespace Metric

/-- column and label are names, where given -/
def HasNames (m : Metric) : Prop :=
  (∀ s ∈ m.column, IsName s) ∧ ∀ s ∈ m.label, IsName s

def IsCanonical (m : Metric) : Prop := m.HasNames ∧ m.axis = none

/-- one or two metrics, the first on the left, the second on either side -/
def LineCanonical : List Metric → Prop
  | [m] => m.HasNames ∧ m.axis = some .left
  | [m, n] =>
    (m.HasNames ∧ m.axis = some .left) ∧ n.HasNames ∧ (n.axis = some .left ∨ n.axis = some .right)
  | _ => False

end Metric

/-- the column is a name, and a period is not left as the editor's operator -/
def Filter.IsCanonical (f : Filter) : Prop :=
  IsName f.column ∧ ¬ (f.op = .relative ∧ ∃ v ∈ f.value, v.period?.isSome = true)

def OrderTarget.text : OrderTarget → String
  | .column name => name
  | .metric ref => ref

def OrderBy.IsCanonical (o : OrderBy) : Prop := IsName o.target.text

def Dimension.IsCanonical (d : Dimension) : Prop := IsName d.columnName

/-- the names of a composite: a column may be absent, the column of time may be empty -/
structure CompositeMetric.IsCanonical (c : CompositeMetric) : Prop where
  valueColumn : ∀ s ∈ c.valueColumn, IsName s
  timeColumn : IsTrimmed c.timeColumn

structure LineLabels.IsCanonical (l : LineLabels) : Prop where
  sensitivity : 25 ≤ l.sensitivity ∧ l.sensitivity ≤ 100
  window : l.window = 3
  minGap : l.minGap = 2

structure StatementRow.IsCanonical (r : StatementRow) : Prop where
  title : IsTrimmed r.title
  metrics : ∀ m ∈ r.metrics, m.IsCanonical

/-- the base is a result row, or there is none -/
def IsPercentBase (rows : List StatementRow) : Option Nat → Prop
  | some i => ∃ r ∈ rows[i]?, r.rowType = .result
  | none => ∀ r ∈ rows, r.rowType ≠ .result

/-! ## canonical configurations -/

def KpiMeasure.IsCanonical : KpiMeasure → Prop
  | .single m => m.IsCanonical
  | .composite c => c.IsCanonical

structure KpiConfig.IsCanonical (c : KpiConfig) : Prop where
  measure : c.measure.IsCanonical
  filters : ∀ f ∈ c.filters, f.IsCanonical

structure LineConfig.IsCanonical (c : LineConfig) : Prop where
  time : ∀ t ∈ c.time, IsName t.column
  metrics : Metric.LineCanonical c.metrics
  filters : ∀ f ∈ c.filters, f.IsCanonical
  orderBy : ∀ o ∈ c.orderBy, o.IsCanonical
  labels : c.labels.IsCanonical

structure ChartConfig.IsCanonical (c : ChartConfig) : Prop where
  dimensions : ∀ d ∈ c.dimensions, d.IsCanonical
  metrics : ∀ m ∈ c.metrics, m.IsCanonical
  filters : ∀ f ∈ c.filters, f.IsCanonical
  orderBy : ∀ o ∈ c.orderBy, o.IsCanonical
  topN : c.topN ≠ some 0

structure TableConfig.IsCanonical (c : TableConfig) : Prop where
  columns : (∀ s ∈ c.columns, IsName s) ∧ c.columns.Nodup
  metrics : ∀ m ∈ c.metrics, m.IsCanonical
  dimensions : ∀ d ∈ c.dimensions, d.IsCanonical
  filters : ∀ f ∈ c.filters, f.IsCanonical
  orderBy : ∀ o ∈ c.orderBy, o.IsCanonical
  formats : ∀ e ∈ c.formats.entries, e.1 ∈ c.columns ∧ IsName e.2
  pageSize : 1 ≤ c.pageSize ∧ c.pageSize ≤ 500

structure StatementConfig.IsCanonical (c : StatementConfig) : Prop where
  rows : ∀ r ∈ c.rows, r.IsCanonical
  percentBase : IsPercentBase c.rows c.percentBase
  filters : ∀ f ∈ c.filters, f.IsCanonical

/-- any text may stand in a text widget -/
def Config.IsCanonical : Config → Prop
  | .kpi c => c.IsCanonical
  | .line c => c.IsCanonical
  | .bar c | .column c | .donut c => c.IsCanonical
  | .table c => c.IsCanonical
  | .text _ => True
  | .statement c => c.IsCanonical

/-! ## lists -/

theorem mem_dedup {s : String} {ss : List String} : s ∈ dedup ss ↔ s ∈ ss := by
  induction ss with
  | nil => rfl
  | cons t ss ih =>
    rw [dedup, List.mem_cons, List.mem_cons, List.mem_filter, ih]
    by_cases h : s = t <;> simp [h]

theorem nodup_dedup (ss : List String) : (dedup ss).Nodup := by
  induction ss with
  | nil => exact List.nodup_nil
  | cons s ss ih =>
    rw [dedup, List.nodup_cons]
    exact ⟨by simp, ih.filter _⟩

theorem dedup_eq_self {ss : List String} (h : ss.Nodup) : dedup ss = ss := by
  induction ss with
  | nil => rfl
  | cons s ss ih =>
    obtain ⟨hs, hss⟩ := List.nodup_cons.1 h
    rw [dedup, ih hss, List.filter_eq_self.2]
    intro t ht
    have hne : t ≠ s := fun e => hs (e ▸ ht)
    simpa using hne

/-! ## metrics -/

namespace Metric

theorem isCanonical_clean (m : Metric) : m.clean.IsCanonical :=
  ⟨⟨fun _ h => isName_of_mem_bind h, fun _ h => isName_of_mem_bind h⟩, rfl⟩

theorem clean_of_hasNames {m : Metric} (h : m.HasNames) : m.clean = m.offAxis := by
  rw [clean, bind_nonBlank?_eq_self h.1, bind_nonBlank?_eq_self h.2]
  rfl

theorem clean_eq_self {m : Metric} (h : m.IsCanonical) : m.clean = m := by
  rw [clean_of_hasNames h.1]
  obtain ⟨op, column, label, axis⟩ := m
  obtain ⟨_, rfl⟩ := h
  rfl

theorem forall_mem_map_clean (ms : List Metric) : ∀ m ∈ ms.map clean, m.IsCanonical := by
  intro m hm
  obtain ⟨n, _, rfl⟩ := List.mem_map.1 hm
  exact n.isCanonical_clean

theorem map_clean_eq_self {ms : List Metric} (h : ∀ m ∈ ms, m.IsCanonical) : ms.map clean = ms :=
  map_eq_self fun m hm => clean_eq_self (h m hm)

theorem onAxis_clean {m : Metric} {a : Axis} (h : m.HasNames) (ha : m.axis = some a) :
    m.clean.onAxis a = m := by
  rw [clean_of_hasNames h]
  obtain ⟨op, column, label, axis⟩ := m
  subst ha
  rfl

theorem lineCanonical_lineMetrics (ms : List Metric) : LineCanonical (Draft.lineMetrics ms) := by
  have names (m : Metric) (a : Axis) : (m.clean.onAxis a).HasNames := m.isCanonical_clean.1
  match ms with
  | [] => exact ⟨names Metric.count .left, rfl⟩
  | [m] => exact ⟨names m _, rfl⟩
  | m :: n :: _ =>
    refine ⟨⟨names m _, rfl⟩, names n _, ?_⟩
    show some (Draft.secondAxis n) = _ ∨ some (Draft.secondAxis n) = _
    unfold Draft.secondAxis
    split
    · exact Or.inl rfl
    · exact Or.inr rfl

theorem lineMetrics_eq_self {ms : List Metric} (h : LineCanonical ms) :
    Draft.lineMetrics ms = ms := by
  match ms, h with
  | [m], ⟨hm, ha⟩ => rw [Draft.lineMetrics, onAxis_clean hm ha]
  | [m, n], ⟨⟨hm, ha⟩, hn, hb⟩ =>
    have hs : n.axis = some (Draft.secondAxis n) := by
      rcases hb with hb | hb <;> simp [Draft.secondAxis, hb]
    rw [Draft.lineMetrics, onAxis_clean hm ha, onAxis_clean hn hs]

end Metric

/-! ## filters, orders, dimensions -/

namespace Filter

theorem isCanonical_of_compile? {f g : Filter} (h : f.compile? = some g) : g.IsCanonical := by
  obtain ⟨column, hc, rfl⟩ := Option.map_eq_some_iff.1 h
  have hn := isName_of_nonBlank? hc
  split
  · exact ⟨hn, fun ⟨ho, _⟩ => nomatch ho⟩
  · next hno =>
    refine ⟨hn, fun ⟨ho, v, hv, hp⟩ => ?_⟩
    obtain ⟨p, hp⟩ := Option.isSome_iff_exists.1 hp
    exact hno p ho (by rw [show f.value = some v from hv]; exact hp)

theorem compile?_eq_self {f : Filter} (h : f.IsCanonical) : f.compile? = some f := by
  obtain ⟨hn, hr⟩ := h
  rw [compile?, nonBlank?_self_iff.2 hn, Option.map_some]
  split
  · next p ho hp =>
    obtain ⟨v, hv, hvp⟩ := Option.bind_eq_some_iff.1 hp
    exact absurd ⟨ho, v, hv, by rw [hvp]; rfl⟩ hr
  · rfl

theorem forall_mem_compile (fs : List Filter) : ∀ f ∈ compile fs, f.IsCanonical :=
  forall_mem_filterMap fun _ _ => isCanonical_of_compile?

theorem compile_eq_self {fs : List Filter} (h : ∀ f ∈ fs, f.IsCanonical) : compile fs = fs :=
  filterMap_eq_self fun f hf => compile?_eq_self (h f hf)

end Filter

namespace OrderBy

theorem isCanonical_of_resolve? {o : OrderByDraft} {r : OrderBy} (h : o.resolve? = some r) :
    r.IsCanonical := by
  unfold OrderByDraft.resolve? at h
  split at h
  · next hr =>
    cases h
    exact isName_of_mem_bind hr
  · next hc =>
    cases h
    exact isName_of_mem_bind hc
  · cases h

theorem resolve?_toDraft {o : OrderBy} (h : o.IsCanonical) : o.toDraft.resolve? = some o := by
  obtain ⟨target, direction⟩ := o
  cases target with
  | column name =>
    have hn : nonBlank? name = some name := nonBlank?_self_iff.2 h
    simp [toDraft, OrderByDraft.resolve?, hn]
  | metric ref =>
    have hr : nonBlank? ref = some ref := nonBlank?_self_iff.2 h
    simp [toDraft, OrderByDraft.resolve?, hr]

theorem resolve_toDrafts {os : List OrderBy} (h : ∀ o ∈ os, o.IsCanonical) :
    (os.map toDraft).filterMap OrderByDraft.resolve? = os := by
  rw [List.filterMap_map]
  exact filterMap_eq_self fun o ho => resolve?_toDraft (h o ho)

end OrderBy

namespace Dimension

theorem isCanonical_of_clean? {d e : Dimension} (h : d.clean? = some e) : e.IsCanonical := by
  obtain ⟨column, hc, rfl⟩ := Option.map_eq_some_iff.1 h
  have hn := isName_of_nonBlank? hc
  cases d with
  | plain name => exact hn
  | bucket g name => exact hn

theorem clean?_eq_self {d : Dimension} (h : d.IsCanonical) : d.clean? = some d := by
  have hn : nonBlank? d.columnName = some d.columnName := nonBlank?_self_iff.2 h
  rw [clean?, hn]
  cases d with
  | plain name => rfl
  | bucket g name => rfl

end Dimension

/-! ## time, labels, statements -/

theorem TimeAxis.isName_of_clean? {t u : TimeAxis} (h : t.clean? = some u) : IsName u.column := by
  obtain ⟨column, hc, rfl⟩ := Option.map_eq_some_iff.1 h
  exact isName_of_nonBlank? hc

theorem TimeAxis.clean?_eq_self {t : TimeAxis} (h : IsName t.column) : t.clean? = some t := by
  rw [clean?, nonBlank?_self_iff.2 h]
  rfl

theorem LineLabels.isCanonical_normalize (l : LineLabels) : l.normalize.IsCanonical := by
  refine ⟨?_, rfl, rfl⟩
  simp only [normalize, minSensitivity, maxSensitivity, Max.max, Min.min]
  grind

theorem LineLabels.normalize_eq_self {l : LineLabels} (h : l.IsCanonical) : l.normalize = l := by
  obtain ⟨enabled, mode, sensitivity, window, minGap⟩ := l
  obtain ⟨hs, rfl, rfl⟩ := h
  have hc : max minSensitivity (min sensitivity maxSensitivity) = sensitivity := by
    simp only [minSensitivity, maxSensitivity, Max.max, Min.min]
    grind
  rw [normalize, hc]

theorem StatementRow.isCanonical_clean (r : StatementRow) : r.clean.IsCanonical :=
  ⟨isTrimmed_trim r.title, Metric.forall_mem_map_clean r.metrics⟩

theorem StatementRow.clean_eq_self {r : StatementRow} (h : r.IsCanonical) : r.clean = r := by
  rw [clean, isTrimmed_iff.1 h.title, Metric.map_clean_eq_self h.metrics]

theorem StatementRow.isResult_iff {r : StatementRow} : r.isResult = true ↔ r.rowType = .result :=
  beq_iff_eq

theorem isResultAt_iff {rows : List StatementRow} {i : Nat} :
    StatementRow.isResultAt rows i = true ↔ IsPercentBase rows (some i) := by
  unfold StatementRow.isResultAt IsPercentBase
  cases h : rows[i]? with
  | none => simp [h]
  | some r => simp [h, StatementRow.isResult_iff]

/-- the first result row is a base, and there is no other choice when there is none -/
theorem isPercentBase_findIdx? (rows : List StatementRow) :
    IsPercentBase rows (rows.findIdx? (·.isResult)) := by
  cases h : rows.findIdx? (·.isResult) with
  | none =>
    intro r hr hres
    have hno := List.findIdx?_eq_none_iff.1 h r hr
    rw [StatementRow.isResult_iff.2 hres] at hno
    exact Bool.noConfusion hno
  | some i =>
    obtain ⟨hi, hp, _⟩ := List.findIdx?_eq_some_iff_getElem.1 h
    exact ⟨rows[i], List.getElem?_eq_getElem hi, StatementRow.isResult_iff.1 hp⟩

theorem isPercentBase_percentBase? (rows : List StatementRow) (stored : Option Nat) :
    IsPercentBase rows (percentBase? rows stored) := by
  cases stored with
  | none => exact isPercentBase_findIdx? rows
  | some i =>
    simp only [percentBase?]
    split
    · next h => exact isResultAt_iff.1 h
    · exact isPercentBase_findIdx? rows

theorem percentBase?_eq_self {rows : List StatementRow} {base : Option Nat}
    (h : IsPercentBase rows base) : percentBase? rows base = base := by
  cases base with
  | none =>
    refine List.findIdx?_eq_none_iff.2 fun r hr => ?_
    have hno := mt StatementRow.isResult_iff.1 (h r hr)
    exact Bool.eq_false_iff.2 hno
  | some i => rw [percentBase?, if_pos (isResultAt_iff.2 h)]

/-! ## tables -/

theorem Dictionary.filterMap_eq_self {α : Type} {d : Dictionary α} {f : String → α → Option α}
    (h : ∀ e ∈ d.entries, f e.1 e.2 = some e.2) : d.filterMap f = d := by
  apply Dictionary.ext
  refine WidgetBoard.filterMap_eq_self fun e he => ?_
  rw [h e he]
  rfl

theorem Dictionary.mem_filterMap {α β : Type} {d : Dictionary α} {f : String → α → Option β}
    {e : String × β} (h : e ∈ (d.filterMap f).entries) :
    ∃ a, (e.1, a) ∈ d.entries ∧ f e.1 a = some e.2 := by
  obtain ⟨x, hx, hxe⟩ := List.mem_filterMap.1 h
  obtain ⟨b, hb, rfl⟩ := Option.map_eq_some_iff.1 hxe
  exact ⟨x.2, hx, hb⟩

theorem Draft.mem_tableColumns {d : Draft} {s : String} :
    s ∈ d.tableColumns ↔ ∃ t ∈ d.columns.getD [], nonBlank? t = some s :=
  mem_dedup.trans List.mem_filterMap

theorem Draft.columns_tableColumns (d : Draft) :
    (∀ s ∈ d.tableColumns, IsName s) ∧ d.tableColumns.Nodup := by
  refine ⟨fun s hs => ?_, nodup_dedup _⟩
  obtain ⟨t, _, ht⟩ := Draft.mem_tableColumns.1 hs
  exact isName_of_nonBlank? ht

theorem Draft.formats_tableFormats (d : Draft) :
    ∀ e ∈ d.tableFormats.entries, e.1 ∈ d.tableColumns ∧ IsName e.2 := by
  intro e he
  obtain ⟨format, _, h⟩ := Dictionary.mem_filterMap he
  split at h
  · next hc => exact ⟨hc, isName_of_nonBlank? h⟩
  · cases h

/-! ## every normalized configuration is canonical -/

namespace Draft

theorem isCanonical_orders (d : Draft) : ∀ o ∈ d.orders, o.IsCanonical :=
  forall_mem_filterMap fun _ _ => OrderBy.isCanonical_of_resolve?

theorem isCanonical_measure (d : Draft) : d.measure.IsCanonical := by
  unfold measure
  split
  · exact ⟨fun _ h => isName_of_mem_bind h, isTrimmed_trim _⟩
  · cases d.kpiMetric? with
    | none => exact Metric.count.isCanonical_clean
    | some m => exact m.isCanonical_clean

theorem isCanonical_lineConfig (d : Draft) : d.lineConfig.IsCanonical where
  time t ht := by
    obtain ⟨u, _, hu⟩ := Option.bind_eq_some_iff.1 ht
    exact TimeAxis.isName_of_clean? hu
  metrics := Metric.lineCanonical_lineMetrics d.metrics
  filters := Filter.forall_mem_compile d.filters
  orderBy := d.isCanonical_orders
  labels := LineLabels.isCanonical_normalize _

theorem isCanonical_chartConfig (d : Draft) : d.chartConfig.IsCanonical where
  dimensions := forall_mem_filterMap fun _ _ => Dimension.isCanonical_of_clean?
  metrics := Metric.forall_mem_map_clean d.metrics
  filters := Filter.forall_mem_compile d.filters
  orderBy := d.isCanonical_orders
  topN := by
    intro h
    have h0 := (Option.filter_eq_some_iff.1 h).2
    simp at h0

theorem isCanonical_tableConfig (d : Draft) : d.tableConfig.IsCanonical where
  columns := d.columns_tableColumns
  metrics := Metric.forall_mem_map_clean d.metrics
  dimensions := forall_mem_filterMap fun _ _ => Dimension.isCanonical_of_clean?
  filters := Filter.forall_mem_compile d.filters
  orderBy := d.isCanonical_orders
  formats := d.formats_tableFormats
  pageSize := by
    simp only [tableConfig, maxPageSize, Max.max, Min.min]
    grind

theorem isCanonical_statementConfig (d : Draft) : d.statementConfig.IsCanonical where
  rows r hr := by
    obtain ⟨s, _, rfl⟩ := List.mem_map.1 hr
    exact s.isCanonical_clean
  percentBase := isPercentBase_percentBase? _ _
  filters := Filter.forall_mem_compile d.filters

end Draft

/-- **What a draft is normalized to is canonical.** -/
theorem Config.isCanonical_normalize (d : Draft) : d.normalize.IsCanonical := by
  unfold Draft.normalize
  cases d.kind with
  | kpi => exact ⟨d.isCanonical_measure, Filter.forall_mem_compile d.filters⟩
  | line => exact d.isCanonical_lineConfig
  | bar | column | donut => exact d.isCanonical_chartConfig
  | table => exact d.isCanonical_tableConfig
  | text => exact trivial
  | statement => exact d.isCanonical_statementConfig

/-! ## a canonical configuration is its own normal form -/

namespace Draft

theorem chartConfig_ofChart {kind : WidgetKind} {c : ChartConfig} (h : c.IsCanonical) :
    (ofChart kind c).chartConfig = c := by
  have hd : c.dimensions.filterMap Dimension.clean? = c.dimensions :=
    filterMap_eq_self fun d hd => Dimension.clean?_eq_self (h.dimensions d hd)
  have ht : (c.topN.filter fun n => 0 < n) = c.topN := by
    cases e : c.topN with
    | none => rfl
    | some n =>
      have hne : n ≠ 0 := fun hn => h.topN (hn ▸ e)
      simp [Option.filter, UInt32.pos_iff_ne_zero, hne]
  simp only [ofChart, chartConfig, orders, hd, ht, Metric.map_clean_eq_self h.metrics,
    Filter.compile_eq_self h.filters, OrderBy.resolve_toDrafts h.orderBy]

theorem measure_ofConfig {measure : KpiMeasure} {filters : List Filter}
    (h : measure.IsCanonical) : (ofConfig (.kpi ⟨measure, filters⟩)).measure = measure := by
  cases measure with
  | single m => exact congrArg KpiMeasure.single (Metric.clean_eq_self h)
  | composite c =>
    show KpiMeasure.composite
      { c with valueColumn := c.valueColumn.bind nonBlank?, timeColumn := trim c.timeColumn } = _
    rw [bind_nonBlank?_eq_self h.valueColumn, isTrimmed_iff.1 h.timeColumn]

theorem lineConfig_ofConfig {c : LineConfig} (h : c.IsCanonical) :
    (ofConfig (.line c)).lineConfig = c := by
  have ht : c.time.bind TimeAxis.clean? = c.time := by
    cases e : c.time with
    | none => rfl
    | some t => exact TimeAxis.clean?_eq_self (h.time t e)
  simp only [ofConfig, lineConfig, orders, ht, Metric.lineMetrics_eq_self h.metrics,
    Filter.compile_eq_self h.filters, OrderBy.resolve_toDrafts h.orderBy, Option.getD_some,
    LineLabels.normalize_eq_self h.labels]

theorem tableConfig_ofConfig {c : TableConfig} (h : c.IsCanonical) :
    (ofConfig (.table c)).tableConfig = c := by
  have hd : c.dimensions.filterMap Dimension.clean? = c.dimensions :=
    filterMap_eq_self fun d hd => Dimension.clean?_eq_self (h.dimensions d hd)
  have hc : (ofConfig (.table c)).tableColumns = c.columns := by
    show dedup (c.columns.filterMap nonBlank?) = c.columns
    rw [filterMap_eq_self fun s hs => nonBlank?_self_iff.2 (h.columns.1 s hs),
      dedup_eq_self h.columns.2]
  have hf : (ofConfig (.table c)).tableFormats = c.formats := by
    refine Dictionary.filterMap_eq_self fun e he => ?_
    obtain ⟨hmem, hname⟩ := h.formats e he
    rw [hc, if_pos hmem, nonBlank?_self_iff.2 hname]
  have hp : max 1 (min c.pageSize maxPageSize) = c.pageSize := by
    have hb := h.pageSize
    simp only [maxPageSize, Max.max, Min.min]
    grind
  rw [tableConfig, hc, hf]
  simp only [ofConfig, orders, hd, hp, Metric.map_clean_eq_self h.metrics,
    Filter.compile_eq_self h.filters, OrderBy.resolve_toDrafts h.orderBy, Option.getD_some]

theorem statementConfig_ofConfig {c : StatementConfig} (h : c.IsCanonical) :
    (ofConfig (.statement c)).statementConfig = c := by
  have hr : c.rows.map StatementRow.clean = c.rows :=
    map_eq_self fun r hr => StatementRow.clean_eq_self (h.rows r hr)
  simp only [ofConfig, statementConfig, Option.getD_some, hr, percentBase?_eq_self h.percentBase,
    Filter.compile_eq_self h.filters]

end Draft

/-- **A canonical configuration is what its own draft is normalized to.** -/
theorem Config.normalize_ofConfig {c : Config} (h : c.IsCanonical) :
    (Draft.ofConfig c).normalize = c := by
  rw [Draft.normalize, Draft.kind_ofConfig]
  cases c with
  | kpi c =>
    obtain ⟨measure, filters⟩ := c
    have hf : Filter.compile (Draft.ofConfig (.kpi ⟨measure, filters⟩)).filters = filters := by
      cases measure <;> exact Filter.compile_eq_self h.filters
    simp only [kind, Draft.measure_ofConfig h.measure, hf]
  | line c => exact congrArg Config.line (Draft.lineConfig_ofConfig h)
  | bar c => exact congrArg Config.bar (Draft.chartConfig_ofChart h)
  | column c => exact congrArg Config.column (Draft.chartConfig_ofChart h)
  | donut c => exact congrArg Config.donut (Draft.chartConfig_ofChart h)
  | table c => exact congrArg Config.table (Draft.tableConfig_ofConfig h)
  | text style => rfl
  | statement c => exact congrArg Config.statement (Draft.statementConfig_ofConfig h)

/-- **The canonical form is exact**: normalizing gives canonical configurations only, every
canonical configuration is given, and a configuration is canonical exactly when normalizing its
draft changes nothing. -/
theorem Config.isCanonical_iff_renormalize :
    (∀ d : Draft, d.normalize.IsCanonical) ∧
    (∀ c : Config, c.IsCanonical ↔ ∃ d : Draft, d.normalize = c) ∧
    (∀ c : Config, c.IsCanonical ↔ (Draft.ofConfig c).normalize = c) := by
  refine ⟨isCanonical_normalize, fun c => ⟨?_, ?_⟩, fun c => ⟨normalize_ofConfig, ?_⟩⟩
  · intro h
    exact ⟨Draft.ofConfig c, normalize_ofConfig h⟩
  · rintro ⟨d, rfl⟩
    exact isCanonical_normalize d
  · intro h
    rw [← h]
    exact isCanonical_normalize (Draft.ofConfig c)

end WidgetBoard
