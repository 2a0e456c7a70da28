import WidgetBoard.Proofs.Savable

/-!
# Other kinds, and the same kind again

A draft that is made one of another kind loses what the new kind has no use for.  The compiler has
a list of its own of what each kind reads, and the two must agree.

* `Draft.Field`, `WidgetKind.fields`   the fields of a draft, and those that a kind has a use for;
* `Draft.Agrees`, `Draft.IsUnset`   two drafts agree on a field; a field is as in a draft with
                              nothing in it;
* `Draft.seeded d k`          `d` as one of kind `k` with nothing cleared, only seeds put in;
* `Draft.Retyped r d k`       what is to be known of `r`, which is `d` made one of kind `k`;
* `Config.reselected`         the configuration that is left when a stored widget gets the kind that
                              it has;
* `Config.recounted`          a composite metric over counted rows, anything else as it is.

Main statements: `Draft.retyped_retype` (a change of kind clears what the kind has no use for, and
nothing that the compiler reads), `Draft.reselected_normalize_iff` (only composite metrics are
changed when the kind stays).
-/

namespace WidgetBoard

namespace Draft

/-! ## fields -/

/-- the fields of a draft besides its kind -/
inductive Field where
  | metrics
  | dimensions
  | filters
  | orderBy
  | time
  | composite
  | rows
  | percentBase
  | columns
  | formats
  | pageSize
  | style
  | labels
  | topN
  deriving DecidableEq, Repr

/-- `d` and `e` have the same in the field -/
def Agrees (d e : Draft) : Field → Prop
  | .metrics => d.metrics = e.metrics
  | .dimensions => d.dimensions = e.dimensions
  | .filters => d.filters = e.filters
  | .orderBy => d.orderBy = e.orderBy
  | .time => d.time = e.time
  | .composite => d.composite = e.composite
  | .rows => d.rows = e.rows
  | .percentBase => d.percentBase = e.percentBase
  | .columns => d.columns = e.columns
  | .formats => d.formats = e.formats
  | .pageSize => d.pageSize = e.pageSize
  | .style => d.style = e.style
  | .labels => d.labels = e.labels
  | .topN => d.topN = e.topN

/-- the list is empty, or the value is absent -/
def IsUnset (d : Draft) (f : Field) : Prop :=
  d.Agrees { kind := d.kind } f

end Draft

/-- the fields that a kind has a use for -/
def WidgetKind.fields : WidgetKind → List Draft.Field
  | .kpi => [.metrics, .composite, .filters]
  | .line => [.time, .metrics, .filters, .orderBy, .labels]
  | .bar | .column | .donut => [.dimensions, .metrics, .filters, .orderBy, .topN]
  | .table => [.columns, .metrics, .dimensions, .filters, .orderBy, .formats, .pageSize]
  | .text => [.style]
  | .statement => [.rows, .percentBase, .filters]

@[simp] theorem Metric.offAxis_comp_offAxis : offAxis ∘ offAxis = offAxis := rfl

/-- cleaning takes a metric off its axis too -/
@[simp] theorem Metric.clean_offAxis (m : Metric) : m.offAxis.clean = m.clean := rfl

namespace Draft

/-! ## seeds -/

/-- as one of another kind, with everything that is in it: only a metric or a row is put in where
the kind needs one, and a donut loses its buckets of time -/
def seeded (d : Draft) (k : WidgetKind) : Draft :=
  match k with
  | .kpi | .bar | .column => { d with kind := k, metrics := seedMetrics d.metrics }
  | .donut =>
    { d with kind := k, metrics := seedMetrics d.metrics,
             dimensions := d.dimensions.filter Dimension.isPlain }
  | .statement => { d with kind := k, rows := some (d.rows.getD [StatementRow.revenue]) }
  | .line | .table | .text => { d with kind := k }

def withoutAxes (d : Draft) : Draft :=
  { d with metrics := d.metrics.map Metric.offAxis }

theorem seedMetrics_eq_self {ms : List Metric} (h : ms ≠ []) : seedMetrics ms = ms := by
  rw [seedMetrics, if_neg (by simpa using h)]

section

variable (ms : List Metric)

theorem seedMetrics_ne_nil : seedMetrics ms ≠ [] := by
  cases ms <;> exact List.cons_ne_nil _ _

@[simp] theorem seedMetrics_seedMetrics : seedMetrics (seedMetrics ms) = seedMetrics ms :=
  seedMetrics_eq_self (seedMetrics_ne_nil ms)

/-- the seed stands on no axis -/
@[simp] theorem seedMetrics_map_offAxis :
    seedMetrics (ms.map Metric.offAxis) = (seedMetrics ms).map Metric.offAxis := by
  cases ms <;> rfl

/-- a line chart without metrics gets the same one when it is compiled -/
@[simp] theorem lineMetrics_seedMetrics : lineMetrics (seedMetrics ms) = lineMetrics ms := by
  cases ms <;> rfl

end

variable (d : Draft) (k : WidgetKind)

/-! ## what is cleared and what is kept -/

theorem isUnset_retype : ∀ f ∉ k.fields, (d.retype k).IsUnset f := by
  intro f hf
  revert hf
  cases k <;> cases f <;>
    simp [WidgetKind.fields, IsUnset, Agrees, retype, clearForeign]

theorem axis_retype (hk : k ≠ .line) : ∀ m ∈ (d.retype k).metrics, m.axis = none := by
  have off (ms : List Metric) : ∀ m ∈ ms.map Metric.offAxis, m.axis = none := by
    intro m hm
    obtain ⟨n, _, rfl⟩ := List.mem_map.1 hm
    rfl
  cases k with
  | line => exact absurd rfl hk
  | kpi | bar | column | donut =>
    simp only [retype, clearForeign, hk, if_false, seedMetrics_map_offAxis]
    exact off _
  | table => exact off d.metrics
  | text | statement => exact fun m hm => nomatch hm

/-- what the kind has a use for is kept; absent values may be filled in -/
theorem agrees_retype : ∀ f ∈ k.fields, d.IsUnset f ∨
    (d.retype k).Agrees (if k = .line then d.seeded k else (d.seeded k).withoutAxes) f := by
  intro f hf
  revert hf
  -- the fields that are not simply copied: values that are filled in, and the seeded metrics
  have filled {α : Type} (o : Option α) (a : α) : o = none ∨ some (o.getD a) = o := by
    cases o
    · exact Or.inl rfl
    · exact Or.inr rfl
  have counted : d.metrics = [] ∨ seedMetrics d.metrics = d.metrics :=
    (eq_or_ne d.metrics []).imp_right seedMetrics_eq_self
  cases k <;> cases f <;>
    simp [WidgetKind.fields, IsUnset, Agrees, retype, clearForeign, seeded, withoutAxes,
      filled, counted]

theorem retype_retype : (d.retype k).retype k = d.retype k := by
  cases k <;> simp [retype, clearForeign]

/-! ## the compiler reads no more than that -/

/-- a KPI reads the composite and the first metric, cleaned -/
theorem measure_congr {d e : Draft} (hc : d.composite = e.composite)
    (hm : d.metrics.map Metric.clean = e.metrics.map Metric.clean) : d.measure = e.measure := by
  cases hd : d.metrics with
  | nil =>
    have he : e.metrics = [] := by simpa [hd] using hm.symm
    simp [measure, kpiMetric?, hc, hd, he]
  | cons m ms =>
    rw [hd, List.map_cons] at hm
    obtain ⟨n, ns, he, hmn, -⟩ := List.map_eq_cons_iff.1 hm.symm
    obtain ⟨hop, hcolumn, -⟩ := Metric.mk.inj hmn
    simp [measure, kpiMetric?, hc, hd, he, hop, hcolumn, hmn]

theorem normalize_retype : (d.retype k).normalize = (d.seeded k).normalize := by
  cases k with
  | kpi =>
    have hm : (d.retype .kpi).measure = (d.seeded .kpi).measure :=
      measure_congr rfl (by simp [retype, clearForeign, seeded])
    exact congrArg (fun m => Config.kpi ⟨m, Filter.compile d.filters⟩) hm
  | line => simp [normalize, retype, clearForeign, seeded, lineConfig, orders]
  | bar | column | donut => simp [normalize, retype, clearForeign, seeded, chartConfig, orders]
  | table =>
    have hcolumns : (d.retype .table).tableColumns = (d.seeded .table).tableColumns := by
      simp [retype, clearForeign, seeded, tableColumns]
    simp only [normalize, tableConfig, tableFormats, hcolumns]
    simp [retype, clearForeign, seeded, orders]
  | text => simp [normalize, retype, clearForeign, seeded]
  | statement => simp [normalize, retype, clearForeign, seeded, statementConfig]

/-! ## another kind -/

/-- `r` is `d` as one of kind `k`, with what that kind has a use for and no more -/
structure Retyped (r d : Draft) (k : WidgetKind) : Prop where
  kind : r.kind = k
  cleared : ∀ f ∉ k.fields, r.IsUnset f
  kept : ∀ f ∈ k.fields, d.IsUnset f ∨
    r.Agrees (if k = .line then d.seeded k else (d.seeded k).withoutAxes) f
  axes : k ≠ .line → ∀ m ∈ r.metrics, m.axis = none
  compiled : r.normalize = (d.seeded k).normalize
  again : r.retype k = r

/-- **A change of kind clears what the new kind has no use for and nothing that the compiler
reads**, whatever is in the draft, and a second one changes nothing. -/
theorem retyped_retype : (d.retype k).Retyped d k where
  kind := by cases k <;> rfl
  cleared := d.isUnset_retype k
  kept := d.agrees_retype k
  axes := d.axis_retype k
  compiled := d.normalize_retype k
  again := d.retype_retype k

end Draft

/-! ## the kind that it has -/

namespace Config

/-- what is left of a stored configuration when its kind is picked once more -/
def reselected (c : Config) : Config :=
  ((Draft.ofConfig c).retype (Draft.ofConfig c).kind).normalize

/-- a composite metric over counted rows, anything else as it is -/
def recounted : Config → Config
  | .kpi ⟨.composite m, fs⟩ => .kpi ⟨.composite { m with inner := .count, valueColumn := none }, fs⟩
  | c => c

theorem recounted_eq_self {c : Config} (h : ∀ m fs, c ≠ .kpi ⟨.composite m, fs⟩) :
    c.recounted = c := by
  unfold recounted
  split
  · next m fs => exact absurd rfl (h m fs)
  · rfl

theorem recounted_eq_self_iff {c : Config} : c.recounted = c ↔
    ∀ m fs, c = .kpi ⟨.composite m, fs⟩ → m.inner = .count ∧ m.valueColumn = none := by
  by_cases hc : ∃ m fs, c = .kpi ⟨.composite m, fs⟩
  · obtain ⟨⟨inner, outer, valueColumn, timeColumn, granularity⟩, fs, rfl⟩ := hc
    simp [recounted, eq_comm]
  · push Not at hc
    exact iff_of_true (recounted_eq_self hc) fun m fs h => absurd h (hc m fs)

/-- a composite keeps no metric beside it, so one that counts rows is put in and taken first -/
theorem reselected_composite {m : CompositeMetric} {fs : List Filter}
    (h : (Config.kpi ⟨.composite m, fs⟩).IsCanonical) :
    (Config.kpi ⟨.composite m, fs⟩).reselected = (Config.kpi ⟨.composite m, fs⟩).recounted := by
  have hm : m.IsCanonical := h.measure
  have htime : Text.trim m.timeColumn = m.timeColumn := Text.isTrimmed_iff.1 hm.timeColumn
  have hfilters : Filter.compile fs = fs := Filter.compile_eq_self h.filters
  rw [reselected, Draft.normalize_retype]
  simp [Draft.ofConfig, Draft.seeded, Draft.normalize, Draft.measure, Draft.kpiMetric?,
    Draft.seedMetrics, Metric.count, recounted, htime, hfilters]

/-- what may be saved has its metrics, rows and plain dimensions already -/
theorem seeded_ofConfig {v : View} {c : Config} (hs : c.SavableBody v)
    (hc : ∀ m fs, c ≠ .kpi ⟨.composite m, fs⟩) :
    (Draft.ofConfig c).seeded (Draft.ofConfig c).kind = Draft.ofConfig c := by
  cases c with
  | kpi c =>
    obtain ⟨m | m, fs⟩ := c
    · rfl
    · exact absurd rfl (hc m fs)
  | bar c | column c =>
    obtain ⟨-, m, -, hm, -⟩ := hs
    simp [Draft.ofConfig, Draft.ofChart, Draft.seeded, Draft.seedMetrics, hm]
  | donut c =>
    obtain ⟨d, m, hd, hm, hgroups, -⟩ := hs
    have hplain : d.isPlain = true := by
      cases d with
      | plain s => rfl
      | bucket g s => simp [View.Groups] at hgroups
    simp [Draft.ofConfig, Draft.ofChart, Draft.seeded, Draft.seedMetrics, hm, hd, hplain]
  | line c | table c | text c | statement c => rfl

theorem reselected_eq_recounted {v : View} {c : Config} (h : c.IsCanonical)
    (hs : c.SavableBody v) : c.reselected = c.recounted := by
  by_cases hc : ∃ m fs, c = .kpi ⟨.composite m, fs⟩
  · obtain ⟨m, fs, rfl⟩ := hc
    exact reselected_composite h
  · push Not at hc
    rw [reselected, Draft.normalize_retype, seeded_ofConfig hs hc, normalize_ofConfig h,
      recounted_eq_self hc]

end Config

namespace Draft

/-- **Picking the kind of a saved widget once more** turns the inner side of a composite metric
into a count of rows, and changes nothing else: the widget stays as it is exactly when it has no
composite metric, or one that counts rows anyway. -/
theorem reselected_normalize_iff {d : Draft} {v : View} (h : (d.compile v).violations = []) :
    d.normalize.reselected = d.normalize.recounted ∧
    (d.normalize.reselected = d.normalize ↔
      ∀ m fs, d.normalize = .kpi ⟨.composite m, fs⟩ → m.inner = .count ∧ m.valueColumn = none) := by
  have hcanonical := Config.isCanonical_normalize d
  have hsavable : d.normalize.Savable v := (Config.check_eq_nil_iff hcanonical).1 h
  have heq := Config.reselected_eq_recounted hcanonical hsavable.1
  exact ⟨heq, by rw [heq, Config.recounted_eq_self_iff]⟩

theorem reselected_normalize_revenuePerRegion :
    let d : Draft :=
      { kind := .donut, dimensions := [.plain "region"],
        metrics := [{ op := .sum, column := some "revenue" }], topN := some 5 }
    let v : View := [⟨"region", .text⟩, ⟨"revenue", .numeric⟩]
    (d.compile v).violations = [] ∧ d.normalize.reselected = d.normalize := by
  intro d v
  have h : (d.compile v).violations = [] := by decide +kernel
  exact ⟨h, (reselected_normalize_iff h).2.2 fun m fs hkpi => nomatch hkpi⟩

/-- the average of the monthly revenue becomes the average of the monthly number of rows -/
theorem not_reselected_normalize_monthlyRevenue :
    let d : Draft :=
      { kind := .kpi,
        composite := some
          { inner := .sum, outer := .avg, valueColumn := some "revenue", timeColumn := "sold_at",
            granularity := .month } }
    let v : View := [⟨"revenue", .numeric⟩, ⟨"sold_at", .temporal⟩]
    (d.compile v).violations = [] ∧ d.normalize.reselected ≠ d.normalize ∧
    d.normalize.description? = some "AVG(SUM(revenue) by month)" ∧
    d.normalize.reselected.description? = some "AVG(COUNT(*) by month)" := by
  decide +kernel

end Draft

end WidgetBoard
