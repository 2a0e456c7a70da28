import WidgetBoard.Proofs.Reread
import WidgetBoard.Proofs.Savable

/-!
# The columns that a configuration names

A configuration names columns in six places.  A report without a violation vouches for the names in
all of them but two: what the results are ordered by, and what a table groups by.  The check does
not look at those.

* `Config.Place`, `Config.named`   the places, and the names of columns that stand there;
* `Config.Vouched`                 the places that the check looks at.

Main statement: `Draft.exists_column_of_mem_named`.
-/

namespace WidgetBoard

/-- an order by a metric names no column -/
def OrderTarget.column? : OrderTarget → Option String
  | .column name => some name
  | .metric _ => none

namespace Config

/-! ## places and names -/

/-- those of the rows of a statement and the inner metric of a composite are among them -/
def metrics : Config → List Metric
  | .kpi c => [c.measure.metric]
  | .line c => c.metrics
  | .bar c | .column c | .donut c => c.metrics
  | .table c => c.metrics
  | .text _ => []
  | .statement c => c.rows.flatMap (·.metrics)

/-- of a composite or of a line chart -/
def timeColumns : Config → List String
  | .kpi ⟨.composite c, _⟩ => [c.timeColumn]
  | .line c => c.time.toList.map (·.column)
  | .kpi ⟨.single _, _⟩ | .bar _ | .column _ | .donut _ | .table _ | .text _ | .statement _ => []

/-- the columns of a table -/
def selection : Config → List String
  | .table c => c.columns
  | .kpi _ | .line _ | .bar _ | .column _ | .donut _ | .text _ | .statement _ => []

def orders : Config → List OrderBy
  | .line c => c.orderBy
  | .bar c | .column c | .donut c => c.orderBy
  | .table c => c.orderBy
  | .kpi _ | .text _ | .statement _ => []

inductive Place where
  | metric
  | time
  | dimension
  | selection
  | filter
  | order
  deriving DecidableEq, Repr

/-- the names of columns that stand in a place -/
def named (c : Config) : Place → List String
  | .metric => c.metrics.filterMap (·.column)
  | .time => c.timeColumns
  | .dimension => c.dimensions.map (·.columnName)
  | .selection => c.selection
  | .filter => c.filters.map (·.column)
  | .order => c.orders.filterMap fun o => o.target.column?

/-- the dimensions of a table and all orders are taken as they are -/
def Vouched (c : Config) : Place → Prop
  | .dimension => c.kind ≠ .table
  | .order => False
  | .metric | .time | .selection | .filter => True

end Config

/-! ## names that resolve -/

namespace View

variable {v : View}

theorem Resolves.exists_mem {s : String} {k : ColumnKind} (h : v.Resolves s k) :
    ∃ x ∈ v, x.name = s := by
  obtain ⟨x, hx, hs, _⟩ := h.exists_column
  exact ⟨x, hx, hs⟩

theorem Fine.resolves {m : Metric} {s : String} (h : v.Fine m) (hs : m.column = some s) :
    ∃ k, v.Resolves s k := by
  rw [Fine, hs] at h
  obtain ⟨k, hk, _⟩ := h
  exact ⟨k, hk⟩

theorem Groups.resolves {kind : WidgetKind} {e : Dimension} (h : v.Groups kind e) :
    ∃ k, v.Resolves e.columnName k := by
  cases e with
  | plain s =>
    rcases h with h | h
    · exact ⟨_, h⟩
    · exact ⟨_, h⟩
  | bucket g s => exact ⟨_, h.2⟩

theorem SavableMeasure.fine {m : KpiMeasure} (h : v.SavableMeasure m) : v.Fine m.metric := by
  cases m with
  | single m => exact h
  | composite c => exact h.1

theorem SavableChart.groups {kind : WidgetKind} {c : ChartConfig} (h : v.SavableChart kind c) :
    ∀ e ∈ c.dimensions, v.Groups kind e := by
  obtain ⟨d, m, hd, _, hgroups, _⟩ := h
  rw [hd]
  simpa using hgroups

theorem SavableChart.fine {kind : WidgetKind} {c : ChartConfig} (h : v.SavableChart kind c) :
    ∀ m ∈ c.metrics, v.Fine m := by
  obtain ⟨d, m, _, hm, _, hfine⟩ := h
  rw [hm]
  simpa using hfine

end View

/-! ## place by place -/

namespace Config

variable {c : Config} {v : View}

theorem SavableBody.fine (h : c.SavableBody v) : ∀ m ∈ c.metrics, v.Fine m := by
  cases c with
  | kpi c =>
    intro m hm
    obtain rfl : m = c.measure.metric := List.mem_singleton.1 hm
    exact View.SavableMeasure.fine h
  | line c => exact h.2
  | bar c | column c | donut c => exact View.SavableChart.fine h
  | table c => exact h.2.2
  | text style => exact fun m hm => nomatch hm
  | statement c =>
    intro m hm
    obtain ⟨r, hr, hm⟩ := List.mem_flatMap.1 hm
    exact (h.2.2 r hr).fine m hm

theorem SavableBody.timeColumns (h : c.SavableBody v) :
    ∀ s ∈ c.timeColumns, v.Resolves s .temporal := by
  cases c with
  | kpi c =>
    obtain ⟨_ | _, _⟩ := c
    · exact fun s hs => nomatch hs
    · simpa [Config.timeColumns] using h.2.2
  | line c =>
    obtain ⟨⟨t, ht, hr⟩, _⟩ := h
    simpa [Config.timeColumns, ht] using hr
  | bar | column | donut | table | text | statement => exact fun s hs => nomatch hs

theorem SavableBody.dimensions (h : c.SavableBody v) (hk : c.kind ≠ .table) :
    ∀ e ∈ c.dimensions, ∃ k, v.Resolves e.columnName k := by
  cases c with
  | bar c | column c | donut c => exact fun e he => (View.SavableChart.groups h e he).resolves
  | table c => exact absurd rfl hk
  | kpi | line | text | statement => exact fun e he => nomatch he

theorem SavableBody.selection (h : c.SavableBody v) :
    ∀ s ∈ c.selection, ∃ k, v.Resolves s k := by
  cases c with
  | table c => exact h.2.1
  | kpi | line | bar | column | donut | text | statement => exact fun s hs => nomatch hs

/-- what may be saved names columns of the view wherever the check looks -/
theorem Savable.resolves (h : c.Savable v) {p : Place} (hp : c.Vouched p) :
    ∀ s ∈ c.named p, ∃ k, v.Resolves s k := by
  obtain ⟨hbody, hfilters⟩ := h
  intro s hs
  cases p with
  | metric =>
    obtain ⟨m, hm, hs⟩ := List.mem_filterMap.1 hs
    exact (hbody.fine m hm).resolves hs
  | time => exact ⟨_, hbody.timeColumns s hs⟩
  | dimension =>
    obtain ⟨e, he, rfl⟩ := List.mem_map.1 hs
    exact hbody.dimensions hp e he
  | selection => exact hbody.selection s hs
  | filter =>
    obtain ⟨f, hf, rfl⟩ := List.mem_map.1 hs
    obtain ⟨k, hk, _⟩ := hfilters f hf
    exact ⟨k, hk⟩
  | order => exact hp.elim

end Config

/-! ## reports -/

namespace Draft

/-- **A report without a violation vouches for names**: in every place that the check looks at, the
configuration of the report names columns of the view. -/
theorem exists_column_of_mem_named {d : Draft} {v : View} (h : (d.compile v).violations = []) :
    ∀ p, (d.compile v).config.Vouched p → ∀ s ∈ (d.compile v).config.named p,
      ∃ x ∈ v, x.name = s := by
  have hs : d.normalize.Savable v :=
    (Config.check_eq_nil_iff (Config.isCanonical_normalize d)).1 h
  intro p hp s hm
  obtain ⟨k, hk⟩ := hs.resolves hp s hm
  exact hk.exists_mem

/-- the amounts of a region, on average by day -/
def regionalAverage : Draft :=
  { kind := .kpi, metrics := [{ op := .sum, column := some " amount " }],
    composite := some { inner := .sum, outer := .avg, timeColumn := "sold_at" },
    filters := [{ column := "region", op := .notNull }] }

theorem exists_column_of_mem_named_regionalAverage :
    let v : View := [⟨"amount", .numeric⟩, ⟨"sold_at", .temporal⟩, ⟨"region", .text⟩]
    (regionalAverage.compile v).violations = [] ∧
    ((regionalAverage.compile v).config.named .metric,
      (regionalAverage.compile v).config.named .time,
      (regionalAverage.compile v).config.named .filter) = (["amount"], ["sold_at"], ["region"]) ∧
    ∃ x ∈ v, x.name = "sold_at" := by
  intro v
  have h : (regionalAverage.compile v).violations = [] := by decide +kernel
  have hn : (regionalAverage.compile v).config.named .time = ["sold_at"] := by decide +kernel
  refine ⟨h, by decide +kernel, exists_column_of_mem_named h .time trivial _ ?_⟩
  rw [hn]
  exact List.mem_singleton.2 rfl

/-- of a table, neither what it groups by nor what it is ordered by has to be there -/
theorem not_exists_column_of_mem_named_table :
    let v : View := [⟨"region", .text⟩]
    let d : Draft :=
      { kind := .table, columns := some ["region"], dimensions := [.plain "nope"],
        orderBy := [{ column := some "gone" }] }
    (d.compile v).violations = [] ∧
    (d.compile v).config.named .dimension = ["nope"] ∧
    (d.compile v).config.named .order = ["gone"] ∧
    ∀ x ∈ v, x.name ≠ "nope" ∧ x.name ≠ "gone" := by
  decide +kernel

end Draft

end WidgetBoard
