import WidgetBoard.Config.Check
import WidgetBoard.Proofs.Canonical

/-!
# What may be saved

A configuration may be saved when its check lists no violation.  `Config.Savable` says what that
means, kind by kind, in terms of the columns of the view alone:

* `View.Resolves v s k`       the first column of `v` that is named `s` has kind `k`;
* `View.Fine v m`             the metric has a column that fits its aggregation, or counts rows;
* `Config.Savable v c`        all that the kind of `c` asks for, and filters over columns that fit.

`Config.check_eq_nil_iff` shows that the check of a canonical configuration is empty exactly then.
What a draft is normalized to is canonical, so the labels and the number of metrics of a line chart
never give rise to a violation.
-/

namespace WidgetBoard

open Text

/-! ## violations that are listed on a condition -/

theorem ite_nil_singleton_eq_nil_iff {p : Prop} [Decidable p] {x : Violation} :
    (if p then [] else [x]) = [] ↔ p := by
  by_cases h : p <;> simp [h]

theorem ite_singleton_nil_eq_nil_iff {p : Prop} [Decidable p] {x : Violation} :
    (if p then [x] else []) = [] ↔ ¬ p := by
  by_cases h : p <;> simp [h]

namespace View

/-! ## columns -/

/-- the first column of that name has that kind -/
inductive Resolves : View → String → ColumnKind → Prop
  | first (c : Column) (v : View) : Resolves (c :: v) c.name c.kind
  | later {c : Column} {v : View} {s : String} {k : ColumnKind} (h : c.name ≠ s) :
      Resolves v s k → Resolves (c :: v) s k

theorem resolves_iff {v : View} {s : String} {k : ColumnKind} :
    v.Resolves s k ↔ v.kindOf? s = some k := by
  constructor
  · intro h
    induction h with
    | first c v => rw [kindOf?_cons, if_pos rfl]
    | later h _ ih => rw [kindOf?_cons, if_neg h, ih]
  · intro h
    induction v with
    | nil =>
      rw [kindOf?_nil] at h
      cases h
    | cons c v ih =>
      rw [kindOf?_cons] at h
      by_cases hc : c.name = s
      · rw [if_pos hc] at h
        cases h
        exact hc ▸ .first c v
      · rw [if_neg hc] at h
        exact .later hc (ih h)

theorem Resolves.exists_column {v : View} {s : String} {k : ColumnKind} (h : v.Resolves s k) :
    ∃ c ∈ v, c.name = s ∧ c.kind = k := by
  induction h with
  | first c v => exact ⟨c, List.mem_cons_self, rfl, rfl⟩
  | later _ _ ih =>
    obtain ⟨c, hc, h⟩ := ih
    exact ⟨c, List.mem_cons_of_mem _ hc, h⟩

theorem checkTemporal_eq_nil_iff {v : View} {f : String → Violation} {s : String} :
    v.checkTemporal f s = [] ↔ v.Resolves s .temporal := by
  rw [resolves_iff, checkTemporal]
  cases v.kindOf? s with
  | none => simp
  | some k => cases k <;> simp

theorem checkExists_eq_nil_iff {v : View} {s : String} :
    v.checkExists s = [] ↔ ∃ k, v.Resolves s k := by
  simp only [resolves_iff, checkExists]
  cases v.kindOf? s with
  | none => simp
  | some k => simp

/-! ## metrics -/

/-- a column that is there, and numeric if numbers are asked for; only rows are counted without -/
def Fine (v : View) (m : Metric) : Prop :=
  match m.column with
  | some s =>
    ∃ k, v.Resolves s k ∧
      (m.op = .sum ∨ m.op = .avg ∨ m.op = .min ∨ m.op = .max → k = .numeric)
  | none => m.op = .count

theorem requiresNumeric_iff {op : AggOp} :
    op.requiresNumeric = true ↔ op = .sum ∨ op = .avg ∨ op = .min ∨ op = .max := by
  cases op <;> simp [AggOp.requiresNumeric]

theorem requiresColumn_iff {op : AggOp} : op.requiresColumn = false ↔ op = .count := by
  cases op <;> simp [AggOp.requiresColumn]

theorem checkMetric_eq_nil_iff {v : View} {m : Metric} (h : ∀ s ∈ m.column, IsName s) :
    v.checkMetric m = [] ↔ v.Fine m := by
  rw [checkMetric, bind_nonBlank?_eq_self h, Fine]
  cases m.column with
  | none =>
    rw [← requiresColumn_iff]
    cases m.op.requiresColumn <;> simp
  | some s =>
    simp only [resolves_iff, ← requiresNumeric_iff]
    cases v.kindOf? s with
    | none => simp
    | some k => cases m.op.requiresNumeric <;> cases k <;> simp

theorem checkMetrics_eq_nil_iff {v : View} {ms : List Metric} (h : ∀ m ∈ ms, m.HasNames) :
    v.checkMetrics ms = [] ↔ ∀ m ∈ ms, v.Fine m := by
  rw [checkMetrics, List.flatMap_eq_nil_iff]
  exact forall₂_congr fun m hm => checkMetric_eq_nil_iff (h m hm).1

/-! ## what each kind asks for -/

/-- a composite needs a column of time besides its inner metric -/
def SavableMeasure (v : View) : KpiMeasure → Prop
  | .single m => v.Fine m
  | .composite c =>
    v.Fine c.innerMetric ∧ c.timeColumn ≠ "" ∧ v.Resolves c.timeColumn .temporal

def SavableLine (v : View) (c : LineConfig) : Prop :=
  (∃ t, c.time = some t ∧ v.Resolves t.column .temporal) ∧ ∀ m ∈ c.metrics, v.Fine m

/-- a column to group by; buckets of time are not for donuts -/
def Groups (v : View) (kind : WidgetKind) : Dimension → Prop
  | .plain s => v.Resolves s .text ∨ v.Resolves s .boolean
  | .bucket _ s => (kind = .bar ∨ kind = .column) ∧ v.Resolves s .temporal

def SavableChart (v : View) (kind : WidgetKind) (c : ChartConfig) : Prop :=
  ∃ d m, c.dimensions = [d] ∧ c.metrics = [m] ∧ v.Groups kind d ∧ v.Fine m

def SavableTable (v : View) (c : TableConfig) : Prop :=
  c.columns ≠ [] ∧ (∀ s ∈ c.columns, ∃ k, v.Resolves s k) ∧ ∀ m ∈ c.metrics, v.Fine m

structure SavableRow (v : View) (r : StatementRow) : Prop where
  title : ¬ IsBlank r.title
  metrics : r.metrics ≠ []
  fine : ∀ m ∈ r.metrics, v.Fine m

def SavableStatement (v : View) (c : StatementConfig) : Prop :=
  c.rows ≠ [] ∧ (∃ r ∈ c.rows, r.rowType = .result) ∧ ∀ r ∈ c.rows, v.SavableRow r

/-- the column is there, no period is left to be named, and a window is one of time -/
def SavableFilter (v : View) (f : Filter) : Prop :=
  ∃ k, v.Resolves f.column k ∧ f.op ≠ .relative ∧
    ∀ p, f.value = some (.window p) → k = .temporal

end View

/-- all that the kind asks for, filters left aside -/
def Config.SavableBody (v : View) : Config → Prop
  | .kpi c => v.SavableMeasure c.measure
  | .line c => v.SavableLine c
  | .bar c => v.SavableChart .bar c
  | .column c => v.SavableChart .column c
  | .donut c => v.SavableChart .donut c
  | .table c => v.SavableTable c
  | .text style => ¬ IsBlank style.content
  | .statement c => v.SavableStatement c

def Config.Savable (v : View) (c : Config) : Prop :=
  c.SavableBody v ∧ ∀ f ∈ c.filters, v.SavableFilter f

/-! ## the check of each part -/

namespace View

variable {v : View}

theorem checkKpi_eq_nil_iff {c : KpiConfig} (h : c.IsCanonical) :
    v.checkKpi c = [] ↔ v.SavableMeasure c.measure := by
  obtain ⟨measure, filters⟩ := c
  rw [checkKpi, List.append_eq_nil_iff]
  cases measure with
  | single m =>
    have hm : m.IsCanonical := h.measure
    exact (and_iff_left rfl).trans (checkMetric_eq_nil_iff hm.1.1)
  | composite c =>
    have hc : c.IsCanonical := h.measure
    refine and_congr (checkMetric_eq_nil_iff hc.valueColumn) ?_
    simp only [checkComposite, hc.timeColumn.nonBlank?]
    by_cases he : c.timeColumn = ""
    · simp [he]
    · rw [if_neg he]
      exact checkTemporal_eq_nil_iff.trans (and_iff_right he).symm

theorem checkLabels_eq_nil {l : LineLabels} (h : l.IsCanonical) : checkLabels l = [] := by
  obtain ⟨hs, hw, hg⟩ := h
  simp only [checkLabels, List.append_eq_nil_iff, ite_nil_singleton_eq_nil_iff]
  exact ⟨⟨hs, Or.inl hw⟩, by rw [hg]; decide⟩

theorem hasNames_of_lineCanonical {ms : List Metric} (h : Metric.LineCanonical ms) :
    (ms.length = 1 ∨ ms.length = 2) ∧ ∀ m ∈ ms, m.HasNames := by
  match ms, h with
  | [m], ⟨hm, _⟩ => exact ⟨Or.inl rfl, by simpa using hm⟩
  | [m, n], ⟨⟨hm, _⟩, hn, _⟩ => exact ⟨Or.inr rfl, by simpa using ⟨hm, hn⟩⟩

theorem checkLine_eq_nil_iff {c : LineConfig} (h : c.IsCanonical) :
    v.checkLine c = [] ↔ v.SavableLine c := by
  obtain ⟨hlen, hnames⟩ := hasNames_of_lineCanonical h.metrics
  have ht : v.checkLineTime c.time = [] ↔
      ∃ t, c.time = some t ∧ v.Resolves t.column .temporal := by
    rw [checkLineTime]
    cases e : c.time with
    | none => simp
    | some t =>
      rw [Option.bind_some, nonBlank?_self_iff.2 (h.time t e)]
      simp [checkTemporal_eq_nil_iff]
  rw [checkLine, if_pos hlen, checkLabels_eq_nil h.labels, List.append_nil, List.append_nil,
    List.append_eq_nil_iff, ht, checkMetrics_eq_nil_iff hnames]
  rfl

theorem checkDimension_eq_nil_iff {kind : WidgetKind} {d : Dimension} :
    v.checkDimension kind d = [] ↔ v.Groups kind d := by
  cases d with
  | plain s =>
    simp only [checkDimension, Groups, resolves_iff]
    cases v.kindOf? s with
    | none => simp
    | some k => cases k <;> simp [ColumnKind.isCategorical]
  | bucket g s =>
    rw [checkDimension, Groups, ← checkTemporal_eq_nil_iff (f := .bucketNotTemporal)]
    cases kind <;> simp [WidgetKind.allowsBucket]

theorem checkChart_eq_nil_iff {kind : WidgetKind} {c : ChartConfig} (h : c.IsCanonical) :
    v.checkChart kind c = [] ↔ v.SavableChart kind c := by
  have hm : v.checkMetrics c.metrics = [] ↔ ∀ m ∈ c.metrics, v.Fine m :=
    checkMetrics_eq_nil_iff fun m hm => (h.metrics m hm).1
  simp only [checkChart, List.append_eq_nil_iff, hm, ite_nil_singleton_eq_nil_iff]
  constructor
  · rintro ⟨⟨⟨hd, hl⟩, hdim⟩, hfine⟩
    obtain ⟨d, hd⟩ := List.length_eq_one_iff.1 hd
    obtain ⟨m, hl⟩ := List.length_eq_one_iff.1 hl
    rw [hd] at hdim
    exact ⟨d, m, hd, hl, checkDimension_eq_nil_iff.1 hdim, hfine m (by simp [hl])⟩
  · rintro ⟨d, m, hd, hl, hgroups, hfine⟩
    rw [hd, hl]
    exact ⟨⟨⟨rfl, rfl⟩, checkDimension_eq_nil_iff.2 hgroups⟩, by simpa using hfine⟩

theorem checkTable_eq_nil_iff {c : TableConfig} (h : c.IsCanonical) :
    v.checkTable c = [] ↔ v.SavableTable c := by
  have hm : v.checkMetrics c.metrics = [] ↔ ∀ m ∈ c.metrics, v.Fine m :=
    checkMetrics_eq_nil_iff fun m hm => (h.metrics m hm).1
  simp only [checkTable, SavableTable, List.append_eq_nil_iff, hm, List.flatMap_eq_nil_iff,
    checkExists_eq_nil_iff, and_assoc]
  rw [ite_singleton_nil_eq_nil_iff, List.isEmpty_iff]

theorem checkText_eq_nil_iff {style : TextStyle} :
    checkText style = [] ↔ ¬ IsBlank style.content := by
  rw [checkText, ite_singleton_nil_eq_nil_iff, allBlank_iff]

theorem checkRow_eq_nil_iff {r : StatementRow} (h : r.IsCanonical) :
    v.checkRow r = [] ↔ v.SavableRow r := by
  have hm : v.checkMetrics r.metrics = [] ↔ ∀ m ∈ r.metrics, v.Fine m :=
    checkMetrics_eq_nil_iff fun m hm => (h.metrics m hm).1
  rw [checkRow, List.append_eq_nil_iff, List.append_eq_nil_iff, hm, ite_singleton_nil_eq_nil_iff,
    ite_singleton_nil_eq_nil_iff, allBlank_iff, List.isEmpty_iff]
  exact ⟨fun ⟨⟨h1, h2⟩, h3⟩ => ⟨h1, h2, h3⟩, fun ⟨h1, h2, h3⟩ => ⟨⟨h1, h2⟩, h3⟩⟩

theorem checkRows_eq_nil_iff {n : Nat} {rs : List StatementRow} :
    v.checkRows n rs = [] ↔ ∀ r ∈ rs, v.checkRow r = [] := by
  induction rs generalizing n with
  | nil => simp [checkRows]
  | cons r rs ih =>
    rw [checkRows, List.append_eq_nil_iff, List.map_eq_nil_iff, ih, List.forall_mem_cons]

theorem checkStatement_eq_nil_iff {c : StatementConfig} (h : c.IsCanonical) :
    v.checkStatement c = [] ↔ v.SavableStatement c := by
  have hrows : v.checkRows 1 c.rows = [] ↔ ∀ r ∈ c.rows, v.SavableRow r := by
    rw [checkRows_eq_nil_iff]
    exact forall₂_congr fun r hr => checkRow_eq_nil_iff (h.rows r hr)
  have hany : c.rows.any (·.isResult) = true ↔ ∃ r ∈ c.rows, r.rowType = .result := by
    simp only [List.any_eq_true, StatementRow.isResult_iff]
  rw [checkStatement, SavableStatement, ← hrows, ← hany]
  by_cases he : c.rows = []
  · simp [he]
  · rw [if_neg (by simpa using he), List.append_eq_nil_iff, ite_nil_singleton_eq_nil_iff]
    exact (and_iff_right he).symm

theorem checkFilter_eq_nil_iff {f : Filter} : v.checkFilter f = [] ↔ v.SavableFilter f := by
  have hw : f.isWindow = true ↔ ∃ p, f.value = some (.window p) := by
    unfold Filter.isWindow
    split
    · next p hp => simp [hp]
    · next hno => simpa using hno
  simp only [checkFilter, SavableFilter, resolves_iff]
  cases v.kindOf? f.column with
  | none => simp
  | some k =>
    by_cases hr : f.op = .relative
    · simp [hr]
    · have hk : (∀ p, f.value = some (.window p) → k = .temporal) ↔
          (f.isWindow = true → k = .temporal) := by
        rw [hw, forall_exists_index]
      simp only [hr, if_false, ne_eq, not_false_eq_true, true_and, Option.some.injEq, exists_eq_left',
        hk]
      cases f.isWindow <;> cases k <;> simp

theorem checkFilters_eq_nil_iff {fs : List Filter} :
    v.checkFilters fs = [] ↔ ∀ f ∈ fs, v.SavableFilter f := by
  rw [checkFilters, List.flatMap_eq_nil_iff]
  exact forall₂_congr fun f _ => checkFilter_eq_nil_iff

end View

/-! ## the check of a configuration -/

theorem Config.checkBody_eq_nil_iff {v : View} {c : Config} (h : c.IsCanonical) :
    c.checkBody v = [] ↔ c.SavableBody v := by
  cases c with
  | kpi c => exact View.checkKpi_eq_nil_iff h
  | line c => exact View.checkLine_eq_nil_iff h
  | bar c => exact View.checkChart_eq_nil_iff h
  | column c => exact View.checkChart_eq_nil_iff h
  | donut c => exact View.checkChart_eq_nil_iff h
  | table c => exact View.checkTable_eq_nil_iff h
  | text style => exact View.checkText_eq_nil_iff
  | statement c => exact View.checkStatement_eq_nil_iff h

/-- the check of a canonical configuration is empty exactly when it may be saved -/
theorem Config.check_eq_nil_iff {v : View} {c : Config} (h : c.IsCanonical) :
    c.check v = [] ↔ c.Savable v := by
  rw [check, List.append_eq_nil_iff, checkBody_eq_nil_iff h, View.checkFilters_eq_nil_iff]
  rfl

/-- **The check accepts exactly what may be saved**, for every draft and every view. -/
theorem Draft.check_normalize_eq_nil_iff (d : Draft) (v : View) :
    d.normalize.check v = [] ↔ d.normalize.Savable v :=
  Config.check_eq_nil_iff (Config.isCanonical_normalize d)

end WidgetBoard
