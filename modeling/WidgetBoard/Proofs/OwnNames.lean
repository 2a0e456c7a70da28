import WidgetBoard.Proofs.Questions
import WidgetBoard.Proofs.Reread

/-!
# Columns under their own names

A draft names columns of a view, and the check looks names up as they are in the view.  In between
the names of the draft are trimmed.  So a column that has blanks around its name is not found under
it, unless the view has the trimmed name too.

* `Draft.Mentions d s`     the draft names the column `s` somewhere;
* `Draft.UsesColumns d v`  all that it names are columns of `v`, character for character;
* `Config.consulted`       the columns that the check looks up, in its order;
* `CompileReport.missing`  the columns that a report says are missing.

Main statement: `Draft.missing_compile_iff`.
-/

namespace WidgetBoard

open Text

/-! ## names in drafts -/

/-- the draft names that column; orders and the keys of formats aside -/
inductive Draft.Mentions (d : Draft) : String → Prop
  | metric {m : Metric} {s : String} (hm : m ∈ d.metrics) (hs : s ∈ m.column) : Mentions d s
  | dimension {e : Dimension} (he : e ∈ d.dimensions) : Mentions d e.columnName
  | time {t : TimeAxis} (ht : t ∈ d.time) : Mentions d t.column
  | compositeValue {c : CompositeMetric} {s : String} (hc : c ∈ d.composite)
      (hs : s ∈ c.valueColumn) : Mentions d s
  | compositeTime {c : CompositeMetric} (hc : c ∈ d.composite) : Mentions d c.timeColumn
  | selection {ss : List String} {s : String} (hss : ss ∈ d.columns) (hs : s ∈ ss) : Mentions d s
  | row {rs : List StatementRow} {r : StatementRow} {m : Metric} {s : String} (hrs : rs ∈ d.rows)
      (hr : r ∈ rs) (hm : m ∈ r.metrics) (hs : s ∈ m.column) : Mentions d s
  | filter {f : Filter} (hf : f ∈ d.filters) : Mentions d f.column

/-- a blank text names nothing -/
def Draft.UsesColumns (d : Draft) (v : View) : Prop :=
  ∀ s, d.Mentions s → ¬ IsBlank s → ∃ c ∈ v, c.name = s

/-! ## names that are looked up -/

def Config.consulted (c : Config) : List String :=
  Question.columns c.questions

def CompileReport.missing (r : CompileReport) : List String :=
  r.violations.filterMap Violation.missing?

theorem Draft.missing_compile (d : Draft) (v : View) :
    (d.compile v).missing = d.normalize.consulted.filter fun s => (v.kindOf? s).isNone := by
  show (d.normalize.check v).filterMap Violation.missing? = _
  rw [Config.check_eq_answers, View.missing_answers]
  rfl

theorem View.isNone_kindOf?_iff {v : View} {s : String} :
    (v.kindOf? s).isNone = true ↔ ∀ c ∈ v, c.name ≠ s := by
  simp [kindOf?]

/-! ## questions about cleaned parts -/

namespace Question

theorem mem_columns_metric {m : Metric} {s : String} (h : s ∈ columns m.questions) :
    ∃ t ∈ m.column, nonBlank? t = some s := by
  unfold Metric.questions at h
  split at h
  · next hnone =>
    split at h <;> cases h
  · next t ht =>
    obtain rfl : s = t := List.mem_singleton.1 h
    exact Option.bind_eq_some_iff.1 ht

/-- trimming a metric changes nothing about the columns that are asked for -/
theorem mem_columns_clean {m : Metric} {s : String} (h : s ∈ columns m.clean.questions) :
    ∃ t ∈ m.column, nonBlank? t = some s := by
  obtain ⟨t, ht, hs⟩ := mem_columns_metric h
  obtain ⟨u, hu, hut⟩ := Option.bind_eq_some_iff.1 ht
  have htt : nonBlank? t = some t := nonBlank?_of_eq_some hut
  obtain rfl : t = s := Option.some.inj (htt.symm.trans hs)
  exact ⟨u, hu, hut⟩

theorem mem_columns_cleanMetrics {ms : List Metric} {s : String}
    (h : s ∈ columns ((ms.map Metric.clean).flatMap Metric.questions)) :
    ∃ m ∈ ms, ∃ t ∈ m.column, nonBlank? t = some s := by
  rw [columns_flatMap] at h
  obtain ⟨n, hn, hs⟩ := List.mem_flatMap.1 h
  obtain ⟨m, hm, rfl⟩ := List.mem_map.1 hn
  exact ⟨m, hm, mem_columns_clean hs⟩

theorem columns_composite (c : CompositeMetric) :
    columns [c.question] = (nonBlank? c.timeColumn).toList := by
  unfold CompositeMetric.question
  cases nonBlank? c.timeColumn <;> rfl

theorem columns_time (c : LineConfig) :
    columns [c.timeQuestion] = (c.time.bind fun t => nonBlank? t.column).toList := by
  unfold LineConfig.timeQuestion
  cases c.time.bind fun t => nonBlank? t.column <;> rfl

theorem mem_columns_dimension {kind : WidgetKind} {e : Dimension} {s : String}
    (h : s ∈ columns [e.question kind]) : s = e.columnName := by
  cases e with
  | plain t => exact List.mem_singleton.1 h
  | bucket g t =>
    by_cases hk : kind.allowsBucket = true
    · rw [Dimension.question, if_pos hk] at h
      exact List.mem_singleton.1 h
    · rw [Dimension.question, if_neg hk] at h
      cases h

theorem columns_labels (l : LineLabels) : columns l.questions = [] := by
  simp only [LineLabels.questions, columns_append, columns_ite, columns_nil, columns_settled, ite_self,
    List.append_nil]

theorem columns_text (style : TextStyle) : columns style.questions = [] := by
  simp only [TextStyle.questions, columns_ite, columns_nil, columns_settled, ite_self]

theorem columns_line (c : LineConfig) :
    columns c.questions
      = columns [c.timeQuestion] ++ columns (c.metrics.flatMap Metric.questions) := by
  simp only [LineConfig.questions, columns_append, columns_ite, columns_nil, columns_settled,
    ite_self, columns_labels, List.append_nil]

theorem mem_columns_chart {kind : WidgetKind} {c : ChartConfig} {s : String}
    (h : s ∈ columns (c.questions kind)) :
    (∃ e ∈ c.dimensions, s = e.columnName) ∨ s ∈ columns (c.metrics.flatMap Metric.questions) := by
  simp only [ChartConfig.questions, columns_append, columns_ite, columns_nil, columns_settled,
    ite_self, List.nil_append, List.mem_append] at h
  refine h.imp_left fun h => ?_
  split at h
  · next e he =>
    rw [he]
    exact ⟨e, List.mem_singleton.2 rfl, mem_columns_dimension h⟩
  · cases h

theorem columns_table (c : TableConfig) :
    columns c.questions = c.columns ++ columns (c.metrics.flatMap Metric.questions) := by
  have hselection : columns (c.columns.map (.column · .selection)) = c.columns := by
    rw [columns, List.filterMap_map]
    exact List.filterMap_some
  simp only [TableConfig.questions, columns_append, columns_ite, columns_nil, columns_settled,
    ite_self, List.nil_append, hselection]

theorem columns_row (r : StatementRow) :
    columns r.questions = columns (r.metrics.flatMap Metric.questions) := by
  simp only [StatementRow.questions, columns_append, columns_ite, columns_nil, columns_settled,
    ite_self, List.nil_append]

theorem columns_rows (n : Nat) (rs : List StatementRow) :
    columns (rowQuestions n rs) = rs.flatMap fun r => columns r.questions := by
  induction rs generalizing n with
  | nil => rfl
  | cons r rs ih => rw [rowQuestions, columns_append, columns_inRow, ih, List.flatMap_cons]

theorem mem_columns_statement {c : StatementConfig} {s : String} (h : s ∈ columns c.questions) :
    ∃ r ∈ c.rows, s ∈ columns (r.metrics.flatMap Metric.questions) := by
  simp only [StatementConfig.questions, columns_append, columns_ite, columns_nil, columns_settled,
    ite_self, List.nil_append, columns_rows, columns_row] at h
  split at h
  · cases h
  · exact List.mem_flatMap.1 h

theorem columns_filters (fs : List Filter) :
    columns (fs.map Filter.question) = fs.map (·.column) := by
  rw [columns, List.filterMap_map]
  show fs.filterMap (some ∘ fun f => f.column) = _
  rw [List.filterMap_eq_map]

end Question

/-! ## what is looked up is named in the draft -/

namespace Draft

variable {d : Draft} {s : String}

/-- the draft names a column that is `s` when trimmed -/
def Offers (d : Draft) (s : String) : Prop :=
  ∃ t, d.Mentions t ∧ nonBlank? t = some s

theorem offers_metrics (h : s ∈ Question.columns ((d.metrics.map Metric.clean).flatMap
    Metric.questions)) : d.Offers s := by
  obtain ⟨m, hm, t, ht, hs⟩ := Question.mem_columns_cleanMetrics h
  exact ⟨t, .metric hm ht, hs⟩

theorem mentions_kpiMetric? {m : Metric} {t : String} (hm : m ∈ d.kpiMetric?) (ht : t ∈ m.column) :
    d.Mentions t := by
  unfold kpiMetric? at hm
  cases hms : d.metrics with
  | nil =>
    rw [hms] at hm
    obtain ⟨c, hc, rfl⟩ := Option.map_eq_some_iff.1 hm
    exact .compositeValue hc ht
  | cons n ms =>
    rw [hms] at hm
    obtain rfl : n = m := Option.some.inj hm
    exact .metric (hms ▸ List.mem_cons_self) ht

theorem offers_kpiMetric? {m : Metric} (hm : m ∈ d.kpiMetric?)
    (h : s ∈ Question.columns m.clean.questions) : d.Offers s := by
  obtain ⟨t, ht, hs⟩ := Question.mem_columns_clean h
  exact ⟨t, mentions_kpiMetric? hm ht, hs⟩

theorem offers_measure (h : s ∈ Question.columns d.measure.questions) : d.Offers s := by
  unfold measure at h
  split at h
  · next c hc =>
    -- a composite always has an inner metric, if only its own
    have hsome : d.kpiMetric? = some (d.kpiMetric?.getD c.innerMetric) := by
      rw [kpiMetric?, hc]
      cases d.metrics.head? <;> rfl
    rcases List.mem_append.1 ((Question.columns_append _ _) ▸ h) with h | h
    · exact offers_kpiMetric? hsome h
    · rw [Question.columns_composite, nonBlank?_trim, Option.mem_toList] at h
      exact ⟨c.timeColumn, .compositeTime hc, h⟩
  · cases hm : d.kpiMetric? with
    | none =>
      rw [hm] at h
      cases h
    | some m =>
      rw [hm] at h
      exact offers_kpiMetric? hm h

/-- a line chart counts rows, or measures what the draft does -/
theorem mem_lineMetrics {ms : List Metric} {n : Metric} (h : n ∈ lineMetrics ms) :
    (∃ a, n = Metric.count.onAxis a) ∨ ∃ m ∈ ms, ∃ a, n = m.clean.onAxis a := by
  match ms with
  | [] => exact Or.inl ⟨_, List.mem_singleton.1 h⟩
  | [m] => exact Or.inr ⟨m, List.mem_cons_self, _, List.mem_singleton.1 h⟩
  | m₁ :: m₂ :: ms =>
    right
    rcases List.mem_cons.1 h with h | h
    · exact ⟨m₁, List.mem_cons_self, _, h⟩
    · exact ⟨m₂, List.mem_cons_of_mem _ List.mem_cons_self, _, List.mem_singleton.1 h⟩

theorem offers_line (h : s ∈ Question.columns d.lineConfig.questions) : d.Offers s := by
  rw [Question.columns_line, List.mem_append] at h
  rcases h with h | h
  · rw [Question.columns_time, Option.mem_toList] at h
    obtain ⟨u, hu, hs⟩ := Option.bind_eq_some_iff.1 h
    obtain ⟨t, ht, htu⟩ := Option.bind_eq_some_iff.1 hu
    obtain ⟨column, hcolumn, rfl⟩ := Option.map_eq_some_iff.1 htu
    obtain rfl : column = s := Option.some.inj ((nonBlank?_of_eq_some hcolumn).symm.trans hs)
    exact ⟨t.column, .time ht, hcolumn⟩
  · rw [Question.columns_flatMap] at h
    obtain ⟨n, hn, hs⟩ := List.mem_flatMap.1 h
    rcases mem_lineMetrics hn with ⟨a, rfl⟩ | ⟨m, hm, a, rfl⟩
    · cases hs
    · obtain ⟨t, ht, hs⟩ := Question.mem_columns_clean hs
      exact ⟨t, .metric hm ht, hs⟩

theorem offers_chart {kind : WidgetKind}
    (h : s ∈ Question.columns (d.chartConfig.questions kind)) : d.Offers s := by
  rcases Question.mem_columns_chart h with ⟨e, he, rfl⟩ | h
  · obtain ⟨e', he', hclean⟩ := List.mem_filterMap.1 he
    obtain ⟨column, hcolumn, rfl⟩ := Option.map_eq_some_iff.1 hclean
    have hname : (e'.withColumn column).columnName = column := by cases e' <;> rfl
    rw [hname]
    exact ⟨e'.columnName, .dimension he', hcolumn⟩
  · exact offers_metrics h

theorem offers_table (h : s ∈ Question.columns d.tableConfig.questions) : d.Offers s := by
  rw [Question.columns_table, List.mem_append] at h
  rcases h with h | h
  · obtain ⟨t, ht, hs⟩ := mem_tableColumns.1 h
    cases hss : d.columns with
    | none =>
      rw [hss] at ht
      cases ht
    | some ss =>
      rw [hss] at ht
      exact ⟨t, .selection hss ht, hs⟩
  · exact offers_metrics h

theorem offers_statement (h : s ∈ Question.columns d.statementConfig.questions) : d.Offers s := by
  obtain ⟨r, hr, h⟩ := Question.mem_columns_statement h
  obtain ⟨r', hr', rfl⟩ := List.mem_map.1 hr
  obtain ⟨m, hm, t, ht, hs⟩ := Question.mem_columns_cleanMetrics h
  cases hrs : d.rows with
  | none =>
    rw [hrs] at hr'
    cases hr'
  | some rs =>
    rw [hrs] at hr'
    exact ⟨t, .row hrs hr' hm ht, hs⟩

theorem nonBlank?_of_compile? {f g : Filter} (h : f.compile? = some g) :
    nonBlank? f.column = some g.column := by
  obtain ⟨column, hcolumn, rfl⟩ := Option.map_eq_some_iff.1 h
  split <;> exact hcolumn

/-- the check looks up names of the draft only, trimmed -/
theorem offers_of_mem_consulted (h : s ∈ d.normalize.consulted) : d.Offers s := by
  rw [Config.consulted, Config.questions, Question.columns_append, List.mem_append] at h
  rcases h with h | h
  · unfold normalize at h
    cases hk : d.kind <;> rw [hk] at h
    case kpi => exact offers_measure h
    case line => exact offers_line h
    case bar | column | donut => exact offers_chart h
    case table => exact offers_table h
    case text =>
      rw [Config.bodyQuestions, Question.columns_text] at h
      cases h
    case statement => exact offers_statement h
  · rw [Question.columns_filters] at h
    obtain ⟨g, hg, rfl⟩ := List.mem_map.1 h
    obtain ⟨f, hf, hfg⟩ := Config.exists_of_mem_filters_normalize hg
    exact ⟨f.column, .filter hf, nonBlank?_of_compile? hfg⟩

end Draft

/-! ## reports on drafts that use the columns of a view -/

/-- the names of the columns are there without the blanks around them, too -/
def View.NamesTrimmed (v : View) : Prop :=
  ∀ c ∈ v, ¬ IsBlank c.name → ∃ b ∈ v, b.name = trim c.name

namespace Draft

variable {v : View}

theorem missing_compile_eq_nil_iff {d : Draft} :
    (d.compile v).missing = [] ↔ ∀ s ∈ d.normalize.consulted, ∃ c ∈ v, c.name = s := by
  simp only [missing_compile, List.filter_eq_nil_iff, View.isNone_kindOf?_iff, not_forall,
    not_not, exists_prop]

/-- a table of one column -/
def tableOf (s : String) : Draft :=
  { kind := .table, columns := some [s] }

theorem mentions_tableOf {s t : String} (h : (tableOf s).Mentions t) : t = s := by
  cases h with
  | selection hss hs =>
    obtain rfl := Option.some.inj hss
    exact List.mem_singleton.1 hs
  | metric hm | dimension hm | time hm | compositeValue hm | compositeTime hm | row hm
  | filter hm => cases hm

theorem mem_consulted_tableOf {s : String} (h : ¬ IsBlank s) :
    trim s ∈ (tableOf s).normalize.consulted := by
  have hcolumns : trim s ∈ (tableOf s).tableColumns :=
    mem_tableColumns.2 ⟨s, List.mem_singleton.2 rfl, nonBlank?_of_not_isBlank h⟩
  rw [Config.consulted, Config.questions, Question.columns_append]
  refine List.mem_append_left _ ?_
  show trim s ∈ Question.columns (tableOf s).tableConfig.questions
  rw [Question.columns_table]
  exact List.mem_append_left _ hcolumns

/-- **What is reported as missing**: the columns that the check looks up and that the view does not
have, in order.  Over a view, the drafts that use its columns have no such report exactly when the
view has the name of each of its columns trimmed, too. -/
theorem missing_compile_iff (v : View) :
    (∀ d : Draft, (d.compile v).missing
      = d.normalize.consulted.filter fun s => (v.kindOf? s).isNone) ∧
    (∀ d : Draft, ∀ s ∈ d.normalize.consulted, ∃ t, d.Mentions t ∧ nonBlank? t = some s) ∧
    ((∀ d : Draft, d.UsesColumns v → (d.compile v).missing = []) ↔ v.NamesTrimmed) := by
  refine ⟨fun d => d.missing_compile v, fun d s => offers_of_mem_consulted, ?_, ?_⟩
  · intro h c hc hblank
    -- the table of that column alone uses it, and the check looks for the trimmed name
    have huses : (tableOf c.name).UsesColumns v := by
      intro t ht _
      exact ⟨c, hc, (mentions_tableOf ht).symm⟩
    exact missing_compile_eq_nil_iff.1 (h _ huses) _ (mem_consulted_tableOf hblank)
  · intro htrimmed d huses
    refine missing_compile_eq_nil_iff.2 fun s hs => ?_
    obtain ⟨t, ht, hts⟩ := offers_of_mem_consulted hs
    have hblank : ¬ IsBlank t := not_isBlank_of_nonBlank? hts
    obtain ⟨c, hc, rfl⟩ := huses t ht hblank
    obtain ⟨b, hb, hbs⟩ := htrimmed c hc hblank
    exact ⟨b, hb, hbs.trans (nonBlank?_eq_some_iff.1 hts).1⟩

/-- a column with blanks around its name is taken for its namesake without them -/
theorem missing_compile_iff_namesake :
    let v : View := [⟨"revenue", .numeric⟩, ⟨" revenue ", .numeric⟩]
    let d := tableOf " revenue "
    v.NamesTrimmed ∧ d.UsesColumns v ∧ (d.compile v).missing = [] ∧
    "revenue" ∈ d.normalize.consulted ∧ ∃ t, d.Mentions t ∧ nonBlank? t = some "revenue" := by
  intro v d
  have htrim : ∀ c ∈ v, trim c.name = "revenue" := by decide +kernel
  have hv : v.NamesTrimmed := by
    intro c hc _
    exact ⟨⟨"revenue", .numeric⟩, List.mem_cons_self, (htrim c hc).symm⟩
  have hd : d.UsesColumns v := by
    intro t ht _
    exact ⟨⟨" revenue ", .numeric⟩, by simp [v], (mentions_tableOf ht).symm⟩
  have hconsulted : "revenue" ∈ d.normalize.consulted := by decide +kernel
  obtain ⟨_, hmentions, hiff⟩ := missing_compile_iff v
  exact ⟨hv, hd, hiff.2 hv d hd, hconsulted, hmentions d _ hconsulted⟩

/-- without one, a fresh table over that column cannot be saved -/
theorem not_missing_compile_default_padded :
    let v : View := [⟨" revenue ", .numeric⟩]
    let d := Draft.default .table v
    (v.map (·.name)).Nodup ∧ (∀ c ∈ v, allBlank c.name = false) ∧
    (∀ s, d.Mentions s → ∃ c ∈ v, c.name = s) ∧
    (d.compile v).violations = [.unknownColumn "revenue"] ∧ (d.compile v).missing = ["revenue"] := by
  refine ⟨by decide, by decide +kernel, fun s hs => ?_, by decide +kernel, by decide +kernel⟩
  exact ⟨_, List.mem_singleton.2 rfl, (mentions_tableOf hs).symm⟩

end Draft

end WidgetBoard
