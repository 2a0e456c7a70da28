import Mathlib.Logic.Relation
import WidgetBoard.Proofs.Reread
import WidgetBoard.Proofs.Retyping

/-!
# The one metric of a KPI

A KPI shows one metric, and four look for it: the editor in the draft, the compiler in the draft,
the check and the description in the configuration.  A draft may hold several metrics and a
composite with an inner side of its own; a configuration holds either one metric or a composite.

* `Draft.shownMetric`     the metric of a KPI draft: the picked one, or one that counts rows;
* `KpiMeasure.clean`      what the draft of a KPI is compiled to when it comes from a configuration;
* `Config.Reloads`        one time around: a configuration is edited as a draft and compiled again,
                          or is stored in its written form and read again;
* `Config.Sees c m`       in the configuration `c` the editor, the check and the description look at
                          the metric `m`;
* `Draft.Shows d c`       it is the one that the draft `d` shows, and it is written as one measure.

Main statement: `Draft.shows_of_reloads` (they agree after any number of times around).
-/

namespace WidgetBoard

open Text

/-! ## what a draft is compiled to -/

/-- names are trimmed, as in the draft of the configuration -/
def KpiMeasure.clean : KpiMeasure → KpiMeasure
  | .single m => .single m.clean
  | .composite c =>
    .composite
      { c with valueColumn := c.valueColumn.bind nonBlank?, timeColumn := trim c.timeColumn }

namespace Draft

/-- the picked metric, or one that counts rows -/
def shownMetric (d : Draft) : Metric :=
  d.kpiMetric?.getD Metric.count

variable {d : Draft}

theorem measure_of_none (h : d.composite = none) : d.measure = .single d.shownMetric.clean := by
  rw [measure, h, shownMetric]
  cases d.kpiMetric? <;> rfl

/-- the shown metric drives the inner side of a composite -/
theorem measure_of_some {c : CompositeMetric} (h : d.composite = some c) :
    d.measure = .composite
      { inner := d.shownMetric.op, outer := c.outer,
        valueColumn := d.shownMetric.column.bind nonBlank?, timeColumn := trim c.timeColumn,
        granularity := c.granularity } := by
  have hshown : d.kpiMetric? = some d.shownMetric := by
    rw [shownMetric, kpiMetric?, h]
    cases d.metrics.head? <;> rfl
  rw [measure, h, hshown]
  rfl

theorem normalize_of_kpi (h : d.kind = .kpi) :
    d.normalize = .kpi ⟨d.measure, Filter.compile d.filters⟩ := by
  rw [normalize, h]

/-- the editor sees the metric of a configuration, whether it is clean or not -/
theorem kpiMetric?_ofConfig (c : KpiConfig) :
    (ofConfig (.kpi c)).kpiMetric? = some c.measure.metric := by
  obtain ⟨_ | _, _⟩ := c <;> rfl

theorem measure_ofConfig_eq_clean (c : KpiConfig) :
    (ofConfig (.kpi c)).measure = c.measure.clean := by
  obtain ⟨_ | _, _⟩ := c <;> rfl

end Draft

theorem KpiMeasure.clean_eq_self {measure : KpiMeasure} (h : measure.IsCanonical) :
    measure.clean = measure := by
  rw [← Draft.measure_ofConfig_eq_clean ⟨measure, []⟩, Draft.measure_ofConfig h]

theorem KpiMeasure.clean_clean (measure : KpiMeasure) : measure.clean.clean = measure.clean := by
  refine clean_eq_self ?_
  rw [← Draft.measure_ofConfig_eq_clean ⟨measure, []⟩]
  exact Draft.isCanonical_measure _

/-! ## around and around -/

/-- the metrics and the composite are read back whatever the other members are read as -/
theorem Draft.of_reader_toJson {d e : Draft} (h : reader d.toJson = .ok e) :
    e.kind = d.kind ∧ e.metrics = d.metrics ∧ e.composite = d.composite := by
  have h := Members.build_of_record (of_decide_eq_true rfl) h
  -- eight optional members stand behind the composite, four others between it and the metrics
  iterate 8 obtain ⟨_, _, rfl, h, -⟩ := Members.build_optional h
  obtain ⟨_, rfl, hc⟩ := Members.build_optional_reads (by rfl) CompositeMetric.reads h
  obtain ⟨_, _, rfl, hc, -⟩ := Members.build_optional hc
  iterate 3 obtain ⟨_, _, rfl, hc, -⟩ := Members.build_withDefault hc
  obtain ⟨_, rfl, hm⟩ :=
    Members.build_reads (by rfl) (Reader.reads_list_self Metric.reads d.metrics) hc
  obtain ⟨_, rfl, hk⟩ := Members.build_reads (by rfl) (WidgetKind.reads d.kind) hm
  cases hk
  exact ⟨rfl, rfl, rfl⟩

namespace Config

/-- one time around -/
inductive Reloads : Config → Config → Prop
  | edited (c : Config) : Reloads c (Draft.ofConfig c).normalize
  | stored {c e : Config} : reader c.toJson = .ok e → Reloads c e

theorem Reloads.exists_eq {c : KpiConfig} {e : Config} (h : Reloads (.kpi c) e) :
    ∃ fs, e = .kpi ⟨c.measure.clean, fs⟩ := by
  cases h with
  | edited =>
    rw [Draft.normalize_of_kpi (Draft.kind_ofConfig _), Draft.measure_ofConfig_eq_clean]
    exact ⟨_, rfl⟩
  | stored h =>
    obtain ⟨d, hd, rfl⟩ := except_map_eq_ok_iff.1 h
    obtain ⟨hkind, hmetrics, hcomposite⟩ := Draft.of_reader_toJson hd
    rw [Draft.normalize_of_kpi (hkind.trans (Draft.kind_ofConfig _)),
      Draft.measure_congr hcomposite (congrArg _ hmetrics), Draft.measure_ofConfig_eq_clean]
    exact ⟨_, rfl⟩

/-- the measure is cleaned the first time and stays so -/
theorem exists_eq_of_reloads {c : KpiConfig} {e : Config}
    (h : Relation.ReflTransGen Reloads (.kpi c) e) :
    ∃ k : KpiConfig, e = .kpi k ∧ (k.measure = c.measure ∨ k.measure = c.measure.clean) := by
  induction h with
  | refl => exact ⟨c, rfl, Or.inl rfl⟩
  | tail _ hstep ih =>
    obtain ⟨k, rfl, hk⟩ := ih
    obtain ⟨fs, rfl⟩ := hstep.exists_eq
    refine ⟨_, rfl, Or.inr ?_⟩
    rcases hk with hk | hk
    · rw [hk]
    · rw [hk, KpiMeasure.clean_clean]

end Config

/-! ## what is seen -/

namespace Metric

/-- such as `AVG(SUM(revenue) by month)`, with `*` when no column is given -/
def describePer (m : Metric) (outer : AggOp) (granularity : TimeGranularity) : String :=
  outer.label ++ "(" ++ m.op.label ++ "(" ++ m.column.getD "*" ++ ") by " ++ granularity.name
    ++ ")"

/-- the same aggregation of the same column, blanks around its name aside -/
def Matches (m n : Metric) : Prop :=
  m.op = n.op ∧ m.column.bind nonBlank? = n.column.bind nonBlank?

theorem Matches.checkMetric {m n : Metric} (h : m.Matches n) (v : View) :
    v.checkMetric m = v.checkMetric n := by
  rw [View.checkMetric, h.1, h.2, View.checkMetric]

end Metric

theorem bind_bind_nonBlank? (column : Option String) :
    (column.bind nonBlank?).bind nonBlank? = column.bind nonBlank? :=
  bind_nonBlank?_eq_self fun _ h => isName_of_mem_bind h

theorem KpiMeasure.matches_clean (measure : KpiMeasure) :
    measure.clean.metric.Matches measure.metric := by
  cases measure with
  | single m => exact ⟨rfl, bind_bind_nonBlank? m.column⟩
  | composite c => exact ⟨rfl, bind_bind_nonBlank? c.valueColumn⟩

namespace Config

def composite? : Config → Option CompositeMetric
  | .kpi ⟨.composite c, _⟩ => some c
  | _ => none

/-- the editor, the check and the description look at one metric -/
structure Sees (c : Config) (m : Metric) : Prop where
  shown : c.effectiveMetric? = some m
  edited : (Draft.ofConfig c).kpiMetric? = some m
  described : c.description? = c.composite?.map fun x => m.describePer x.outer x.granularity
  checked : ∀ v : View,
    c.checkBody v = v.checkMetric m ++ (c.composite?.map v.checkComposite).getD []

theorem sees_metric (c : KpiConfig) : (Config.kpi c).Sees c.measure.metric where
  shown := rfl
  edited := Draft.kpiMetric?_ofConfig c
  described := by obtain ⟨_ | _, _⟩ := c <;> rfl
  checked v := by obtain ⟨_ | _, _⟩ := c <;> rfl

end Config

namespace Draft

/-- a written draft has one metric or a composite, never both and never neither -/
def IsOneMeasure (j : Json) : Prop :=
  ∃ ms, j = .obj ms ∧
    ((∃ m : Metric, ms.lookup "metrics" = some (.arr [m.toJson]) ∧
        ms.lookup "composite_metric" = none) ∨
      (∃ x : CompositeMetric, ms.lookup "metrics" = some (.arr []) ∧
        ms.lookup "composite_metric" = some x.toJson))

theorem exists_toJson_eq (d : Draft) :
    ∃ ms, d.toJson = .obj ms ∧ ms.lookup "metrics" = some (.arr (d.metrics.map Metric.toJson)) ∧
      ms.lookup "composite_metric" = d.composite.map CompositeMetric.toJson := by
  refine ⟨_, rfl, ?_, ?_⟩
  · exact Members.lookup_present (of_decide_eq_true rfl) _
  · exact Members.lookup_present (of_decide_eq_true rfl) _

theorem isOneMeasure_toJson (c : KpiConfig) : IsOneMeasure (Config.kpi c).toJson := by
  obtain ⟨ms, hms, hmetrics, hcomposite⟩ := exists_toJson_eq (ofConfig (.kpi c))
  refine ⟨ms, hms, ?_⟩
  obtain ⟨m | x, fs⟩ := c
  · exact Or.inl ⟨m, hmetrics, hcomposite⟩
  · exact Or.inr ⟨x, hmetrics, hcomposite⟩

/-- what is seen in the configuration `c` is what the KPI draft `d` shows -/
structure Shows (d : Draft) (c : Config) : Prop where
  metric : ∃ m, c.Sees m ∧ m.op = d.shownMetric.op ∧
    m.column = d.shownMetric.column.bind nonBlank?
  composite : c.composite?.map (fun x => (x.outer, x.granularity))
    = d.composite.map fun y => (y.outer, y.granularity)
  written : IsOneMeasure c.toJson

theorem shows_measure (d : Draft) (fs : List Filter) : d.Shows (.kpi ⟨d.measure, fs⟩) := by
  have hsees := Config.sees_metric ⟨d.measure, fs⟩
  have hwritten := isOneMeasure_toJson ⟨d.measure, fs⟩
  cases h : d.composite with
  | none =>
    rw [measure_of_none h] at hsees hwritten ⊢
    exact ⟨⟨_, hsees, rfl, rfl⟩, by rw [h]; rfl, hwritten⟩
  | some c =>
    rw [measure_of_some h] at hsees hwritten ⊢
    exact ⟨⟨_, hsees, rfl, rfl⟩, by rw [h]; rfl, hwritten⟩

/-- **All that look for the one metric of a KPI find the same**, after any number of times around:
of a configuration that was compiled from a draft they see the metric of the draft, and of any other
the metric it came with. -/
theorem shows_of_reloads :
    (∀ d : Draft, d.kind = .kpi → ∀ c, Relation.ReflTransGen Config.Reloads d.normalize c →
      d.Shows c) ∧
    (∀ (k : KpiConfig) (c : Config), Relation.ReflTransGen Config.Reloads (.kpi k) c →
      ∃ m, c.Sees m ∧ m.Matches k.measure.metric ∧
        ∀ v : View, v.checkMetric m = v.checkMetric k.measure.metric) := by
  refine ⟨fun d hd c h => ?_, fun k c h => ?_⟩
  · rw [normalize_of_kpi hd] at h
    obtain ⟨⟨measure, fs⟩, rfl, hk⟩ := Config.exists_eq_of_reloads h
    have hmeasure : measure = d.measure := by
      rw [KpiMeasure.clean_eq_self (isCanonical_measure d), or_self] at hk
      exact hk
    rw [hmeasure]
    exact shows_measure d fs
  · obtain ⟨e, rfl, he⟩ := Config.exists_eq_of_reloads h
    have hmatches : e.measure.metric.Matches k.measure.metric := by
      rcases he with he | he
      · rw [he]
        exact ⟨rfl, rfl⟩
      · rw [he]
        exact k.measure.matches_clean
    exact ⟨_, Config.sees_metric e, hmatches, hmatches.checkMetric⟩

theorem shows_of_reloads_revenuePerMonth :
    let d : Draft :=
      { kind := .kpi, metrics := [{ op := .sum, column := some " revenue " }],
        composite := some
          { inner := .count, outer := .avg, timeColumn := "sold_at ", granularity := .month } }
    let c := (ofConfig d.normalize).normalize
    let k : KpiConfig := ⟨.single { op := .sum, column := some " revenue " }, []⟩
    let e := (ofConfig (.kpi k)).normalize
    (d.kind = .kpi ∧ Relation.ReflTransGen Config.Reloads d.normalize c ∧ d.Shows c ∧
      c.description? = some "AVG(SUM(revenue) by month)") ∧
    Relation.ReflTransGen Config.Reloads (.kpi k) e ∧
    ∃ m, e.Sees m ∧ m.Matches k.measure.metric ∧
      ∀ v : View, v.checkMetric m = v.checkMetric k.measure.metric := by
  intro d c k e
  have hc : Relation.ReflTransGen Config.Reloads d.normalize c := .single (.edited _)
  have he : Relation.ReflTransGen Config.Reloads (.kpi k) e := .single (.edited _)
  exact ⟨⟨rfl, hc, shows_of_reloads.1 d rfl c hc, by decide +kernel⟩, he,
    shows_of_reloads.2 k e he⟩

end Draft

end WidgetBoard
