import WidgetBoard.Proofs.Savable

/-!
# Fresh widgets

A fresh widget picks its columns from the view.  Over a view with proper names it can be saved
exactly when there are columns to pick.

* `View.WellNamed v`     every column has a name, and no two of them the same;
* `View.Has v k`         there is a column of that kind;
* `View.Supports v k`    there are columns that a widget of kind `k` can do with;
* `Config.fresh v k`     the configuration of a fresh widget, with all its names written out.

`Draft.normalize_default` shows that the draft of a fresh widget has that configuration: nothing
that it picks is lost on the way.  Main statement: `Draft.violations_default_eq_nil_iff`.
-/

namespace WidgetBoard

open Text

/-! ## views -/

theorem ColumnKind.isCategorical_iff {k : ColumnKind} :
    k.isCategorical = true ↔ k = .text ∨ k = .boolean := by
  cases k <;> simp [isCategorical]

namespace View

/-- every column has a name, and each its own -/
structure WellNamed (v : View) : Prop where
  nodup : (v.map (·.name)).Nodup
  isName : ∀ c ∈ v, IsName c.name

def Has (v : View) (k : ColumnKind) : Prop := ∃ c ∈ v, c.kind = k

/-- the columns without which a fresh widget of that kind is incomplete are there -/
def Supports (v : View) : WidgetKind → Prop
  | .kpi | .text | .statement => True
  | .line => v.Has .temporal
  | .bar | .column => v.Has .text ∨ v.Has .boolean ∨ v.Has .temporal
  | .donut => v.Has .text ∨ v.Has .boolean
  | .table => v ≠ []

variable {v : View}

/-- a column is found by its name when no other one has it -/
theorem resolves_of_mem (h : (v.map (·.name)).Nodup) {c : Column} (hc : c ∈ v) :
    v.Resolves c.name c.kind := by
  induction v with
  | nil => cases hc
  | cons b v ih =>
    obtain ⟨hb, hv⟩ := List.nodup_cons.1 h
    rcases List.mem_cons.1 hc with rfl | hc
    · exact .first c v
    · have hne : b.name ≠ c.name := fun e => hb (List.mem_map.2 ⟨c, hc, e.symm⟩)
      exact .later hne (ih hv hc)

end View

namespace Draft

variable {v : View}

/-! ## what is picked -/

theorem of_firstTemporal? {c : Column} (h : firstTemporal? v = some c) :
    c ∈ v ∧ c.kind = .temporal := by
  have hkind := List.find?_some h
  exact ⟨List.mem_of_find?_eq_some h, beq_iff_eq.1 hkind⟩

theorem of_firstCategorical? {c : Column} (h : firstCategorical? v = some c) :
    c ∈ v ∧ (c.kind = .text ∨ c.kind = .boolean) := by
  have hkind := List.find?_some h
  exact ⟨List.mem_of_find?_eq_some h, ColumnKind.isCategorical_iff.1 hkind⟩

theorem of_defaultDimension? {d : Dimension} (h : defaultDimension? v = some d) :
    (∃ c, firstCategorical? v = some c ∧ d = .plain c.name) ∨
    ∃ t, firstTemporal? v = some t ∧ d = .bucket .month t.name := by
  unfold defaultDimension? at h
  split at h
  · next c hc => exact Or.inl ⟨c, hc, (Option.some.inj h).symm⟩
  · next t _ ht => exact Or.inr ⟨t, ht, (Option.some.inj h).symm⟩
  · cases h

/-! ## something is picked when there is something to pick -/

theorem isSome_firstTemporal?_iff : (firstTemporal? v).isSome = true ↔ v.Has .temporal := by
  rw [firstTemporal?, List.find?_isSome]
  simp only [beq_iff_eq]
  rfl

theorem isSome_firstCategorical?_iff :
    (firstCategorical? v).isSome = true ↔ v.Has .text ∨ v.Has .boolean := by
  rw [firstCategorical?, List.find?_isSome]
  simp only [ColumnKind.isCategorical_iff, View.Has, and_or_left, exists_or]

theorem isSome_defaultDimension?_iff : (defaultDimension? v).isSome = true ↔
    v.Has .text ∨ v.Has .boolean ∨ v.Has .temporal := by
  rw [← or_assoc, ← isSome_firstCategorical?_iff, ← isSome_firstTemporal?_iff, defaultDimension?]
  cases firstCategorical? v <;> cases firstTemporal? v <;> simp

/-! ## what is picked is a column to group by -/

section

variable (h : v.WellNamed)
include h

theorem isName_firstTemporal? {c : Column} (hc : firstTemporal? v = some c) : IsName c.name :=
  h.isName c (of_firstTemporal? hc).1

theorem isName_firstCategorical? {c : Column} (hc : firstCategorical? v = some c) :
    IsName c.name :=
  h.isName c (of_firstCategorical? hc).1

theorem resolves_firstTemporal? {c : Column} (hc : firstTemporal? v = some c) :
    v.Resolves c.name .temporal := by
  obtain ⟨hmem, hkind⟩ := of_firstTemporal? hc
  exact hkind ▸ View.resolves_of_mem h.nodup hmem

theorem groups_firstCategorical? {k : WidgetKind} {c : Column}
    (hc : firstCategorical? v = some c) : v.Groups k (.plain c.name) := by
  obtain ⟨hmem, hkind⟩ := of_firstCategorical? hc
  have hr := View.resolves_of_mem h.nodup hmem
  rcases hkind with hkind | hkind <;> rw [hkind] at hr
  · exact Or.inl hr
  · exact Or.inr hr

theorem isCanonical_defaultDimension? {d : Dimension} (hd : defaultDimension? v = some d) :
    d.IsCanonical := by
  rcases of_defaultDimension? hd with ⟨c, hc, rfl⟩ | ⟨t, ht, rfl⟩
  · exact isName_firstCategorical? h hc
  · exact isName_firstTemporal? h ht

theorem groups_defaultDimension? {k : WidgetKind} (hk : k = .bar ∨ k = .column) {d : Dimension}
    (hd : defaultDimension? v = some d) : v.Groups k d := by
  rcases of_defaultDimension? hd with ⟨c, hc, rfl⟩ | ⟨t, ht, rfl⟩
  · exact groups_firstCategorical? h hc
  · exact ⟨hk, resolves_firstTemporal? h ht⟩

end

end Draft

/-! ## the configuration of a fresh widget -/

namespace Config

/-- counts rows by a dimension, if there is one -/
def freshChart (o : Option Dimension) : ChartConfig :=
  { dimensions := o.toList, metrics := [Metric.count], filters := [], orderBy := [], topN := none }

def fresh (v : View) : WidgetKind → Config
  | .kpi => .kpi { measure := .single Metric.count, filters := [] }
  | .line =>
    .line { time := (Draft.firstTemporal? v).map fun c => { column := c.name },
            metrics := [Metric.count.onAxis .left], filters := [], orderBy := [], labels := {} }
  | .bar => .bar (freshChart (Draft.defaultDimension? v))
  | .column => .column (freshChart (Draft.defaultDimension? v))
  | .donut => .donut (freshChart ((Draft.firstCategorical? v).map fun c => .plain c.name))
  | .table =>
    .table { columns := v.map (·.name), metrics := [], dimensions := [], filters := [],
             orderBy := [], formats := {}, pageSize := Draft.defaultPageSize }
  | .text => .text { content := "New text" }
  | .statement =>
    .statement { rows := [StatementRow.revenue], percentBase := some 0, filters := [] }

end Config

namespace Draft

variable {v : View}

theorem chartConfig_fresh {o : Option Dimension} (h : ∀ d ∈ o, d.IsCanonical) (k : WidgetKind) :
    chartConfig { kind := k, metrics := [Metric.count], dimensions := o.toList } =
      Config.freshChart o := by
  have hd : o.toList.filterMap Dimension.clean? = o.toList :=
    filterMap_eq_self fun d hd => Dimension.clean?_eq_self (h d (by simpa using hd))
  simp only [chartConfig, Config.freshChart, hd]
  rfl

theorem normalize_default (h : v.WellNamed) (k : WidgetKind) :
    (default k v).normalize = Config.fresh v k := by
  cases k with
  | kpi => rfl
  | line =>
    have ht : ((firstTemporal? v).map fun c => TimeAxis.mk c.name .day).bind TimeAxis.clean? =
        (firstTemporal? v).map fun c => TimeAxis.mk c.name .day := by
      cases hc : firstTemporal? v with
      | none => rfl
      | some c => exact TimeAxis.clean?_eq_self (isName_firstTemporal? h hc)
    have hlabels : LineLabels.normalize {} = {} := by decide +kernel
    exact congrArg₂ (fun t l => Config.line ⟨t, [Metric.count.onAxis .left], [], [], l⟩) ht hlabels
  | bar =>
    exact congrArg Config.bar (chartConfig_fresh (fun _ => isCanonical_defaultDimension? h) _)
  | column =>
    exact congrArg Config.column (chartConfig_fresh (fun _ => isCanonical_defaultDimension? h) _)
  | donut =>
    refine congrArg Config.donut (chartConfig_fresh (fun d hd => ?_) _)
    obtain ⟨c, hc, rfl⟩ := Option.map_eq_some_iff.1 hd
    exact isName_firstCategorical? h hc
  | table =>
    have hc : dedup ((v.map (·.name)).filterMap nonBlank?) = v.map (·.name) := by
      rw [filterMap_eq_self, dedup_eq_self h.nodup]
      intro s hs
      obtain ⟨c, hc, rfl⟩ := List.mem_map.1 hs
      exact nonBlank?_self_iff.2 (h.isName c hc)
    exact congrArg (fun cs => Config.table ⟨cs, [], [], [], [], {}, defaultPageSize⟩) hc
  | text => rfl
  | statement =>
    have hrow : StatementRow.revenue.clean = StatementRow.revenue := by decide +kernel
    exact congrArg (fun r => Config.statement ⟨[r], percentBase? [r] none, []⟩) hrow

end Draft

/-! ## when it can be saved -/

namespace Config

variable {v : View}

theorem savableChart_fresh_iff {k : WidgetKind} {o : Option Dimension}
    (h : ∀ d ∈ o, v.Groups k d) : v.SavableChart k (freshChart o) ↔ o.isSome = true := by
  constructor
  · rintro ⟨d, m, hd, -⟩
    cases o with
    | none => cases hd
    | some d => rfl
  · intro ho
    obtain ⟨d, rfl⟩ := Option.isSome_iff_exists.1 ho
    exact ⟨d, Metric.count, rfl, rfl, h d rfl, rfl⟩

theorem savableBody_fresh_iff (h : v.WellNamed) (k : WidgetKind) :
    (fresh v k).SavableBody v ↔ v.Supports k := by
  cases k with
  | kpi => exact iff_of_true rfl trivial
  | line =>
    refine Iff.trans ⟨?_, fun ht => ?_⟩ Draft.isSome_firstTemporal?_iff
    · rintro ⟨⟨t, ht, -⟩, -⟩
      exact Option.isSome_map.symm.trans (Option.isSome_of_eq_some ht)
    · obtain ⟨c, hc⟩ := Option.isSome_iff_exists.1 ht
      have htime : (Draft.firstTemporal? v).map (fun c => TimeAxis.mk c.name .day) =
          some ⟨c.name, .day⟩ := by rw [hc, Option.map_some]
      exact ⟨⟨_, htime, Draft.resolves_firstTemporal? h hc⟩, List.forall_mem_singleton.2 rfl⟩
  | bar =>
    exact (savableChart_fresh_iff fun _ => Draft.groups_defaultDimension? h (.inl rfl)).trans
      Draft.isSome_defaultDimension?_iff
  | column =>
    exact (savableChart_fresh_iff fun _ => Draft.groups_defaultDimension? h (.inr rfl)).trans
      Draft.isSome_defaultDimension?_iff
  | donut =>
    have hgroups : ∀ d ∈ (Draft.firstCategorical? v).map fun c => Dimension.plain c.name,
        v.Groups .donut d := by
      intro d hd
      obtain ⟨c, hc, rfl⟩ := Option.map_eq_some_iff.1 hd
      exact Draft.groups_firstCategorical? h hc
    refine (savableChart_fresh_iff hgroups).trans ?_
    rw [Option.isSome_map]
    exact Draft.isSome_firstCategorical?_iff
  | table =>
    have hcolumns : ∀ s ∈ v.map (·.name), ∃ k, v.Resolves s k := by
      intro s hs
      obtain ⟨c, hc, rfl⟩ := List.mem_map.1 hs
      exact ⟨c.kind, View.resolves_of_mem h.nodup hc⟩
    have hne : v.map (·.name) ≠ [] ↔ v ≠ [] := not_congr List.map_eq_nil_iff
    exact ⟨fun hs => hne.1 hs.1, fun hv => ⟨hne.2 hv, hcolumns, fun m hm => nomatch hm⟩⟩
  | text =>
    have hcontent : ¬ IsBlank "New text" := by
      rw [← allBlank_iff]
      decide +kernel
    exact iff_of_true hcontent trivial
  | statement =>
    have htitle : ¬ IsBlank StatementRow.revenue.title := by
      rw [← allBlank_iff]
      decide +kernel
    have hrow : v.SavableRow StatementRow.revenue :=
      ⟨htitle, List.cons_ne_nil _ _, List.forall_mem_singleton.2 rfl⟩
    have hresult : ∃ r ∈ [StatementRow.revenue], r.rowType = .result :=
      ⟨_, List.mem_singleton_self _, rfl⟩
    exact iff_of_true ⟨List.cons_ne_nil _ _, hresult, List.forall_mem_singleton.2 hrow⟩ trivial

end Config

/-- **A fresh widget can be saved exactly when the view supports its kind**, whatever the columns
and their order, as long as each has a name of its own. -/
theorem Draft.violations_default_eq_nil_iff {v : View} (h : v.WellNamed) (k : WidgetKind) :
    ((Draft.default k v).compile v).violations = [] ↔ v.Supports k := by
  have hcanonical := Config.isCanonical_normalize (Draft.default k v)
  refine (Config.check_eq_nil_iff hcanonical).trans ?_
  rw [Draft.normalize_default h, Config.Savable, Config.savableBody_fresh_iff h]
  exact and_iff_left (by cases k <;> exact fun f hf => nomatch hf)

/-- amounts of regions can be shown in a chart, but not along a line of time -/
theorem Draft.violations_default_eq_nil_iff_regions :
    let v : View := [⟨"amount", .numeric⟩, ⟨"region", .text⟩]
    v.WellNamed ∧ ((Draft.default .donut v).compile v).violations = [] ∧
    ((Draft.default .line v).compile v).violations ≠ [] := by
  intro v
  have hclean : ∀ c ∈ v, nonBlank? c.name = some c.name := by decide +kernel
  have h : v.WellNamed := ⟨by decide, fun c hc => nonBlank?_self_iff.1 (hclean c hc)⟩
  have hdonut : v.Supports .donut := Or.inl ⟨⟨"region", .text⟩, by simp [v], rfl⟩
  have hline : ¬ v.Supports .line := by simp [View.Supports, View.Has, v]
  exact ⟨h, (violations_default_eq_nil_iff h _).2 hdonut,
    mt (violations_default_eq_nil_iff h _).1 hline⟩

end WidgetBoard
