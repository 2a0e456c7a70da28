import WidgetBoard.Proofs.Canonical
import WidgetBoard.Proofs.WireForm

/-!
# Stored configurations are read again

A configuration is stored in its written form, and reading it normalizes the draft once more.
Normalizing trims names; it does so after a text has been taken for a plain column or for a bucket,
so a plain column can get a name that is read as a bucket the next time.

* `Config.Survives`            nothing in the configuration is in disguise;
* `Config.reader_toJson`       what the written form of a configuration is read as;
* `Config.renormalize_reread_iff`   it is the configuration itself exactly when that survives;
* `Config.reader_toJson_normalize_iff`   so it is for the configuration of every draft that was read.
-/

namespace WidgetBoard

namespace Config

def dimensions : Config → List Dimension
  | .bar c | .column c | .donut c => c.dimensions
  | .table c => c.dimensions
  | .kpi _ | .line _ | .text _ | .statement _ => []

/-- no plain column has a name that reads as a bucket, no scalar looks like a window -/
structure Survives (c : Config) : Prop where
  dimensions : ∀ e ∈ c.dimensions, ¬ e.IsDisguised
  filters : ∀ f ∈ c.filters, ¬ f.IsDisguised

end Config

/-! ## cleaning what was reread -/

namespace Dimension

/-- cleaning leaves a bucket a bucket -/
theorem isPlain_of_clean? {d e : Dimension} (h : d.clean? = some e) : e.isPlain = d.isPlain := by
  obtain ⟨column, _, rfl⟩ := Option.map_eq_some_iff.1 h
  cases d <;> rfl

theorem clean?_reread_iff {d : Dimension} (h : d.IsCanonical) :
    d.reread.clean? = some d ↔ ¬ d.IsDisguised := by
  constructor
  · intro hc hd
    cases d with
    | bucket g column => exact hd
    | plain s =>
      obtain ⟨g, column, hd⟩ := hd
      have hr : (Dimension.plain s).reread = .bucket g column := parse_eq_bucket_iff.2 hd
      rw [hr] at hc
      exact nomatch isPlain_of_clean? hc
  · intro hd
    rw [(reread_eq_self_iff h.ne_empty).2 hd, clean?_eq_self h]

end Dimension

namespace Filter

/-- compiling keeps the value or puts a window in its place -/
theorem value_of_compile? {f g : Filter} (h : f.compile? = some g) :
    g.value = f.value ∨ ∃ p, g.value = some (.window p) := by
  obtain ⟨column, _, rfl⟩ := Option.map_eq_some_iff.1 h
  split
  · next p _ _ => exact Or.inr ⟨p, rfl⟩
  · exact Or.inl rfl

theorem isValue_of_compile? {f g : Filter} (h : f.compile? = some g) (hf : f.IsValue) :
    g.IsValue := by
  intro v hv
  rcases value_of_compile? h with hg | ⟨p, hg⟩
  · exact hf v (hg ▸ hv)
  · obtain rfl := Option.some.inj (hg.symm.trans hv)
    trivial

theorem not_isDisguised_of_compile? {f g : Filter} (h : f.compile? = some g)
    (hf : ¬ f.IsDisguised) : ¬ g.IsDisguised := by
  rintro ⟨v, hv, hd⟩
  rcases value_of_compile? h with hg | ⟨p, hg⟩
  · exact hf ⟨v, hg ▸ hv, hd⟩
  · obtain rfl := Option.some.inj (hg.symm.trans hv)
    exact hd

theorem compile?_reread_iff {f : Filter} (h : f.IsCanonical) :
    f.reread.compile? = some f ↔ ¬ f.IsDisguised := by
  constructor
  · rintro hc ⟨v, hv, hd⟩
    -- what was reread is a window, and so is what compiling makes of it
    have hw : ∃ p, f.reread.value = some (.window p) := by
      cases v with
      | window p => exact hd.elim
      | scalar w =>
        obtain ⟨p, hp⟩ := hd
        refine ⟨p, ?_⟩
        rw [reread, show f.value = some (.scalar w) from hv, Option.map_some,
          FilterValue.reread, hp]
    have hg : ∃ p, f.value = some (.window p) := by
      rcases value_of_compile? hc with hg | hg
      · exact hg ▸ hw
      · exact hg
    obtain ⟨p, hg⟩ := hg
    obtain rfl := Option.some.inj (hg.symm.trans hv)
    exact hd
  · intro hd
    rw [reread_eq_self_iff.2 hd, compile?_eq_self h]

end Filter

/-! ## configurations -/

namespace Config

variable {c : Config}

theorem filters_ofConfig (c : Config) : (Draft.ofConfig c).filters = c.filters := by
  rcases c with ⟨_ | _, _⟩ | _ | _ | _ | _ | _ | _ | _ <;> rfl

theorem dimensions_ofConfig (c : Config) : (Draft.ofConfig c).dimensions = c.dimensions := by
  rcases c with ⟨_ | _, _⟩ | _ | _ | _ | _ | _ | _ | _ <;> rfl

theorem IsCanonical.dimensions (h : c.IsCanonical) : ∀ e ∈ c.dimensions, e.IsCanonical := by
  cases c with
  | bar c | column c | donut c => exact ChartConfig.IsCanonical.dimensions h
  | table c => exact TableConfig.IsCanonical.dimensions h
  | kpi | line | text | statement => exact fun e he => nomatch he

theorem IsCanonical.filters (h : c.IsCanonical) : ∀ f ∈ c.filters, f.IsCanonical := by
  cases c with
  | kpi c => exact KpiConfig.IsCanonical.filters h
  | line c => exact LineConfig.IsCanonical.filters h
  | bar c | column c | donut c => exact ChartConfig.IsCanonical.filters h
  | table c => exact TableConfig.IsCanonical.filters h
  | text => exact fun f hf => nomatch hf
  | statement c => exact StatementConfig.IsCanonical.filters h

/-- the filters of a normalized draft come from filters of the draft -/
theorem exists_of_mem_filters_normalize {d : Draft} {g : Filter} (h : g ∈ d.normalize.filters) :
    ∃ f ∈ d.filters, f.compile? = some g := by
  refine List.mem_filterMap.1 ?_
  unfold Draft.normalize at h
  cases hk : d.kind with
  | text =>
    rw [hk] at h
    exact nomatch h
  | _ =>
    rw [hk] at h
    exact h

theorem reader_toJson (h : ∀ f ∈ c.filters, f.IsValue) :
    reader c.toJson = .ok (Draft.ofConfig c).reread.normalize := by
  have hr := Draft.reads_toJson (c.filters_ofConfig.symm ▸ h)
  rw [reader, toJson, hr.ok]
  rfl

theorem dimensions_renormalize_reread (c : Config) :
    (Draft.ofConfig c).reread.normalize.dimensions
      = (c.dimensions.map Dimension.reread).filterMap Dimension.clean? := by
  cases c with
  | kpi c =>
    obtain ⟨_ | _, _⟩ := c <;> rfl
  | line | bar | column | donut | table | text | statement => rfl

theorem filters_renormalize_reread (c : Config) :
    (Draft.ofConfig c).reread.normalize.filters
      = (c.filters.map Filter.reread).filterMap Filter.compile? := by
  cases c with
  | kpi c =>
    obtain ⟨_ | _, _⟩ := c <;> rfl
  | line | bar | column | donut | table | text | statement => rfl

/-- **Read again, a canonical configuration is the same exactly when it survives.** -/
theorem renormalize_reread_iff (h : c.IsCanonical) :
    (Draft.ofConfig c).reread.normalize = c ↔ c.Survives := by
  constructor
  · intro hc
    have hd := dimensions_renormalize_reread c
    have hf := filters_renormalize_reread c
    rw [hc] at hd hf
    have hd' := eq_some_of_filterMap_map hd.symm
    have hf' := eq_some_of_filterMap_map hf.symm
    constructor
    · intro e he
      exact (Dimension.clean?_reread_iff (h.dimensions e he)).1 (hd' e he)
    · intro f hm
      exact (Filter.compile?_reread_iff (h.filters f hm)).1 (hf' f hm)
  · intro hs
    have hd : c.dimensions.map Dimension.reread = c.dimensions := map_eq_self fun e he =>
      (Dimension.reread_eq_self_iff (h.dimensions e he).ne_empty).2 (hs.dimensions e he)
    have hf : c.filters.map Filter.reread = c.filters := map_eq_self fun f hm =>
      Filter.reread_eq_self_iff.2 (hs.filters f hm)
    have hr : (Draft.ofConfig c).reread = Draft.ofConfig c := by
      rw [Draft.reread, dimensions_ofConfig, filters_ofConfig, hd, hf, ← dimensions_ofConfig,
        ← filters_ofConfig]
    rw [hr, normalize_ofConfig h]

/-- **A compiled configuration survives its written form exactly when nothing in it is in
disguise**: then, and only then, it is read back as it was, and posting it again gives the same
report.  Where the draft was read from a settled value, only its dimensions can be in disguise. -/
theorem reader_toJson_normalize_iff {j : Json} {d : Draft} (h : Draft.reader j = .ok d) :
    (reader d.normalize.toJson = .ok d.normalize ↔ d.normalize.Survives) ∧
    (∀ v : View, (Draft.reader (d.compile v).config.toJson).map (fun e => e.compile v)
        = .ok (d.compile v) ↔ d.normalize.Survives) ∧
    (j.IsSettled → (d.normalize.Survives ↔ ∀ e ∈ d.normalize.dimensions, ¬ e.IsDisguised)) := by
  have hfs := Draft.isValue_filters_of_reader h
  have hv : ∀ g ∈ d.normalize.filters, g.IsValue := by
    intro g hg
    obtain ⟨f, hf, hfg⟩ := exists_of_mem_filters_normalize hg
    exact Filter.isValue_of_compile? hfg (hfs f hf).1
  have hread : Draft.reader d.normalize.toJson = .ok (Draft.ofConfig d.normalize).reread :=
    (Draft.reads_toJson (filters_ofConfig _ ▸ hv)).ok
  have hiff := renormalize_reread_iff (isCanonical_normalize d)
  refine ⟨?_, fun v => ?_, fun hj => ?_⟩
  · rw [reader_toJson hv, Except.ok.injEq, hiff]
  · rw [show (d.compile v).config = d.normalize from rfl, hread, ← hiff]
    show Except.ok _ = Except.ok _ ↔ _
    rw [Except.ok.injEq]
    constructor
    · intro hc
      exact congrArg CompileReport.config hc
    · intro hc
      simp only [Draft.compile, hc]
  · refine ⟨fun hs => hs.dimensions, fun hd => ⟨hd, fun g hg => ?_⟩⟩
    obtain ⟨f, hf, hfg⟩ := exists_of_mem_filters_normalize hg
    exact Filter.not_isDisguised_of_compile? hfg ((hfs f hf).2 hj)

/-- a bar chart over one dimension, which counts rows -/
def chartOver (text : String) : Json :=
  .obj
    [("dimensions", .arr [.str text]), ("metrics", .arr [.obj [("op", .str "count")]]),
     ("widget_type", .str "bar")]

/-- a bucket survives -/
theorem survives_chartOver_month :
    ∃ d, Draft.reader (chartOver "__time_month__:sold_at") = .ok d ∧
      reader d.normalize.toJson = .ok d.normalize := by
  let d : Draft :=
    { kind := .bar, metrics := [Metric.count], dimensions := [.bucket .month "sold_at"] }
  have hd : Draft.reader (chartOver "__time_month__:sold_at") = .ok d := rfl
  have hn : d.normalize.dimensions = [.bucket .month "sold_at"] := rfl
  refine ⟨d, hd, (reader_toJson_normalize_iff hd).1.2 ⟨?_, fun f hf => nomatch hf⟩⟩
  intro e he
  rw [hn, List.mem_singleton] at he
  exact he ▸ id

/-- a bucket behind a blank does not: saved without a violation as a plain column, it comes back as
a bucket over a column that does not exist -/
theorem not_survives_chartOver_blank :
    (chartOver " __time_month__:sold_at").IsSettled ∧
    ∃ d, Draft.reader (chartOver " __time_month__:sold_at") = .ok d ∧
      reader d.normalize.toJson ≠ .ok d.normalize ∧
      (d.compile [⟨"__time_month__:sold_at", .text⟩]).violations = [] ∧
      (reader d.normalize.toJson).map (fun c => c.check [⟨"__time_month__:sold_at", .text⟩])
        = .ok [.unknownColumn "sold_at"] := by
  let d : Draft :=
    { kind := .bar, metrics := [Metric.count], dimensions := [.plain " __time_month__:sold_at"] }
  let e : Draft :=
    { kind := .bar, metrics := [Metric.count], dimensions := [.bucket .month "sold_at"] }
  have hr : reader d.normalize.toJson = .ok e.normalize := rfl
  have hne : e.normalize ≠ d.normalize := by decide +kernel
  refine ⟨rfl, d, rfl, ?_, by decide +kernel, ?_⟩
  · rw [hr]
    exact fun h => hne (Except.ok.inj h)
  · rw [hr]
    rfl

end Config

end WidgetBoard
