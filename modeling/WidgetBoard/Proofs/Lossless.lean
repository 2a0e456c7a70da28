import WidgetBoard.Proofs.Lists
import WidgetBoard.Proofs.WireForm

/-!
# Drafts come back

A draft that was read comes back when it is written and read again, and so does what becomes of it
when its kind is changed and its labels are switched.  Edits of these two sorts bring in no
dimension and no filter, and all other parts come back whatever they are.

* `Draft.Edit`, `Draft.edits`   a change of kind or a switch of the labels, and a list of them;
* `Draft.AsRead`                what is known of the dimensions and filters of a draft that was read.

Main statement: `Draft.reader_toJson_edits` (written and read, such a draft is the same unless a
scalar in it looks like a window; none does where the draft was read from a settled value).
-/

namespace WidgetBoard

namespace Draft

/-! ## edits -/

inductive Edit where
  | kind (k : WidgetKind)
  | labels (enabled : Bool)
  deriving DecidableEq, Repr

def edit (d : Draft) : Edit → Draft
  | .kind k => d.retype k
  | .labels enabled => d.switchLabels enabled

def edits (d : Draft) (es : List Edit) : Draft := es.foldl edit d

variable {d : Draft}

/-- a change of kind keeps the dimensions and the filters, or some of them, or none -/
theorem subset_retype (d : Draft) (k : WidgetKind) :
    (d.retype k).dimensions ⊆ d.dimensions ∧ (d.retype k).filters ⊆ d.filters := by
  cases k with
  | text => exact ⟨List.nil_subset _, List.nil_subset _⟩
  | kpi | line | statement => exact ⟨List.nil_subset _, List.Subset.refl _⟩
  | bar | column | table => exact ⟨List.Subset.refl _, List.Subset.refl _⟩
  | donut => exact ⟨fun _ he => (List.mem_filter.1 he).1, List.Subset.refl _⟩

theorem subset_edit (d : Draft) (e : Edit) :
    (d.edit e).dimensions ⊆ d.dimensions ∧ (d.edit e).filters ⊆ d.filters := by
  cases e with
  | kind k => exact d.subset_retype k
  | labels enabled => exact ⟨List.Subset.refl _, List.Subset.refl _⟩

theorem subset_edits (d : Draft) (es : List Edit) :
    (d.edits es).dimensions ⊆ d.dimensions ∧ (d.edits es).filters ⊆ d.filters := by
  induction es generalizing d with
  | nil => exact ⟨List.Subset.refl _, List.Subset.refl _⟩
  | cons e es ih =>
    obtain ⟨hd, hf⟩ := d.subset_edit e
    obtain ⟨hds, hfs⟩ := ih (d.edit e)
    exact ⟨List.Subset.trans hds hd, List.Subset.trans hfs hf⟩

/-! ## what was read -/

/-- the dimensions come back, and the filters can be written -/
structure AsRead (d : Draft) : Prop where
  dimensions : ∀ e ∈ d.dimensions, e.reread = e
  filters : ∀ f ∈ d.filters, f.IsValue

theorem asRead_of_reader {j : Json} (h : reader j = .ok d) : d.AsRead := by
  obtain ⟨hes, hfs⟩ := exists_items_of_reader h
  constructor
  · intro e he
    obtain ⟨x, hx⟩ := hes e he
    exact Dimension.reread_of_reader hx
  · intro f hf
    obtain ⟨x, hx, _⟩ := hfs f hf
    exact (Filter.isValue_of_reader hx).1

theorem AsRead.edits (h : d.AsRead) (es : List Edit) : (d.edits es).AsRead := by
  obtain ⟨hes, hfs⟩ := d.subset_edits es
  exact ⟨fun e he => h.dimensions e (hes he), fun f hf => h.filters f (hfs hf)⟩

/-- only a scalar that looks like a window keeps such a draft from coming back -/
theorem AsRead.reader_toJson_iff (h : d.AsRead) :
    reader d.toJson = .ok d ↔ ∀ f ∈ d.filters, ¬ f.IsDisguised := by
  have hd : d.dimensions.map Dimension.reread = d.dimensions := map_eq_self h.dimensions
  rw [(reads_toJson h.filters).ok, Except.ok.injEq]
  constructor
  · intro hr f hf
    have hfs : d.filters.map Filter.reread = d.filters.map id := by
      rw [List.map_id]
      exact congrArg Draft.filters hr
    exact Filter.reread_eq_self_iff.1 (List.map_inj_left.1 hfs f hf)
  · intro hs
    have hf : d.filters.map Filter.reread = d.filters :=
      map_eq_self fun f hf => Filter.reread_eq_self_iff.2 (hs f hf)
    rw [reread, hd, hf]

/-! ## writing and reading -/

/-- **A draft that was read, edited any number of times, comes back as it is** unless a filter of it
has a scalar that looks like a window, and that cannot be in a draft read from a settled value. -/
theorem reader_toJson_edits {j : Json} (h : reader j = .ok d) (es : List Edit) :
    (reader (d.edits es).toJson = .ok (d.edits es) ↔
      ∀ f ∈ (d.edits es).filters, ¬ f.IsDisguised) ∧
    (j.IsSettled → reader (d.edits es).toJson = .ok (d.edits es)) := by
  have hiff := ((asRead_of_reader h).edits es).reader_toJson_iff
  refine ⟨hiff, fun hj => hiff.2 fun f hf => ?_⟩
  have hmem : f ∈ d.filters := (d.subset_edits es).2 hf
  exact (isValue_filters_of_reader h f hmem).2 hj

/-- an average by month over the last seven days, some of whose members say nothing -/
def averageByMonth : Json :=
  .obj
    [("dimensions", .arr [.str "__time_month__:sold_at", .str "region"]),
     ("filters",
      .arr
        [.obj
          [("column", .str "sold_at"), ("op", .str "between"),
           ("value", .obj [("relative", .str "last_7_days")])],
         .obj [("column", .str "region"), ("op", .str "not_null"), ("value", .null)]]),
     ("metrics", .arr [.obj [("column", .str "amount"), ("op", .str "avg")]]),
     ("time", .null), ("top_n", .ofNat 5), ("widget_type", .str "bar")]

/-- made a donut, which loses the month, and then a line with labels, which loses the rest -/
theorem reader_toJson_edits_averageByMonth :
    ∃ d, reader averageByMonth = .ok d ∧
      reader (d.edits [.kind .donut]).toJson = .ok (d.edits [.kind .donut]) ∧
      reader (d.edits [.kind .donut, .kind .line, .labels true]).toJson
        = .ok (d.edits [.kind .donut, .kind .line, .labels true]) := by
  let week : Filter :=
    { column := "sold_at", op := .between, value := some (.window .last7Days) }
  let d : Draft :=
    { kind := .bar, metrics := [{ op := .avg, column := some "amount" }],
      dimensions := [.bucket .month "sold_at", .plain "region"],
      filters := [week, { column := "region", op := .notNull }], topN := some 5 }
  have hd : reader averageByMonth = .ok d := rfl
  have hj : averageByMonth.IsSettled := rfl
  exact ⟨d, hd, (reader_toJson_edits hd _).2 hj, (reader_toJson_edits hd _).2 hj⟩

end Draft

end WidgetBoard
