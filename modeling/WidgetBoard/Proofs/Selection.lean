import WidgetBoard.Proofs.Canonical

/-!
# The selection of a table

A table keeps every column that is selected once, under its trimmed name.  The formats are not
trimmed along with the columns: what is kept is the format that was set under the trimmed name, and a
format under any other spelling of the column is dropped.

* `EachOnce l m`         `m` has the items of `l`, each once, in the order of their first occurrence;
* `Draft.selected d`     the names of the columns that are selected, trimmed;
* `Draft.Formats d s f`  a format is set under the key `s`, and is `f` when trimmed.

Main statement: `Draft.selection_normalize`.
-/

namespace WidgetBoard

open Text

/-! ## each item once -/

structure EachOnce (l m : List String) : Prop where
  nodup : m.Nodup
  mem_iff : ∀ s, s ∈ m ↔ s ∈ l
  order : m.Pairwise fun a b => l.idxOf a < l.idxOf b

theorem eachOnce_dedup (l : List String) : EachOnce l (dedup l) where
  nodup := nodup_dedup l
  mem_iff _ := mem_dedup
  order := by
    induction l with
    | nil => exact List.Pairwise.nil
    | cons s l ih =>
      have hne : ∀ a ∈ (dedup l).filter (· ≠ s), s ≠ a := by
        intro a ha he
        simp [he] at ha
      rw [dedup, List.pairwise_cons]
      constructor
      · intro a ha
        rw [List.idxOf_cons_self, List.idxOf_cons_ne _ (hne a ha)]
        exact Nat.succ_pos _
      · -- all that is left is one place further behind the new head
        refine (ih.filter _).imp_of_mem fun {a b} ha hb hab => ?_
        rw [List.idxOf_cons_ne _ (hne a ha), List.idxOf_cons_ne _ (hne b hb)]
        exact Nat.succ_lt_succ hab

/-- no other list has each item once in that order -/
theorem eachOnce_iff {l m : List String} : EachOnce l m ↔ m = dedup l := by
  constructor
  · intro h
    have hd := eachOnce_dedup l
    have hperm : m.Perm (dedup l) := by
      rw [List.perm_ext_iff_of_nodup h.nodup hd.nodup]
      intro s
      rw [h.mem_iff, hd.mem_iff]
    refine hperm.eq_of_pairwise (fun a b _ _ hab hba => ?_) h.order hd.order
    omega
  · rintro rfl
    exact eachOnce_dedup l

/-! ## selected columns and their formats -/

namespace Draft

def selected (d : Draft) : List String :=
  ((d.columns.getD []).map trim).filter (· ≠ "")

/-- blank formats are none -/
def Formats (d : Draft) (s f : String) : Prop :=
  ∃ raw, (d.formats.getD {}).get? s = some raw ∧ nonBlank? raw = some f

theorem filterMap_nonBlank? (l : List String) :
    l.filterMap nonBlank? = (l.map trim).filter (· ≠ "") := by
  induction l with
  | nil => rfl
  | cons s l ih =>
    rw [List.filterMap_cons, List.map_cons, List.filter_cons, ih, nonBlank?, allBlank]
    by_cases hs : trim s = "" <;> simp [hs]

theorem tableColumns_eq (d : Draft) : d.tableColumns = dedup d.selected := by
  rw [tableColumns, selected, filterMap_nonBlank?]

/-- the formats that are kept are those under the names of kept columns -/
theorem get?_tableFormats_iff {d : Draft} {s f : String} :
    d.tableFormats.get? s = some f ↔ s ∈ d.tableColumns ∧ d.Formats s f := by
  rw [tableFormats, Dictionary.get?_filterMap, Option.bind_eq_some_iff]
  by_cases hs : s ∈ d.tableColumns
  · simp only [hs, if_true, true_and]
    rfl
  · simp [hs]

/-- **What a table keeps of its selection**: the selected columns, each once, and the formats that
are set under their trimmed names.  A format that is set under a name as it was selected is kept
exactly when that name has no blanks around it, unless the trimmed name has a format of its own. -/
theorem selection_normalize {d : Draft} (h : d.kind = .table) :
    ∃ c, d.normalize = .table c ∧
      (∀ m, EachOnce d.selected m ↔ m = c.columns) ∧
      (∀ s f, c.formats.get? s = some f ↔ s ∈ c.columns ∧ d.Formats s f) ∧
      ∀ s ∈ d.columns.getD [], ¬ IsBlank s → ∀ f, d.Formats s f →
        ((∃ g, c.formats.get? (trim s) = some g) ↔ IsTrimmed s ∨ ∃ g, d.Formats (trim s) g) := by
  refine ⟨d.tableConfig, by rw [normalize, h], fun m => ?_, fun s f => get?_tableFormats_iff, ?_⟩
  · show _ ↔ m = d.tableColumns
    rw [tableColumns_eq, eachOnce_iff]
  · intro s hs hblank f hf
    have hmem : trim s ∈ d.tableColumns :=
      mem_tableColumns.2 ⟨s, hs, nonBlank?_of_not_isBlank hblank⟩
    constructor
    · rintro ⟨g, hg⟩
      exact Or.inr ⟨g, (get?_tableFormats_iff.1 hg).2⟩
    · rintro (htrimmed | ⟨g, hg⟩)
      · have hself : trim s = s := isTrimmed_iff.1 htrimmed
        exact ⟨f, get?_tableFormats_iff.2 ⟨hmem, hself.symm ▸ hf⟩⟩
      · exact ⟨g, get?_tableFormats_iff.2 ⟨hmem, hg⟩⟩

/-- selects the revenue twice; the date has a format but is not selected -/
def salesTable : Draft :=
  { kind := .table, columns := some [" revenue ", "region", "revenue", " "],
    formats := some (.ofList [("region", " upper "), ("revenue", "currency"), ("sold_at", "date")]) }

theorem selection_normalize_salesTable :
    salesTable.kind = .table ∧ ∃ c, salesTable.normalize = .table c ∧
      EachOnce salesTable.selected c.columns ∧ c.columns = ["revenue", "region"] ∧
      c.formats.get? "revenue" = some "currency" ∧ c.formats.get? "sold_at" ≠ some "date" ∧
      ("region" ∈ salesTable.columns.getD [] ∧ ¬ IsBlank "region" ∧
        salesTable.Formats "region" "upper" ∧ ∃ g, c.formats.get? (trim "region") = some g) := by
  obtain ⟨c, hc, hcolumns, hformats, htyped⟩ := selection_normalize (d := salesTable) rfl
  have hlist : c.columns = ["revenue", "region"] := by
    obtain rfl : salesTable.tableConfig = c := Config.table.inj hc
    decide +kernel
  have hregion : salesTable.Formats "region" "upper" := ⟨" upper ", rfl, by decide +kernel⟩
  have hmem : "region" ∈ salesTable.columns.getD [] := by decide
  have hblank : ¬ IsBlank "region" := by
    rw [← allBlank_iff]
    decide +kernel
  have htrimmed : IsTrimmed "region" := isTrimmed_iff.2 (by decide +kernel)
  refine ⟨rfl, c, hc, (hcolumns _).2 rfl, hlist, ?_, ?_, hmem, hblank, hregion, ?_⟩
  · exact (hformats _ _).2 ⟨by simp [hlist], "currency", rfl, by decide +kernel⟩
  · intro h
    have hdate := ((hformats _ _).1 h).1
    simp [hlist] at hdate
  · exact (htyped _ hmem hblank _ hregion).2 (Or.inl htrimmed)

/-- the only format of a column is lost when it was set under the name as it was selected -/
theorem not_selection_normalize_padded :
    let d : Draft :=
      { kind := .table, columns := some [" revenue "],
        formats := some (.ofList [(" revenue ", "currency")]) }
    " revenue " ∈ d.columns.getD [] ∧ allBlank " revenue " = false ∧
    d.Formats " revenue " "currency" ∧
    ∃ c, d.normalize = .table c ∧ c.columns = ["revenue"] ∧ c.formats.entries = [] := by
  refine ⟨by decide, by decide +kernel, ⟨"currency", rfl, by decide +kernel⟩, _, rfl, ?_, ?_⟩
  · decide +kernel
  · decide +kernel

end Draft

end WidgetBoard
