import WidgetBoard.Proofs.Savable

/-!
# Windows among kept filters

A window gets into a filter in two ways.  An editor asks for a period by its name, with the operator
`relative`; the filter is then kept as one between the ends of the window.  Or the filter holds the
window from the start, under an operator of its own; it is then kept under that operator.

* `Filter.AsksFor f p`   the operator is `relative`, and the value is or names `p`;
* `Filter.Holds f p`     the value is the window of `p` itself.

Main statement: `Filter.windows_of_checkFilters`.
-/

namespace WidgetBoard

open Text

namespace Filter

def AsksFor (f : Filter) (p : RelativePeriod) : Prop :=
  f.op = .relative ∧ ∃ x ∈ f.value, x.period? = some p

def Holds (f : Filter) (p : RelativePeriod) : Prop := f.value = some (.window p)

variable {f g : Filter} {p : RelativePeriod}

/-! ## what a filter is kept as -/

/-- `relative` with a period becomes `between`, all else is kept with its operator and value -/
theorem cases_of_compile? (h : f.compile? = some g) :
    (∃ p, f.AsksFor p ∧ g.op = .between ∧ g.Holds p) ∨
    (∀ p, ¬ f.AsksFor p) ∧ g.op = f.op ∧ g.value = f.value := by
  obtain ⟨column, _, rfl⟩ := Option.map_eq_some_iff.1 h
  split
  · next p ho hp =>
    obtain ⟨x, hx, hxp⟩ := Option.bind_eq_some_iff.1 hp
    exact Or.inl ⟨p, ⟨ho, x, hx, hxp⟩, rfl, rfl⟩
  · next hno =>
    refine Or.inr ⟨?_, rfl, rfl⟩
    rintro p ⟨ho, x, hx, hxp⟩
    exact hno p ho (Option.bind_eq_some_iff.2 ⟨x, hx, hxp⟩)

/-- a window that is kept was asked for, or was there from the start -/
theorem of_holds (h : f.compile? = some g) (hg : g.Holds p) :
    (f.AsksFor p ∧ g.op = .between) ∨ (f.Holds p ∧ g.op = f.op) := by
  rcases cases_of_compile? h with ⟨q, hq, hop, hholds⟩ | ⟨_, hop, hvalue⟩
  · obtain rfl : q = p := FilterValue.window.inj (Option.some.inj (hholds.symm.trans hg))
    exact Or.inl ⟨hq, hop⟩
  · exact Or.inr ⟨hvalue.symm.trans hg, hop⟩

/-! ## filters that pass the check -/

/-- **Windows that are kept are over time**: of filters that pass the check once compiled, none is
left with the operator `relative`, and what holds a window has a temporal column.  It is `between`
if the window was asked for; a window that was there from the start stays under its operator. -/
theorem windows_of_checkFilters {fs : List Filter} {v : View}
    (h : v.checkFilters (compile fs) = []) :
    ∀ g ∈ compile fs, g.op ≠ .relative ∧ ∀ p, g.Holds p →
      v.Resolves g.column .temporal ∧
      ∀ f ∈ fs, f.compile? = some g →
        (f.AsksFor p ∧ g.op = .between) ∨ (f.Holds p ∧ g.op = f.op) := by
  intro g hg
  obtain ⟨k, hk, hop, hwindow⟩ := View.checkFilters_eq_nil_iff.1 h g hg
  refine ⟨hop, fun p hp => ⟨?_, fun f _ hf => of_holds hf hp⟩⟩
  obtain rfl : k = .temporal := hwindow p hp
  exact hk

/-- the sales of the last week, asked for by its name -/
def lastWeek : Filter :=
  { column := " sold_at ", op := .relative, value := some (.scalar (.str "last_7_days")) }

theorem windows_of_checkFilters_lastWeek :
    let v : View := [⟨"sold_at", .temporal⟩]
    let g := within "sold_at" .last7Days
    v.checkFilters (compile [lastWeek]) = [] ∧
    g ∈ compile [lastWeek] ∧ lastWeek.compile? = some g ∧ g.Holds .last7Days ∧
    v.Resolves "sold_at" .temporal ∧ lastWeek.AsksFor .last7Days := by
  intro v g
  have h : v.checkFilters (compile [lastWeek]) = [] := by decide +kernel
  have hg : lastWeek.compile? = some g := by decide +kernel
  have hmem : g ∈ compile [lastWeek] := List.mem_filterMap.2 ⟨_, List.mem_singleton.2 rfl, hg⟩
  obtain ⟨_, hwindow⟩ := windows_of_checkFilters h g hmem
  obtain ⟨hcolumn, hfrom⟩ := hwindow .last7Days rfl
  rcases hfrom lastWeek (List.mem_singleton.2 rfl) hg with ⟨hasks, _⟩ | ⟨_, hop⟩
  · exact ⟨h, hmem, hg, rfl, hcolumn, hasks⟩
  · cases hop

/-- a window under another operator passes, and is kept under it -/
theorem not_between_of_checkFilters_today :
    let v : View := [⟨"sold_at", .temporal⟩]
    let f : Filter := { column := "sold_at", op := .eq, value := some (.window .today) }
    v.checkFilters (compile [f]) = [] ∧ f ∈ compile [f] ∧ f.Holds .today ∧ f.op ≠ .between := by
  refine ⟨by decide +kernel, by decide +kernel, rfl, by decide⟩

end Filter

end WidgetBoard
