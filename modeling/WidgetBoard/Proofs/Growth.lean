import WidgetBoard.Proofs.Defaults
import WidgetBoard.Proofs.Questions

/-!
# Views that grow

A view *grows* when every name that resolves goes on resolving to the same kind.  New names may come
to resolve, so a column that was reported as missing may be reported as one of the wrong kind
instead.  But a question that had no violation for an answer has none over the grown view.

* `View.Grows v w`   what resolves in `v` resolves in `w` to the same kind;
* `View.grows_append`, `View.grows_of_perm`   two ways to grow.

Main statement: `Config.check_of_grows`.
-/

namespace WidgetBoard

namespace View

def Grows (v w : View) : Prop := ∀ s k, v.Resolves s k → w.Resolves s k

variable {v w : View}

/-! ## two ways to grow -/

theorem Resolves.append {s : String} {k : ColumnKind} (h : v.Resolves s k) (more : View) :
    Resolves (v ++ more) s k := by
  induction h with
  | first c v => exact .first c (v ++ more)
  | later hne _ ih => exact .later hne ih

/-- columns that are added behind those of the view change no name that resolves -/
theorem grows_append (v more : View) : v.Grows (v ++ more) := by
  intro s k h
  exact h.append more

/-- columns may change places when no two of them have the same name -/
theorem grows_of_perm (hperm : v.Perm w) (hnodup : (v.map (·.name)).Nodup) : v.Grows w := by
  intro s k h
  obtain ⟨c, hc, rfl, rfl⟩ := h.exists_column
  have hw : (w.map (·.name)).Nodup := (hperm.map _).nodup_iff.1 hnodup
  exact resolves_of_mem hw (hperm.mem_iff.1 hc)

/-! ## answers of a view that grows -/

theorem Grows.kindOf? (h : v.Grows w) (s : String) :
    v.kindOf? s = none ∨ w.kindOf? s = v.kindOf? s := by
  cases hk : v.kindOf? s with
  | none => exact Or.inl rfl
  | some k => exact Or.inr (resolves_iff.1 (h s k (resolves_iff.2 hk)))

/-- an answer stays as it is, unless it reported a missing column -/
theorem Grows.answer? (h : v.Grows w) (q : Question) :
    w.answer? q = v.answer? q ∨ ∃ x, v.answer? q = some x ∧ x.missing?.isSome = true := by
  induction q with
  | settled x hx => exact Or.inl rfl
  | column s use =>
    rcases h.kindOf? s with hk | hk
    · -- the grown view may answer anything here
      right
      refine ⟨.unknownColumn s, ?_, rfl⟩
      rw [View.answer?, hk]
    · left
      rw [View.answer?, View.answer?, hk]
  | inRow n q ih =>
    rcases ih with ih | ⟨x, hx, hmissing⟩
    · left
      rw [View.answer?, View.answer?, ih]
    · right
      refine ⟨.inRow n x, ?_, hmissing⟩
      rw [View.answer?, hx]
      rfl

theorem Grows.isSome_answer? (h : v.Grows w) {q : Question} (hq : (w.answer? q).isSome = true) :
    (v.answer? q).isSome = true := by
  rcases h.answer? q with he | ⟨x, hx, _⟩
  · rwa [he] at hq
  · rw [hx]
    rfl

theorem Grows.length_answers_le (h : v.Grows w) (qs : List Question) :
    (w.answers qs).length ≤ (v.answers qs).length := by
  rw [answers, answers, List.length_filterMap_eq_countP, List.length_filterMap_eq_countP]
  exact List.countP_mono_left fun q _ hq => h.isSome_answer? hq

end View

/-! ## checks over a view that grows -/

/-- **A view that grows breaks no widget**: over it a configuration has at most as many violations
as before, and none if it had none.  So it may still be saved when columns are added behind, or
when columns with distinct names change places. -/
theorem Config.check_of_grows (c : Config) (v : View) :
    (∀ w, v.Grows w →
      (c.check w).length ≤ (c.check v).length ∧ (c.check v = [] → c.check w = [])) ∧
    (∀ more, c.check v = [] → c.check (v ++ more) = []) ∧
    (∀ w, v.Perm w → (v.map (·.name)).Nodup → c.check v = [] → c.check w = []) := by
  have hlength (w : View) (h : v.Grows w) : (c.check w).length ≤ (c.check v).length := by
    rw [check_eq_answers, check_eq_answers]
    exact h.length_answers_le c.questions
  have hnil (w : View) (h : v.Grows w) (hv : c.check v = []) : c.check w = [] := by
    have hle := hlength w h
    rw [hv] at hle
    exact List.eq_nil_of_length_eq_zero (Nat.le_zero.1 hle)
  refine ⟨fun w h => ⟨hlength w h, hnil w h⟩, fun more hv => ?_, fun w hperm hnodup hv => ?_⟩
  · exact hnil (v ++ more) (View.grows_append v more) hv
  · exact hnil w (View.grows_of_perm hperm hnodup) hv

/-- revenue and regions of the last month; nothing in it has been cleaned -/
def monthlyStatement : Config :=
  .statement
    { rows := [{ title := " Sales ", rowType := .result,
                 metrics := [{ op := .sum, column := some " revenue " },
                             { op := .distinctCount, column := some "region" }] }]
      percentBase := none
      filters := [.within "sold_at" .lastMonth] }

theorem Config.check_of_grows_monthlyStatement :
    let v : View := [⟨"revenue", .numeric⟩, ⟨"sold_at", .temporal⟩]
    let w : View := v ++ [⟨"region", .text⟩]
    monthlyStatement.check v = [.inRow 1 (.unknownColumn "region")] ∧
    (monthlyStatement.check w).length ≤ 1 ∧
    monthlyStatement.check w = [] ∧
    monthlyStatement.check (w ++ [⟨"revenue", .text⟩]) = [] ∧
    monthlyStatement.check w.reverse = [] := by
  intro v w
  have hv : monthlyStatement.check v = [.inRow 1 (.unknownColumn "region")] := by decide +kernel
  have hw : monthlyStatement.check w = [] := by decide +kernel
  have hnodup : (w.map (·.name)).Nodup := by decide
  have hle := ((check_of_grows monthlyStatement v).1 w (View.grows_append v _)).1
  rw [hv] at hle
  exact ⟨hv, hle, hw, (check_of_grows monthlyStatement w).2.1 _ hw,
    (check_of_grows monthlyStatement w).2.2 _ w.reverse_perm.symm hnodup hw⟩

end WidgetBoard
