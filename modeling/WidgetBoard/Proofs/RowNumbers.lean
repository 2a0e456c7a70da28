import WidgetBoard.Config.Check

/-!
# Violations in rows

The rows of a statement are checked one after the other, and each violation is marked with the
number of its row.  What is said of a row depends on that row alone.

* `Violation.row?`         the row that a violation is marked with;
* `Violation.withRow n`    the same violation in row `n`;
* `View.TellsRows v c xs`  what is to be known of the violations `xs` of the statement `c`.

Main statement: `View.tellsRows_check`.  It rests on three facts about the rows from number `n` on,
each by induction on the rows: which numbers are given, in which order, and what is found under one
of them.
-/

namespace WidgetBoard

namespace Violation

def row? : Violation → Option Nat
  | .inRow n _ => some n
  | _ => none

/-- a violation that is in no row stays in none -/
def withRow (n : Nat) : Violation → Violation
  | .inRow _ x => .inRow n x
  | x => x

theorem filterMap_row?_map_inRow (n : Nat) (xs : List Violation) :
    (xs.map (inRow n)).filterMap row? = xs.map fun _ => n := by
  rw [List.filterMap_map, ← List.filterMap_eq_map]
  rfl

theorem filter_row?_map_inRow (n m : Nat) (xs : List Violation) :
    (xs.map (inRow n)).filter (fun x => x.row? = some m)
      = if n = m then xs.map (inRow n) else [] := by
  by_cases h : n = m
  · rw [if_pos h, List.filter_eq_self]
    exact List.forall_mem_map.2 fun x _ => decide_eq_true (congrArg some h)
  · rw [if_neg h, List.filter_eq_nil_iff]
    exact List.forall_mem_map.2 fun x _ => by simpa [row?] using h

end Violation

namespace View

open Violation

/-! ## the rows from a number on -/

section

variable {v : View} {n i : Nat} {r : StatementRow} {rs : List StatementRow} {x : Violation}

theorem exists_row_of_mem_checkRows (h : x ∈ v.checkRows n rs) :
    ∃ i < rs.length, x.row? = some (n + i) := by
  induction rs generalizing n with
  | nil => exact nomatch h
  | cons r rs ih =>
    rcases List.mem_append.1 h with h | h
    · obtain ⟨y, _, rfl⟩ := List.mem_map.1 h
      exact ⟨0, Nat.succ_pos _, rfl⟩
    · obtain ⟨i, hi, hx⟩ := ih h
      exact ⟨i + 1, Nat.succ_lt_succ hi, by rw [hx, Nat.add_right_comm, Nat.add_assoc]⟩

theorem pairwise_row?_checkRows (v : View) (n : Nat) (rs : List StatementRow) :
    ((v.checkRows n rs).filterMap row?).Pairwise (· ≤ ·) := by
  induction rs generalizing n with
  | nil => exact .nil
  | cons r rs ih =>
    rw [checkRows, List.filterMap_append, filterMap_row?_map_inRow, List.pairwise_append]
    refine ⟨?_, ih (n + 1), fun a ha b hb => ?_⟩
    · exact List.pairwise_map.2 (List.pairwise_of_forall fun _ _ => Nat.le_refl n)
    · -- all that follows is in a later row
      obtain ⟨_, _, rfl⟩ := List.mem_map.1 ha
      obtain ⟨y, hy, hb⟩ := List.mem_filterMap.1 hb
      obtain ⟨i, _, hi⟩ := exists_row_of_mem_checkRows hy
      obtain rfl := Option.some.inj (hi.symm.trans hb)
      omega

theorem filter_row?_checkRows (h : rs[i]? = some r) :
    (v.checkRows n rs).filter (fun x => x.row? = some (n + i))
      = (v.checkRow r).map (.inRow (n + i)) := by
  induction rs generalizing n i with
  | nil => exact nomatch h
  | cons s rs ih =>
    rw [checkRows, List.filter_append, filter_row?_map_inRow]
    cases i with
    | zero =>
      obtain rfl := Option.some.inj h
      have hlater : (v.checkRows (n + 1) rs).filter (fun x => x.row? = some (n + 0)) = [] := by
        refine List.filter_eq_nil_iff.2 fun x hx => ?_
        obtain ⟨j, _, hj⟩ := exists_row_of_mem_checkRows hx
        simp only [hj, decide_eq_true_eq, Option.some.injEq]
        omega
      rw [hlater, List.append_nil]
      exact if_pos rfl
    | succ i =>
      have hnumber : n + (i + 1) = n + 1 + i := by omega
      rw [if_neg (by omega), List.nil_append, hnumber]
      exact ih h

end

/-! ## statements -/

section

variable {v : View} {c : StatementConfig} {f : Filter} {fs : List Filter} {x : Violation}

theorem of_mem_checkFilter (h : x ∈ v.checkFilter f) :
    x = .unknownColumn f.column ∨ x = .periodInvalid f.column
      ∨ x = .windowNotTemporal f.column := by
  unfold checkFilter at h
  split at h
  · exact Or.inl (List.mem_singleton.1 h)
  · split at h
    · exact Or.inr (Or.inl (List.mem_singleton.1 h))
    · split at h
      · exact Or.inr (Or.inr (List.mem_singleton.1 h))
      · exact nomatch h

/-- filters belong to the widget, not to a row -/
theorem of_mem_checkFilters (h : x ∈ v.checkFilters fs) :
    x.row? = none ∧ x ≠ .statementResultRequired := by
  obtain ⟨f, _, hx⟩ := List.mem_flatMap.1 h
  rcases of_mem_checkFilter hx with rfl | rfl | rfl <;> exact ⟨rfl, nofun⟩

theorem check_statement_of_rows (v : View) (h : c.rows ≠ []) :
    (Config.statement c).check v
      = (if c.rows.any (·.isResult) then [] else [.statementResultRequired])
        ++ (v.checkRows 1 c.rows ++ v.checkFilters c.filters) := by
  show v.checkStatement c ++ _ = _
  rw [checkStatement, if_neg (by simpa using h), List.append_assoc]
  rfl

/-- what is in a row at all was found by the check of the rows -/
theorem filter_isSome_row?_check (v : View) (c : StatementConfig) :
    ((Config.statement c).check v).filter (·.row?.isSome) = v.checkRows 1 c.rows := by
  have hfilters : (v.checkFilters c.filters).filter (·.row?.isSome) = [] := by
    refine List.filter_eq_nil_iff.2 fun x hx => ?_
    simp [(of_mem_checkFilters hx).1]
  have hrows : (v.checkRows 1 c.rows).filter (·.row?.isSome) = v.checkRows 1 c.rows := by
    refine List.filter_eq_self.2 fun x hx => ?_
    obtain ⟨i, _, hi⟩ := exists_row_of_mem_checkRows hx
    rw [hi]
    rfl
  by_cases h : c.rows = []
  · show (v.checkStatement c ++ v.checkFilters c.filters).filter _ = _
    rw [List.filter_append, hfilters, checkStatement, h]
    rfl
  · rw [check_statement_of_rows v h, List.filter_append, List.filter_append, hfilters, hrows,
      List.append_nil]
    split <;> rfl

theorem filter_row?_check (v : View) (c : StatementConfig) (n : Nat) :
    ((Config.statement c).check v).filter (fun x => x.row? = some n)
      = (v.checkRows 1 c.rows).filter fun x => x.row? = some n := by
  rw [← filter_isSome_row?_check, List.filter_filter]
  refine List.filter_congr fun x _ => ?_
  cases x.row? <;> simp

theorem filterMap_row?_check (v : View) (c : StatementConfig) :
    ((Config.statement c).check v).filterMap row? = (v.checkRows 1 c.rows).filterMap row? := by
  rw [← filter_isSome_row?_check, List.filterMap_filter]
  refine congrArg (List.filterMap · _) (funext fun x => ?_)
  cases x.row? <;> rfl

/-- neither a row nor a filter asks for a result row -/
theorem statementResultRequired_not_mem (v : View) (rs : List StatementRow) (fs : List Filter) :
    Violation.statementResultRequired ∉ v.checkRows 1 rs ++ v.checkFilters fs := by
  intro h
  rcases List.mem_append.1 h with h | h
  · obtain ⟨i, _, hi⟩ := exists_row_of_mem_checkRows h
    exact nomatch hi
  · exact (of_mem_checkFilters h).2 rfl

/-- the violations `xs` of the statement `c`: under each number stands what is wrong with that row,
be it the only one -/
structure TellsRows (v : View) (c : StatementConfig) (xs : List Violation) : Prop where
  alone : ∀ i r, c.rows[i]? = some r → ∀ base fs,
    xs.filter (fun x => x.row? = some (i + 1))
      = (((Config.statement ⟨[r], base, fs⟩).check v).filter (·.row?.isSome)).map (withRow (i + 1))
  within : ∀ x ∈ xs, ∀ n ∈ x.row?, 1 ≤ n ∧ n ≤ c.rows.length
  ordered : (xs.filterMap row?).Pairwise (· ≤ ·)
  required : c.rows ≠ [] → (∀ r ∈ c.rows, r.rowType ≠ .result) →
    xs.head? = some .statementResultRequired ∧ xs.count .statementResultRequired = 1
  satisfied : (∃ r ∈ c.rows, r.rowType = .result) → .statementResultRequired ∉ xs
  empty : c.rows = [] → xs = .statementRowsRequired :: v.checkFilters c.filters

/-- **Violations of a statement point at the right rows**, for every statement over every view. -/
theorem tellsRows_check (v : View) (c : StatementConfig) :
    v.TellsRows c ((Config.statement c).check v) where
  alone i r hr base fs := by
    have hsingle : v.checkRows 1 [r] = (v.checkRow r).map (.inRow 1) := List.append_nil _
    rw [filter_row?_check, filter_isSome_row?_check, hsingle, List.map_map, Nat.add_comm i 1,
      filter_row?_checkRows hr]
    rfl
  within x hx n hn := by
    have hrow : x ∈ v.checkRows 1 c.rows := by
      rw [← filter_isSome_row?_check]
      exact List.mem_filter.2 ⟨hx, Option.isSome_of_mem hn⟩
    obtain ⟨i, hi, hxi⟩ := exists_row_of_mem_checkRows hrow
    obtain rfl := Option.some.inj (hxi.symm.trans hn)
    omega
  ordered := by
    rw [filterMap_row?_check]
    exact pairwise_row?_checkRows v 1 c.rows
  required hne hno := by
    have hany : c.rows.any (·.isResult) = false := by
      simpa [StatementRow.isResult] using hno
    rw [check_statement_of_rows v hne, hany]
    refine ⟨rfl, ?_⟩
    exact List.count_cons_self.trans
      (congrArg (· + 1) (List.count_eq_zero.2 (statementResultRequired_not_mem v _ _)))
  satisfied hresult := by
    have hne : c.rows ≠ [] := by
      rintro h
      obtain ⟨r, hr, _⟩ := hresult
      exact nomatch h ▸ hr
    have hany : c.rows.any (·.isResult) = true := by
      simpa [StatementRow.isResult] using hresult
    rw [check_statement_of_rows v hne, hany]
    exact statementResultRequired_not_mem v _ _
  empty h := by
    show v.checkStatement c ++ _ = _
    rw [checkStatement, h]
    rfl

end

end View

end WidgetBoard
