import WidgetBoard.Config.Check

/-!
# What the check asks of a view

The check of a configuration puts questions to the view, about one column each.  Which questions
they are depends on the configuration alone, and the view answers each of them with at most one
violation.

* `Violation.missing?`   the column that a violation reports as missing;
* `Use`                  what a column is wanted for;
* `Question`             a violation that is settled without the view, or a column and its use;
* `View.answers`         what a view has to say to a list of questions;
* `Config.questions`     all that the check asks, in its order.

Main statements: `Config.check_eq_answers` (the check is the answers to its questions),
`View.missing_answers` (what is reported as missing is what was asked for and is not there).
-/

namespace WidgetBoard

open Text

/-- the column that is reported as missing, in a row of a statement too -/
def Violation.missing? : Violation → Option String
  | .unknownColumn s => some s
  | .inRow _ x => x.missing?
  | _ => none

/-! ## uses of a column -/

/-- what a column is wanted for -/
inductive Use where
  /-- any column will do -/
  | selection
  | metric (op : AggOp)
  | compositeTime
  | lineTime
  | grouping
  | bucket
  | window
  /-- no column will do: the period of the filter is unknown -/
  | period
  deriving DecidableEq, Repr

/-- the violation if a column of that kind will not do -/
def Use.misfit? (s : String) (k : ColumnKind) : Use → Option Violation
  | .selection => none
  | .metric op =>
    if op.requiresNumeric && k != .numeric then some (.nonNumericColumn op s) else none
  | .compositeTime => if k = .temporal then none else some (.compositeTimeNotTemporal s)
  | .lineTime => if k = .temporal then none else some (.lineTimeNotTemporal s)
  | .grouping => if k.isCategorical then none else some (.dimensionNotCategorical s)
  | .bucket => if k = .temporal then none else some (.bucketNotTemporal s)
  | .window => if k = .temporal then none else some (.windowNotTemporal s)
  | .period => some (.periodInvalid s)

/-- a column of the wrong kind is not missing -/
theorem Use.missing?_misfit? {s : String} {k : ColumnKind} {use : Use} {x : Violation}
    (h : use.misfit? s k = some x) : x.missing? = none := by
  cases use with
  | selection => cases h
  | period =>
    cases h
    rfl
  | metric | compositeTime | lineTime | grouping | bucket | window =>
    simp only [misfit?, Option.ite_none_left_eq_some, Option.ite_none_right_eq_some,
      Option.some.injEq] at h
    obtain ⟨_, rfl⟩ := h
    rfl

/-! ## questions -/

inductive Question where
  /-- a violation over every view, so not one of a missing column -/
  | settled (x : Violation) (h : x.missing? = none := by exact id rfl)
  | column (name : String) (use : Use)
  | inRow (row : Nat) (q : Question)

namespace Question

/-- the column that a question is about -/
def column? : Question → Option String
  | .settled _ _ => none
  | .column s _ => some s
  | .inRow _ q => q.column?

def columns (qs : List Question) : List String :=
  qs.filterMap column?

theorem columns_nil : columns [] = [] := rfl

theorem columns_settled (x : Violation) (h : x.missing? = none) : columns [.settled x h] = [] := rfl

theorem columns_append (ps qs : List Question) : columns (ps ++ qs) = columns ps ++ columns qs :=
  List.filterMap_append

theorem columns_flatMap {α : Type} (f : α → List Question) (l : List α) :
    columns (l.flatMap f) = l.flatMap fun a => columns (f a) :=
  List.filterMap_flatMap

theorem columns_ite {p : Prop} [Decidable p] (ps qs : List Question) :
    columns (if p then ps else qs) = if p then columns ps else columns qs :=
  apply_ite columns p ps qs

theorem columns_inRow (n : Nat) (qs : List Question) : columns (qs.map (.inRow n)) = columns qs := by
  rw [columns, columns, List.filterMap_map]
  rfl

end Question

namespace View

def answer? (v : View) : Question → Option Violation
  | .settled x _ => some x
  | .column s use =>
    match v.kindOf? s with
    | none => some (.unknownColumn s)
    | some k => use.misfit? s k
  | .inRow n q => (v.answer? q).map (.inRow n)

def answers (v : View) (qs : List Question) : List Violation :=
  qs.filterMap v.answer?

section

variable (v : View)

theorem answers_nil : v.answers [] = [] := rfl

theorem answers_settled (x : Violation) (h : x.missing? = none) :
    v.answers [.settled x h] = [x] := rfl

theorem answers_column (s : String) (use : Use) :
    v.answers [.column s use] =
      match v.kindOf? s with
      | none => [.unknownColumn s]
      | some k => (use.misfit? s k).toList := by
  rw [answers, List.filterMap_cons, List.filterMap_nil, answer?]
  cases v.kindOf? s with
  | none => rfl
  | some k => cases use.misfit? s k <;> rfl

theorem answers_append (ps qs : List Question) :
    v.answers (ps ++ qs) = v.answers ps ++ v.answers qs :=
  List.filterMap_append

theorem answers_flatMap {α : Type} (f : α → List Question) (l : List α) :
    v.answers (l.flatMap f) = l.flatMap fun a => v.answers (f a) :=
  List.filterMap_flatMap

theorem answers_map {α : Type} (f : α → Question) (l : List α) :
    v.answers (l.map f) = l.flatMap fun a => v.answers [f a] := by
  rw [← List.flatMap_singleton' (l.map f), answers_flatMap, List.flatMap_map]

theorem answers_inRow (n : Nat) (qs : List Question) :
    v.answers (qs.map (.inRow n)) = (v.answers qs).map (.inRow n) := by
  rw [answers, answers, List.filterMap_map, List.map_filterMap]
  rfl

theorem answers_ite {p : Prop} [Decidable p] (ps qs : List Question) :
    v.answers (if p then ps else qs) = if p then v.answers ps else v.answers qs :=
  apply_ite v.answers p ps qs

end

end View

/-! ## the questions of a configuration -/

def Metric.questions (m : Metric) : List Question :=
  match m.column.bind nonBlank? with
  | none => if m.op.requiresColumn then [.settled (.metricColumnRequired m.op)] else []
  | some s => [.column s (.metric m.op)]

def CompositeMetric.question (c : CompositeMetric) : Question :=
  match nonBlank? c.timeColumn with
  | none => .settled .compositeTimeRequired
  | some s => .column s .compositeTime

def KpiMeasure.questions : KpiMeasure → List Question
  | .single m => m.questions
  | .composite c => c.innerMetric.questions ++ [c.question]

def LineLabels.questions (l : LineLabels) : List Question :=
  (if minSensitivity ≤ l.sensitivity ∧ l.sensitivity ≤ maxSensitivity then []
    else [.settled (.sensitivityOutOfRange l.sensitivity)])
  ++ (if l.window = 3 ∨ l.window = 5 ∨ l.window = 7 then []
      else [.settled (.labelWindowInvalid l.window)])
  ++ (if 1 ≤ l.minGap then [] else [.settled .labelGapInvalid])

def LineConfig.timeQuestion (c : LineConfig) : Question :=
  match c.time.bind fun t => nonBlank? t.column with
  | none => .settled .lineTimeRequired
  | some s => .column s .lineTime

def LineConfig.questions (c : LineConfig) : List Question :=
  [c.timeQuestion]
  ++ (if c.metrics.length = 1 ∨ c.metrics.length = 2 then []
      else [.settled (.lineMetricCount c.metrics.length)])
  ++ c.metrics.flatMap Metric.questions
  ++ c.labels.questions

def Dimension.question (kind : WidgetKind) : Dimension → Question
  | .plain s => .column s .grouping
  | .bucket _ s =>
    if kind.allowsBucket then .column s .bucket else .settled (.bucketNotAllowed kind)

/-- nothing is asked about dimensions when there are several -/
def ChartConfig.questions (kind : WidgetKind) (c : ChartConfig) : List Question :=
  (if c.dimensions.length = 1 then []
    else [.settled (.dimensionCount kind c.dimensions.length)])
  ++ (if c.metrics.length = 1 then [] else [.settled (.metricCount kind c.metrics.length)])
  ++ (match c.dimensions with
      | [d] => [d.question kind]
      | _ => [])
  ++ c.metrics.flatMap Metric.questions

def TableConfig.questions (c : TableConfig) : List Question :=
  (if c.columns.isEmpty then [.settled .tableColumnsRequired] else [])
  ++ c.columns.map (.column · .selection)
  ++ c.metrics.flatMap Metric.questions

def TextStyle.questions (style : TextStyle) : List Question :=
  if allBlank style.content then [.settled .textContentRequired] else []

def StatementRow.questions (r : StatementRow) : List Question :=
  (if allBlank r.title then [.settled .rowTitleRequired] else [])
  ++ (if r.metrics.isEmpty then [.settled .rowMetricsRequired] else [])
  ++ r.metrics.flatMap Metric.questions

/-- of the rows from number `n` on -/
def rowQuestions (n : Nat) : List StatementRow → List Question
  | [] => []
  | r :: rs => r.questions.map (.inRow n) ++ rowQuestions (n + 1) rs

def StatementConfig.questions (c : StatementConfig) : List Question :=
  if c.rows.isEmpty then [.settled .statementRowsRequired]
  else
    (if c.rows.any (·.isResult) then [] else [.settled .statementResultRequired])
    ++ rowQuestions 1 c.rows

def Filter.use (f : Filter) : Use :=
  if f.op = .relative then .period else if f.isWindow then .window else .selection

def Filter.question (f : Filter) : Question :=
  .column f.column f.use

namespace Config

def bodyQuestions : Config → List Question
  | .kpi c => c.measure.questions
  | .line c => c.questions
  | .bar c => c.questions .bar
  | .column c => c.questions .column
  | .donut c => c.questions .donut
  | .table c => c.questions
  | .text style => style.questions
  | .statement c => c.questions

def questions (c : Config) : List Question :=
  c.bodyQuestions ++ c.filters.map Filter.question

end Config

/-! ## each part of the check is what its questions are answered with -/

namespace View

section

variable (v : View)

theorem checkTemporal_eq_answers {use : Use} {notTemporal : String → Violation} (s : String)
    (h : ∀ k, use.misfit? s k = if k = .temporal then none else some (notTemporal s)) :
    v.checkTemporal notTemporal s = v.answers [.column s use] := by
  rw [checkTemporal, answers_column]
  cases v.kindOf? s with
  | none => rfl
  | some k =>
    show _ = (use.misfit? s k).toList
    rw [h]
    cases k <;> rfl

theorem checkMetric_eq_answers (m : Metric) : v.checkMetric m = v.answers m.questions := by
  simp only [checkMetric, Metric.questions]
  cases m.column.bind nonBlank? with
  | none => cases m.op.requiresColumn <;> rfl
  | some s =>
    simp only [answers_column, Use.misfit?]
    cases v.kindOf? s with
    | none => rfl
    | some k =>
      dsimp only
      split <;> rfl

theorem checkMetrics_eq_answers (ms : List Metric) :
    v.checkMetrics ms = v.answers (ms.flatMap Metric.questions) := by
  rw [checkMetrics, answers_flatMap]
  exact congrArg (ms.flatMap ·) (funext v.checkMetric_eq_answers)

theorem checkKpi_eq_answers (c : KpiConfig) : v.checkKpi c = v.answers c.measure.questions := by
  obtain ⟨measure, filters⟩ := c
  cases measure with
  | single m =>
    show v.checkMetric m ++ [] = v.answers m.questions
    rw [List.append_nil, checkMetric_eq_answers]
  | composite c =>
    show v.checkMetric c.innerMetric ++ v.checkComposite c
      = v.answers (c.innerMetric.questions ++ [c.question])
    have htime : v.checkComposite c = v.answers [c.question] := by
      rw [checkComposite, CompositeMetric.question]
      cases nonBlank? c.timeColumn with
      | none => rfl
      | some s => exact v.checkTemporal_eq_answers s fun _ => rfl
    rw [answers_append, checkMetric_eq_answers, htime]

theorem checkLabels_eq_answers (l : LineLabels) : checkLabels l = v.answers l.questions := by
  simp only [checkLabels, LineLabels.questions, answers_append, answers_ite, answers_nil,
    answers_settled]

theorem checkLine_eq_answers (c : LineConfig) : v.checkLine c = v.answers c.questions := by
  have htime : v.checkLineTime c.time = v.answers [c.timeQuestion] := by
    rw [checkLineTime, LineConfig.timeQuestion]
    cases c.time.bind fun t => nonBlank? t.column with
    | none => rfl
    | some s => exact v.checkTemporal_eq_answers s fun _ => rfl
  simp only [checkLine, LineConfig.questions, answers_append, answers_ite, answers_nil,
    answers_settled, htime, checkMetrics_eq_answers, checkLabels_eq_answers v]

theorem checkDimension_eq_answers (kind : WidgetKind) (d : Dimension) :
    v.checkDimension kind d = v.answers [d.question kind] := by
  cases d with
  | plain s =>
    rw [checkDimension, Dimension.question, answers_column]
    cases v.kindOf? s with
    | none => rfl
    | some k =>
      simp only [Use.misfit?]
      split <;> rfl
  | bucket g s =>
    rw [checkDimension, Dimension.question]
    split
    · exact v.checkTemporal_eq_answers s fun _ => rfl
    · rfl

theorem checkChart_eq_answers (kind : WidgetKind) (c : ChartConfig) :
    v.checkChart kind c = v.answers (c.questions kind) := by
  simp only [checkChart, ChartConfig.questions, answers_append, answers_ite, answers_nil,
    answers_settled, checkMetrics_eq_answers]
  cases c.dimensions with
  | nil => rfl
  | cons d ds =>
    cases ds with
    | nil => simp only [checkDimension_eq_answers]
    | cons _ _ => rfl

theorem checkTable_eq_answers (c : TableConfig) : v.checkTable c = v.answers c.questions := by
  have hexists : v.checkExists = fun s => v.answers [.column s .selection] := by
    funext s
    rw [checkExists, answers_column]
    cases v.kindOf? s <;> rfl
  simp only [checkTable, TableConfig.questions, answers_append, answers_ite, answers_nil,
    answers_settled, answers_map, checkMetrics_eq_answers, hexists]

theorem checkText_eq_answers (style : TextStyle) : checkText style = v.answers style.questions := by
  simp only [checkText, TextStyle.questions, answers_ite, answers_nil, answers_settled]

theorem checkRow_eq_answers (r : StatementRow) : v.checkRow r = v.answers r.questions := by
  simp only [checkRow, StatementRow.questions, answers_append, answers_ite, answers_nil,
    answers_settled, checkMetrics_eq_answers]

theorem checkRows_eq_answers (n : Nat) (rs : List StatementRow) :
    v.checkRows n rs = v.answers (rowQuestions n rs) := by
  induction rs generalizing n with
  | nil => rfl
  | cons r rs ih =>
    rw [checkRows, rowQuestions, answers_append, answers_inRow, checkRow_eq_answers, ih]

theorem checkStatement_eq_answers (c : StatementConfig) :
    v.checkStatement c = v.answers c.questions := by
  simp only [checkStatement, StatementConfig.questions, answers_append, answers_ite, answers_nil,
    answers_settled, checkRows_eq_answers]

theorem checkFilter_eq_answers (f : Filter) : v.checkFilter f = v.answers [f.question] := by
  rw [checkFilter, Filter.question, answers_column]
  cases v.kindOf? f.column with
  | none => rfl
  | some k =>
    simp only [Filter.use]
    by_cases hr : f.op = .relative
    · rw [if_pos hr, if_pos hr]
      rfl
    · rw [if_neg hr, if_neg hr]
      cases f.isWindow <;> cases k <;> rfl

theorem checkFilters_eq_answers (fs : List Filter) :
    v.checkFilters fs = v.answers (fs.map Filter.question) := by
  rw [checkFilters, answers_map]
  exact congrArg (fs.flatMap ·) (funext v.checkFilter_eq_answers)

end

end View

/-- **The check is what the view answers to the questions of the configuration**, in their order;
the questions do not depend on the view. -/
theorem Config.check_eq_answers (c : Config) (v : View) : c.check v = v.answers c.questions := by
  have hbody : c.checkBody v = v.answers c.bodyQuestions := by
    cases c with
    | kpi c => exact v.checkKpi_eq_answers c
    | line c => exact v.checkLine_eq_answers c
    | bar c => exact v.checkChart_eq_answers .bar c
    | column c => exact v.checkChart_eq_answers .column c
    | donut c => exact v.checkChart_eq_answers .donut c
    | table c => exact v.checkTable_eq_answers c
    | text style => exact v.checkText_eq_answers style
    | statement c => exact v.checkStatement_eq_answers c
  rw [check, questions, View.answers_append, hbody, View.checkFilters_eq_answers]

/-! ## missing columns -/

namespace View

theorem missing?_answer? (v : View) (q : Question) :
    (v.answer? q).bind Violation.missing? = q.column?.filter fun s => (v.kindOf? s).isNone := by
  induction q with
  | settled x h => exact h
  | column s use =>
    rw [answer?, Question.column?]
    cases hk : v.kindOf? s with
    | none =>
      show some s = Option.filter (fun s => (v.kindOf? s).isNone) (some s)
      rw [Option.filter_some, hk]
      rfl
    | some k =>
      show (use.misfit? s k).bind Violation.missing?
        = Option.filter (fun s => (v.kindOf? s).isNone) (some s)
      rw [Option.filter_some, hk, Option.bind_eq_none_iff.2 fun x hx => Use.missing?_misfit? hx]
      rfl
  | inRow n q ih =>
    rw [answer?, Question.column?, ← ih]
    cases v.answer? q <;> rfl

/-- what is reported as missing is what was asked about and is not there, in order -/
theorem missing_answers (v : View) (qs : List Question) :
    (v.answers qs).filterMap Violation.missing?
      = (Question.columns qs).filter fun s => (v.kindOf? s).isNone := by
  rw [answers, Question.columns, List.filterMap_filterMap, List.filter_filterMap]
  exact congrArg (qs.filterMap ·) (funext v.missing?_answer?)

end View

end WidgetBoard
