import WidgetBoard.Text.Blank

/-!
# Names

A *name* is a text that trimming leaves alone and that is not blank.  Names are what the cleaning
of drafts lets through: `nonBlank?` gives names, and gives a name back as it is.

* `IsBlank s`     nothing but blanks, or nothing at all;
* `IsTrimmed s`   no blank at either end;
* `IsName s`      trimmed and not blank.

`isTrimmed_iff`, `allBlank_iff` and `nonBlank?_self_iff` tie them to `trim`, `allBlank` and
`nonBlank?`.
-/

namespace WidgetBoard.Text

def IsBlank (s : String) : Prop := ∀ c ∈ s.toList, isBlank c = true

/-- no blank at either end -/
def IsTrimmed (s : String) : Prop :=
  (∀ c ∈ s.toList.head?, isBlank c = false) ∧ ∀ c ∈ s.toList.getLast?, isBlank c = false

def IsName (s : String) : Prop := IsTrimmed s ∧ ¬ IsBlank s

/-! ## lists of characters -/

theorem dropEndBlanks_eq_nil_iff (cs : List Char) :
    dropEndBlanks cs = [] ↔ ∀ c ∈ cs, isBlank c = true := by
  induction cs with
  | nil => simp [dropEndBlanks]
  | cons c cs ih =>
    rw [List.forall_mem_cons, ← ih]
    by_cases h : dropEndBlanks cs = []
    · simp [dropEndBlanks, h]
    · rw [dropEndBlanks_cons_of_ne_nil c h]
      simp [h]

theorem trimChars_eq_nil_iff (cs : List Char) :
    trimChars cs = [] ↔ ∀ c ∈ cs, isBlank c = true := by
  rw [trimChars, dropEndBlanks_eq_nil_iff]
  induction cs with
  | nil => simp
  | cons c cs ih =>
    by_cases hc : isBlank c = true
    · rw [List.dropWhile_cons_of_pos hc, ih, List.forall_mem_cons]
      simp [hc]
    · rw [List.dropWhile_cons_of_neg hc]

/-- what is left when blanks at the end are dropped does not end in one -/
theorem getLast?_dropEndBlanks (cs : List Char) :
    ∀ c ∈ (dropEndBlanks cs).getLast?, isBlank c = false := by
  induction cs with
  | nil => simp [dropEndBlanks]
  | cons d ds ih =>
    by_cases h : dropEndBlanks ds = []
    · by_cases hd : isBlank d = true <;> simp [dropEndBlanks, h, hd]
    · rw [dropEndBlanks_cons_of_ne_nil d h, List.getLast?_cons_of_ne_nil h]
      exact ih

theorem dropEndBlanks_eq_self {cs : List Char}
    (h : ∀ c ∈ cs.getLast?, isBlank c = false) : dropEndBlanks cs = cs := by
  induction cs with
  | nil => rfl
  | cons d ds ih =>
    cases ds with
    | nil => simp [dropEndBlanks, h d rfl]
    | cons e es =>
      have hes : dropEndBlanks (e :: es) = e :: es := ih (by simpa using h)
      rw [dropEndBlanks_cons_of_ne_nil d (by rw [hes]; simp), hes]

theorem head?_trimChars (cs : List Char) : ∀ c ∈ (trimChars cs).head?, isBlank c = false := by
  unfold trimChars
  cases h : cs.dropWhile isBlank with
  | nil => simp [dropEndBlanks]
  | cons d ds =>
    have hd := List.head?_dropWhile_not isBlank cs
    rw [h] at hd
    have hd' : isBlank d = false := by simpa using hd
    rw [head?_dropEndBlanks d ds hd']
    intro c hc
    exact Option.some.inj hc ▸ hd'

/-! ## texts -/

theorem isTrimmed_trim (s : String) : IsTrimmed (trim s) := by
  simp only [IsTrimmed, trim, String.toList_ofList]
  exact ⟨head?_trimChars _, getLast?_dropEndBlanks _⟩

theorem isTrimmed_iff {s : String} : IsTrimmed s ↔ trim s = s := by
  constructor
  · intro ⟨h1, h2⟩
    have hd : s.toList.dropWhile isBlank = s.toList := dropWhile_eq_self_of_head? h1
    rw [trim, trimChars, hd, dropEndBlanks_eq_self h2, String.ofList_toList]
  · intro h
    exact h ▸ isTrimmed_trim s

theorem allBlank_iff {s : String} : allBlank s = true ↔ IsBlank s := by
  have h : trim s = "" ↔ trimChars s.toList = [] := by
    rw [trim, ← String.ofList_nil, String.ofList_inj]
  rw [allBlank, beq_iff_eq, h, trimChars_eq_nil_iff]
  rfl

theorem nonBlank?_self_iff {s : String} : nonBlank? s = some s ↔ IsName s := by
  rw [nonBlank?_eq_some_iff, IsName, isTrimmed_iff, ← allBlank_iff, allBlank, beq_iff_eq]
  constructor
  · rintro ⟨h, hne⟩
    exact ⟨h, h.symm ▸ hne⟩
  · rintro ⟨h, hne⟩
    exact ⟨h, h ▸ hne⟩

theorem nonBlank?_trim (s : String) : nonBlank? (trim s) = nonBlank? s := by
  rw [nonBlank?, nonBlank?, allBlank_trim, trim_trim]

theorem nonBlank?_of_not_isBlank {s : String} (h : ¬ IsBlank s) : nonBlank? s = some (trim s) := by
  rw [nonBlank?, if_neg (mt allBlank_iff.1 h)]

theorem not_isBlank_of_nonBlank? {s t : String} (h : nonBlank? s = some t) : ¬ IsBlank s := by
  intro hs
  rw [nonBlank?, if_pos (allBlank_iff.2 hs)] at h
  cases h

theorem isName_of_nonBlank? {s t : String} (h : nonBlank? s = some t) : IsName t :=
  nonBlank?_self_iff.1 (nonBlank?_of_eq_some h)

/-- a trimmed text is empty or a name -/
theorem IsTrimmed.nonBlank? {s : String} (h : IsTrimmed s) :
    nonBlank? s = if s = "" then none else some s := by
  rw [Text.nonBlank?, allBlank, isTrimmed_iff.1 h]
  by_cases he : s = "" <;> simp [he]

theorem IsName.ne_empty {s : String} (h : IsName s) : s ≠ "" :=
  (nonBlank?_eq_some_iff.1 (nonBlank?_self_iff.2 h)).2

/-! ## optional names -/

theorem isName_of_mem_bind {o : Option String} {t : String} (h : t ∈ o.bind nonBlank?) :
    IsName t := by
  obtain ⟨s, _, hs⟩ := Option.bind_eq_some_iff.1 h
  exact isName_of_nonBlank? hs

theorem bind_nonBlank?_eq_self {o : Option String} (h : ∀ s ∈ o, IsName s) :
    o.bind nonBlank? = o := by
  cases o with
  | none => rfl
  | some s => exact nonBlank?_self_iff.2 (h s rfl)

end WidgetBoard.Text
