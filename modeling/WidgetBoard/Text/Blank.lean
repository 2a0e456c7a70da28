/-!
# Blank characters and trimming

A character is *blank* when it has the Unicode property `White_Space`.  Names typed by a user are
trimmed of blanks on both sides, and a name of blanks alone counts as no name.

* `isBlank`     the property, as its 25 code points;
* `trim`        a text without the blanks at its two ends;
* `nonBlank?`   the trimmed text, or nothing when that is empty.

Main statements: `trim_trim` (trimming once is enough), `nonBlank?_eq_some_iff` (what `nonBlank?`
gives is trimmed and not empty).
-/

namespace WidgetBoard.Text

/-- Unicode `White_Space`: U+0009–000D, 0020, 0085, 00A0, 1680, 2000–200A, 2028, 2029, 202F,
205F, 3000 -/
def isBlank (c : Char) : Bool :=
  let n := c.toNat
  (9 ≤ n && n ≤ 13) || n == 0x20 || n == 0x85 || n == 0xA0 || n == 0x1680
    || (0x2000 ≤ n && n ≤ 0x200A) || n == 0x2028 || n == 0x2029 || n == 0x202F || n == 0x205F
    || n == 0x3000

/-! ## Trimming a list of characters -/

/-- the characters without the blanks at the end -/
def dropEndBlanks : List Char → List Char
  | [] => []
  | c :: cs =>
    match dropEndBlanks cs with
    | [] => if isBlank c then [] else [c]
    | d :: ds => c :: d :: ds

/-- the characters without the blanks at either end -/
def trimChars (cs : List Char) : List Char :=
  dropEndBlanks (cs.dropWhile isBlank)

/-! ## Texts -/

def trim (s : String) : String :=
  String.ofList (trimChars s.toList)

/-- blanks alone, or nothing at all -/
def allBlank (s : String) : Bool :=
  trim s == ""

def nonBlank? (s : String) : Option String :=
  if allBlank s then none else some (trim s)

/-! ## What trimming leaves -/

theorem dropEndBlanks_cons_of_ne_nil (c : Char) {cs : List Char} (h : dropEndBlanks cs ≠ []) :
    dropEndBlanks (c :: cs) = c :: dropEndBlanks cs := by
  cases e : dropEndBlanks cs with
  | nil => exact absurd e h
  | cons d ds => simp [dropEndBlanks, e]

theorem dropEndBlanks_idem (cs : List Char) :
    dropEndBlanks (dropEndBlanks cs) = dropEndBlanks cs := by
  induction cs with
  | nil => rfl
  | cons c cs ih =>
    by_cases h : dropEndBlanks cs = []
    · by_cases hc : isBlank c = true <;> simp [dropEndBlanks, h, hc]
    · rw [dropEndBlanks_cons_of_ne_nil c h, dropEndBlanks_cons_of_ne_nil c (ih.symm ▸ h), ih]

/-- dropping blanks at the end keeps the first character, unless nothing is left -/
theorem head?_dropEndBlanks (c : Char) (cs : List Char) (h : isBlank c = false) :
    (dropEndBlanks (c :: cs)).head? = some c := by
  simp only [dropEndBlanks]
  split <;> simp [h]

theorem dropWhile_eq_self_of_head? {cs : List Char}
    (h : ∀ c, cs.head? = some c → isBlank c = false) : cs.dropWhile isBlank = cs := by
  cases cs with
  | nil => rfl
  | cons c cs => simp [h c rfl]

theorem trimChars_idem (cs : List Char) : trimChars (trimChars cs) = trimChars cs := by
  unfold trimChars
  cases h : cs.dropWhile isBlank with
  | nil => rfl
  | cons c r =>
    have hc : isBlank c = false := by
      have := List.head?_dropWhile_not isBlank cs
      rw [h] at this
      simpa using this
    rw [dropWhile_eq_self_of_head? (by
      rw [head?_dropEndBlanks c r hc]
      intro d hd
      exact Option.some.inj hd ▸ hc), dropEndBlanks_idem]

theorem trim_trim (s : String) : trim (trim s) = trim s := by
  simp [trim, trimChars_idem]

theorem allBlank_trim (s : String) : allBlank (trim s) = allBlank s := by
  simp [allBlank, trim_trim]

theorem nonBlank?_eq_some_iff {s t : String} :
    nonBlank? s = some t ↔ trim s = t ∧ t ≠ "" := by
  simp only [nonBlank?, allBlank]
  by_cases h : trim s = ""
  · simp only [h, beq_self_eq_true, if_true]
    constructor
    · intro h'
      cases h'
    · rintro ⟨rfl, h'⟩
      exact absurd rfl h'
  · simp only [beq_iff_eq, h, if_false, Option.some.injEq]
    exact ⟨fun e => ⟨e, e ▸ h⟩, fun e => e.1⟩

/-- a text that `nonBlank?` gives is its own answer -/
theorem nonBlank?_of_eq_some {s t : String} (h : nonBlank? s = some t) : nonBlank? t = some t := by
  rw [nonBlank?_eq_some_iff] at h ⊢
  obtain ⟨rfl, h⟩ := h
  exact ⟨trim_trim s, h⟩

end WidgetBoard.Text
