import WidgetBoard.Proofs.LayoutRequests

/-!
# Edits of different sections

An action that edits one section looks at that section alone.  So the edits of two sections may be
made in either order, and before or after columns out of range are clamped.

* `Dashboard.section?_withSection`, `Dashboard.withSection_comm`   sections put in place;
* `Dashboard.saved`                a dashboard as it is kept when its layout was saved;
* `Action.EditsSection x d e`      an action makes `e` of `d` by an edit of the section `x`.

Main statements: `Action.EditsSection.saved` (such an edit of a dashboard that was saved),
`Action.EditsSection.exists_both` (two of them in either order).
-/

namespace WidgetBoard

/-! ## lists -/

section

variable {α : Type} (key : α → String) {a b : α} {l : List α}

theorem find?_upsertBy (k : String) :
    (upsertBy key a l).find? (fun c => key c == k)
      = if k = key a then some a else l.find? fun c => key c == k := by
  induction l with
  | nil =>
    by_cases hk : key a = k
    · simp [upsertBy, hk]
    · simp [upsertBy, hk, Ne.symm hk]
  | cons b l ih =>
    by_cases hb : key b = key a
    · rw [upsertBy, if_pos hb]
      by_cases hk : key a = k
      · simp [hk]
      · simp [hb, hk, Ne.symm hk]
    · rw [upsertBy, if_neg hb]
      by_cases hk : key b = k
      · simp [← hk, hb]
      · simp [hk, ih]

theorem upsertBy_eq_self (h : l.find? (fun c => key c == key a) = some a) :
    upsertBy key a l = l := by
  obtain ⟨l₁, l₂, rfl, he⟩ := exists_upsertBy_eq key h
  exact he

theorem upsertBy_comm (hab : key a ≠ key b) (ha : key a ∈ l.map key) (hb : key b ∈ l.map key) :
    upsertBy key a (upsertBy key b l) = upsertBy key b (upsertBy key a l) := by
  induction l with
  | nil => exact nomatch ha
  | cons c l ih =>
    by_cases hca : key c = key a
    · have hcb : key c ≠ key b := hca ▸ hab
      simp [upsertBy, hca, hab]
    · by_cases hcb : key c = key b
      · simp [upsertBy, hcb, Ne.symm hab]
      · have ha' := (List.mem_cons.1 ha).resolve_left (Ne.symm hca)
        have hb' := (List.mem_cons.1 hb).resolve_left (Ne.symm hcb)
        simp [upsertBy, hca, hcb, ih ha' hb']

theorem map_upsertBy {f : α → α} (hf : ∀ c, key (f c) = key c) :
    (upsertBy key a l).map f = upsertBy key (f a) (l.map f) := by
  induction l with
  | nil => rfl
  | cons b l ih =>
    rw [List.map_cons, upsertBy, upsertBy, hf, hf]
    split
    · rfl
    · rw [List.map_cons, ih]

end

/-! ## sections put in place -/

namespace Section

@[simp] theorem id_clamped (s : Section) : s.clamped.id = s.id := rfl

@[simp] theorem clamped_clamped (s : Section) : s.clamped.clamped = s.clamped := by
  simp [clamped, withColumns]

end Section

namespace Dashboard

variable {d : Dashboard} {s t : Section}

theorem section?_withSection (d : Dashboard) (t : Section) (id : String) :
    (d.withSection t).section? id = if id = t.id then some t else d.section? id :=
  find?_upsertBy (fun s : Section => s.id) id

/-- a section in its own place -/
theorem withSection_self (h : d.section? s.id = some s) : d.withSection s = d := by
  rw [withSection, upsertBy_eq_self (fun s : Section => s.id) h]

theorem withSection_comm (hne : s.id ≠ t.id) (hs : s.id ∈ d.sectionIds) (ht : t.id ∈ d.sectionIds) :
    (d.withSection t).withSection s = (d.withSection s).withSection t := by
  simp only [withSection, upsertBy_comm (fun s : Section => s.id) hne hs ht]

theorem clamped_withSection (d : Dashboard) (t : Section) :
    (d.withSection t).clamped = d.clamped.withSection t.clamped := by
  simp only [clamped, withSection, map_upsertBy (fun s : Section => s.id) Section.id_clamped]

@[simp] theorem clamped_clamped (d : Dashboard) : d.clamped.clamped = d.clamped := by
  simp [clamped, Function.comp_def]

/-- a dashboard as it is kept when its layout was saved -/
def saved (d : Dashboard) : Dashboard :=
  { d.clamped with updatedAt := some .thisSession }

theorem saved_saved (d : Dashboard) : d.saved.saved = d.saved := by
  show { d.clamped.clamped with updatedAt := some .thisSession } = d.saved
  rw [clamped_clamped]
  rfl

theorem section?_saved (d : Dashboard) (id : String) :
    d.saved.section? id = (d.section? id).map Section.clamped :=
  List.find?_map

theorem saved_withSection (d : Dashboard) (t : Section) :
    (d.withSection t).saved = d.saved.withSection t.clamped := by
  rw [saved, clamped_withSection]
  rfl

/-- a section in the place of one is seen, unless the two differ in columns out of range alone -/
theorem saved_withSection_eq_iff (hs : d.section? s.id = some s) (hid : t.id = s.id) :
    (d.withSection t).saved = d.saved ↔ t.clamped = s.clamped := by
  constructor
  · intro h
    have hfound := congrArg (fun e => section? e s.id) h
    simpa [section?_saved, section?_withSection, hid, hs] using hfound
  · intro h
    rw [saved_withSection, h, ← saved_withSection, withSection_self hs]

theorem unsized_saved (d : Dashboard) : d.saved.unsized = d.unsized := by
  simp [unsized_eq_flatMap, saved, clamped, List.flatMap_map, Section.clamped, Section.withColumns]

end Dashboard

/-! ## edits and clamped columns -/

namespace Section

theorem grid_clamped (s : Section) : s.clamped.grid = s.grid := by
  simp [grid, clamped, withColumns, Grid.ofDeclared, effectiveWidth_clampColumns]

theorem cellWidth_clampColumns (width gap : Float) (n : Nat) :
    GridPixels.cellWidth ⟨width, gap, clampColumns n⟩ = GridPixels.cellWidth ⟨width, gap, n⟩ := by
  simp [GridPixels.cellWidth]

theorem draggedCells_clampColumns (width gap : Float) (n : Nat) (startX pointerX : Float) :
    draggedCells ⟨width, gap, clampColumns n⟩ startX pointerX
      = draggedCells ⟨width, gap, n⟩ startX pointerX := by
  rw [draggedCells, cellWidth_clampColumns]
  rfl

theorem dragged?_clamped (s : Section) (w : String) (p : PointerDrag) :
    s.clamped.dragged? w p = s.dragged? w p := by
  have hindex : s.clamped.widgetIndex? w = s.widgetIndex? w := rfl
  have hcolumns : s.clamped.columns = clampColumns s.columns := rfl
  simp only [dragged?, hindex, hcolumns, grid_clamped, Gesture.up, Gesture.move?, resizedWidth,
    draggedCells_clampColumns]

theorem reorderWidgets?_clamped (s : Section) (source target : String) :
    s.clamped.reorderWidgets? source target
      = (s.reorderWidgets? source target).map clamped := by
  have hindex (w : String) : s.clamped.widgetIndex? w = s.widgetIndex? w := rfl
  simp only [reorderWidgets?, hindex]
  cases s.widgetIndex? source <;> cases s.widgetIndex? target <;> rfl

end Section

namespace Action

variable {a b : Action} {x y : String} {d A B : Dashboard}

theorem orMissing_map {α β : Type} (o : Option α) (what : Missing) (f : α → β) :
    orMissing (o.map f) what = (orMissing o what).map f := by
  cases o <;> rfl

/-- an edit of a section does not care whether its columns are clamped -/
theorem sectionEdit?_clamped {p : String × (Section → Except ServiceError Section)}
    (h : a.sectionEdit? = some p) (s : Section) : p.2 s.clamped = (p.2 s).map Section.clamped := by
  cases a with
  | get | inspect | save | delete | addSection | removeSection | reorderSections
  | setNativeFilters => exact nomatch h
  | setColumns x n =>
    cases h
    simp [Except.map, Section.clamped, Section.withColumns]
  | reorderWidgets x source target =>
    cases h
    simp only [Section.reorderWidgets?_clamped, orMissing_map]
  | resize x w n =>
    cases h
    have hindex : s.clamped.widgetIndex? w = s.widgetIndex? w := rfl
    simp only [hindex, Section.grid_clamped]
    cases (s.widgetIndex? w).bind s.grid.maxWidthAt? <;> rfl
  | drag x w p =>
    cases h
    simp only [Section.dragged?_clamped]
    cases s.dragged? w p <;> rfl

/-- the action makes `e` of `d` by an edit of the section `x` -/
def EditsSection (a : Action) (x : String) (d e : Dashboard) : Prop :=
  ∃ f, a.sectionEdit? = some (x, f) ∧ Dashboard.editSection x f d = .ok e

theorem editSection_eq_ok {x : String} {f : Section → Except ServiceError Section} {s t : Section}
    (hs : d.section? x = some s) (ht : f s = .ok t) :
    Dashboard.editSection x f d = .ok (d.withSection t) := by
  simp [Dashboard.editSection, hs, ht, Except.map]

namespace EditsSection

theorem frame (h : a.EditsSection x d A) : A = { d with sections := A.sections } := by
  obtain ⟨f, -, hA⟩ := h
  obtain ⟨s, t, -, -, rfl⟩ := Dashboard.exists_of_editSection hA
  rfl

theorem perm_unsized (h : a.EditsSection x d A) : A.unsized.Perm d.unsized := by
  obtain ⟨f, hf, hA⟩ := h
  obtain ⟨s, t, hs, ht, rfl⟩ := exists_of_sectionEdit? hf hA
  exact Dashboard.perm_unsized_withSection hs ht

/-- the edit as what a request makes of the dashboard -/
theorem exists_relayout? (h : a.EditsSection x d A) (newId : String) :
    ∃ f, a.relayout? newId = some f ∧ ∀ {d e}, a.EditsSection x d e → f d = .ok e := by
  obtain ⟨f, hf, -⟩ := h
  refine ⟨_, relayout?_of_sectionEdit? hf, ?_⟩
  rintro d e ⟨g, hg, he⟩
  obtain ⟨-, rfl⟩ := Prod.mk.inj (Option.some.inj (hf.symm.trans hg))
  exact he

/-- the edit of a dashboard does not care whether it was saved -/
theorem saved (h : a.EditsSection x d A) :
    a.EditsSection x d.saved A.saved := by
  obtain ⟨f, hf, hA⟩ := h
  obtain ⟨s, t, hs, ht, rfl⟩ := Dashboard.exists_of_editSection hA
  have hs' : d.saved.section? x = some s.clamped := by
    rw [Dashboard.section?_saved, hs]
    rfl
  have ht' : f s.clamped = .ok t.clamped := by
    have hclamped : f s.clamped = (f s).map Section.clamped := sectionEdit?_clamped hf s
    rw [hclamped, ht]
    rfl
  refine ⟨f, hf, ?_⟩
  rw [editSection_eq_ok hs' ht', Dashboard.saved_withSection]

/-- **The edits of two sections can be made in either order**, and neither is seen beside the other
unless it is seen alone. -/
theorem exists_both (ha : a.EditsSection x d A) (hb : b.EditsSection y d B) (hxy : x ≠ y) :
    ∃ Z, b.EditsSection y A Z ∧ a.EditsSection x B Z ∧
      (Z.saved = B.saved ↔ A.saved = d.saved) ∧
      (Z.saved = A.saved ↔ B.saved = d.saved) := by
  obtain ⟨f, hf, hA⟩ := ha
  obtain ⟨g, hg, hB⟩ := hb
  obtain ⟨s, s', hs, hs', rfl⟩ := Dashboard.exists_of_editSection hA
  obtain ⟨t, t', ht, ht', rfl⟩ := Dashboard.exists_of_editSection hB
  obtain rfl := Dashboard.id_of_section? hs
  obtain rfl := Dashboard.id_of_section? ht
  have hsid : s'.id = s.id := (rearranges_of_sectionEdit? hf hs').id
  have htid : t'.id = t.id := (rearranges_of_sectionEdit? hg ht').id
  have hfirst : (d.withSection s').section? t.id = some t := by
    rw [Dashboard.section?_withSection, hsid, if_neg (Ne.symm hxy), ht]
  have hsecond : (d.withSection t').section? s.id = some s := by
    rw [Dashboard.section?_withSection, htid, if_neg hxy, hs]
  have hcomm : (d.withSection s').withSection t' = (d.withSection t').withSection s' := by
    refine Dashboard.withSection_comm (by rwa [hsid, htid, ne_comm]) ?_ ?_
    · rw [htid, ← Dashboard.section?_isSome_iff, ht]
      rfl
    · rw [hsid, ← Dashboard.section?_isSome_iff, hs]
      rfl
  refine ⟨_, ⟨g, hg, editSection_eq_ok hfirst ht'⟩, ⟨f, hf, ?_⟩, ?_, ?_⟩
  · rw [hcomm]
    exact editSection_eq_ok hsecond hs'
  · rw [hcomm, Dashboard.saved_withSection_eq_iff hsecond hsid,
      Dashboard.saved_withSection_eq_iff hs hsid]
  · rw [Dashboard.saved_withSection_eq_iff hfirst htid,
      Dashboard.saved_withSection_eq_iff ht htid]

end EditsSection

end Action

end WidgetBoard
