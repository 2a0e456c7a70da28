import WidgetBoard.Proofs.Records
import WidgetBoard.Proofs.Relayout
import WidgetBoard.Service.Plan

/-!
# Requests for another layout

Every action that changes the layout has one shape: load the dashboard, edit it, save the layout of
the edited one and answer with it, whether or not it could be saved.

* `Action.sectionEdit?`   what an action makes of the one section it names;
* `Action.relayout?`      what it makes of the dashboard, for all actions that change the layout;
* `Plan.relayout`         that shape;
* `Action.made?`          the id of the section that the action makes;
* `Action.changesLayout`  which actions these are.

Main statements: `Action.plan_eq_relayout` (they all have the shape), `Action.cases_of_relayout?`
(there are four kinds of edits), `Action.rearranges_of_relayout?` (none does more than rearrange the
widgets).
-/

namespace WidgetBoard

/-! ## edits -/

def orMissing {α : Type} (o : Option α) (what : Missing) : Except ServiceError α :=
  match o with
  | some a => .ok a
  | none => .error (.notFound what)

theorem orMissing_eq_ok {α : Type} {o : Option α} {what : Missing} {a : α}
    (h : orMissing o what = .ok a) : o = some a := by
  cases o with
  | some b => exact congrArg some (Except.ok.inj h)
  | none => exact nomatch h

/-- what may be made of a dashboard, or why nothing is made of it -/
abbrev Relayout := Dashboard → Except ServiceError Dashboard

/-- an edit of one section, by its id -/
def Dashboard.editSection (sectionId : String) (f : Section → Except ServiceError Section) :
    Relayout := fun d =>
  match d.section? sectionId with
  | none => .error (.notFound (.sectionId sectionId))
  | some s => (f s).map d.withSection

namespace Action

/-- the section that an action names, and what it makes of that section -/
def sectionEdit? : Action → Option (String × (Section → Except ServiceError Section))
  | .setColumns s n => some (s, fun t => .ok (t.withColumns n))
  | .reorderWidgets s source target =>
    some (s, fun t => orMissing (t.reorderWidgets? source target) (.widgetPair source target s))
  | .resize s w n =>
    some (s, fun t =>
      (orMissing ((t.widgetIndex? w).bind t.grid.maxWidthAt?) (.widget w)).map fun room =>
        t.withWidgetWidth w (clampWidth n room))
  | .drag s w p =>
    some (s, fun t =>
      (orMissing (t.dragged? w p) (.widget w)).map fun u => t.withWidgetWidth w u.width)
  | .get | .inspect | .save .. | .delete _ | .addSection .. | .removeSection _
  | .reorderSections .. | .setNativeFilters _ => none

def relayout? (newId : String) : Action → Option Relayout
  | .addSection title n => some fun d => .ok (d.withSection (.empty newId title n))
  | .removeSection s => some fun d =>
    (orMissing (d.section? s) (.sectionId s)).map fun _ => d.withoutSection s
  | .reorderSections s t => some fun d => orMissing (d.reorderSections? s t) (.sectionPair s t)
  | a => a.sectionEdit?.map fun e => Dashboard.editSection e.1 e.2

/-- the id of the section that an action makes -/
def made? (newId : String) : Action → Option String
  | .addSection .. => some newId
  | _ => none

def changesLayout : Action → Bool
  | .addSection .. | .removeSection _ | .setColumns .. | .reorderWidgets .. | .reorderSections ..
  | .resize .. | .drag .. => true
  | .get | .inspect | .save .. | .delete _ | .setNativeFilters _ => false

theorem exists_relayout? {a : Action} (newId : String) (h : a.changesLayout = true) :
    ∃ f, a.relayout? newId = some f := by
  cases a with
  | get | inspect | save | delete | setNativeFilters => exact nomatch h
  | addSection | removeSection | setColumns | reorderWidgets | reorderSections | resize | drag =>
    exact ⟨_, rfl⟩

end Action

/-! ## the shape of a request -/

/-- saves the layout of an edited dashboard, if there is one, and answers with it -/
def Plan.commit : Except ServiceError Dashboard → Plan (Except ServiceError Outcome)
  | .error e => .done (.error e)
  | .ok e => .ask (.saveLayout e.id e.layout) fun _ => .done (.ok (.dashboard e))

/-- loads a dashboard, edits it and saves the layout -/
def Plan.relayout (id : String) (f : Relayout) : Plan (Except ServiceError Outcome) :=
  .ask (.dashboard id) fun
    | .error e => .done (.error (.store e))
    | .ok none => .done (.error (.notFound (.dashboard id)))
    | .ok (some d) => Plan.commit (f d)

theorem Plan.ask_congr {α : Type} {c : Call} {p q : c.Reply → Plan α} (h : ∀ r, p r = q r) :
    Plan.ask c p = .ask c q :=
  congrArg _ (funext h)

/-- loading a section loads its dashboard -/
theorem Task.run_sectionOf_bind {id sectionId : String}
    {f : Section → Except ServiceError Section} {t : Dashboard × Section → Task Dashboard}
    (h : ∀ d s, (Outcome.dashboard <$> t (d, s)).run = Plan.commit ((f s).map d.withSection)) :
    (Outcome.dashboard <$> (sectionOf id sectionId >>= t)).run
      = Plan.relayout id (Dashboard.editSection sectionId f) := by
  refine Plan.ask_congr fun r => ?_
  rcases r with e | _ | d
  · rfl
  · rfl
  · change (Outcome.dashboard <$> ((do
      let s ← found (d.section? sectionId) (.sectionId sectionId)
      pure (d, s)) >>= t)).run = Plan.commit (Dashboard.editSection sectionId f d)
    unfold Dashboard.editSection
    cases d.section? sectionId with
    | none => rfl
    | some s => exact h d s

/-- **Every action that changes the layout is a load, an edit and a save.** -/
theorem Action.plan_eq_relayout {newId : String} {a : Action} {f : Relayout}
    (h : a.relayout? newId = some f) (id : String) : a.plan newId id = Plan.relayout id f := by
  cases a with
  | get | inspect | save | delete | setNativeFilters => exact nomatch h
  | addSection title n =>
    cases h
    refine Plan.ask_congr fun r => ?_
    rcases r with e | _ | d <;> rfl
  | removeSection s =>
    cases h
    refine Plan.ask_congr fun r => ?_
    rcases r with e | _ | d
    · rfl
    · rfl
    · change (Outcome.dashboard <$> ((do
        let t ← Task.found (d.section? s) (.sectionId s)
        pure (d, t)) >>= fun p => Task.commitLayout (p.1.withoutSection s))).run
          = Plan.commit ((orMissing (d.section? s) (.sectionId s)).map fun _ => d.withoutSection s)
      cases d.section? s <;> rfl
  | setColumns s n =>
    cases h
    exact Task.run_sectionOf_bind fun d t => rfl
  | reorderWidgets s source target =>
    cases h
    refine Task.run_sectionOf_bind fun d t => ?_
    dsimp only
    cases t.reorderWidgets? source target <;> rfl
  | reorderSections s t =>
    cases h
    refine Plan.ask_congr fun r => ?_
    rcases r with e | _ | d
    · rfl
    · rfl
    · change (Outcome.dashboard <$> (Task.found (d.reorderSections? s t) (.sectionPair s t)
        >>= Task.commitLayout)).run = Plan.commit (orMissing (d.reorderSections? s t) _)
      cases d.reorderSections? s t <;> rfl
  | resize s w n =>
    cases h
    refine Task.run_sectionOf_bind fun d t => ?_
    dsimp only
    cases (t.widgetIndex? w).bind t.grid.maxWidthAt? <;> rfl
  | drag s w p =>
    cases h
    refine Task.run_sectionOf_bind fun d t => ?_
    dsimp only
    cases t.dragged? w p <;> rfl

/-! ## what the edits keep -/

namespace Section

theorem rearranges_withColumns (s : Section) (n : Nat) : (s.withColumns n).Rearranges s :=
  ⟨rfl, List.Perm.refl _, Or.inr ⟨n, rfl⟩⟩

theorem rearranges_of_reorderWidgets? {s t : Section} {source target : String}
    (h : s.reorderWidgets? source target = some t) : t.Rearranges s := by
  obtain ⟨i, _, h⟩ := Option.bind_eq_some_iff.1 h
  obtain ⟨j, _, h⟩ := Option.bind_eq_some_iff.1 h
  obtain rfl := Option.some.inj h
  exact ⟨rfl, (moveItem_perm s.widgets i j).map _, Or.inl rfl⟩

theorem rearranges_withWidgetWidth (s : Section) (id : String) (width : Nat) :
    (s.withWidgetWidth id width).Rearranges s := by
  refine ⟨rfl, List.Perm.of_eq ?_, Or.inl rfl⟩
  rw [withWidgetWidth, List.map_map]
  refine List.map_congr_left fun w _ => ?_
  by_cases h : w.id = id <;> simp [Widget.unsized, h]

end Section

theorem Dashboard.exists_of_editSection {sectionId : String}
    {f : Section → Except ServiceError Section} {d e : Dashboard}
    (h : editSection sectionId f d = .ok e) :
    ∃ s t, d.section? sectionId = some s ∧ f s = .ok t ∧ e = d.withSection t := by
  unfold editSection at h
  cases hs : d.section? sectionId with
  | none => simp [hs] at h
  | some s =>
    rw [hs] at h
    obtain ⟨t, ht, rfl⟩ := except_map_eq_ok_iff.1 h
    exact ⟨s, t, rfl, ht, rfl⟩

namespace Action

variable {a : Action} {newId : String} {f : Relayout} {d e : Dashboard}

theorem rearranges_of_sectionEdit? {p : String × (Section → Except ServiceError Section)}
    (h : a.sectionEdit? = some p) {s t : Section} (hf : p.2 s = .ok t) : t.Rearranges s := by
  cases a with
  | get | inspect | save | delete | addSection | removeSection | reorderSections
  | setNativeFilters => exact nomatch h
  | setColumns sectionId n =>
    cases h
    obtain rfl := Except.ok.inj hf
    exact s.rearranges_withColumns n
  | reorderWidgets sectionId source target =>
    cases h
    exact Section.rearranges_of_reorderWidgets? (orMissing_eq_ok hf)
  | resize sectionId w n =>
    cases h
    obtain ⟨room, -, rfl⟩ := except_map_eq_ok_iff.1 hf
    exact s.rearranges_withWidgetWidth w _
  | drag sectionId w p =>
    cases h
    obtain ⟨u, -, rfl⟩ := except_map_eq_ok_iff.1 hf
    exact s.rearranges_withWidgetWidth w _

/-- an edit of one section by name -/
theorem exists_of_sectionEdit? {p : String × (Section → Except ServiceError Section)}
    (h : a.sectionEdit? = some p) (hf : Dashboard.editSection p.1 p.2 d = .ok e) :
    ∃ s t, d.section? s.id = some s ∧ t.Rearranges s ∧ e = d.withSection t := by
  obtain ⟨s, t, hs, ht, rfl⟩ := Dashboard.exists_of_editSection hf
  exact ⟨s, t, (Dashboard.id_of_section? hs).symm ▸ hs, rearranges_of_sectionEdit? h ht, rfl⟩

theorem eq_of_made? {id : String} (h : a.made? newId = some id) : id = newId := by
  cases a with
  | addSection => exact (Option.some.inj h).symm
  | get | inspect | save | delete | removeSection | setColumns | reorderWidgets | reorderSections
  | resize | drag | setNativeFilters => exact nomatch h

theorem relayout?_of_sectionEdit? {p : String × (Section → Except ServiceError Section)}
    (h : a.sectionEdit? = some p) :
    a.relayout? newId = some (Dashboard.editSection p.1 p.2) := by
  cases a with
  | get | inspect | save | delete | addSection | removeSection | reorderSections
  | setNativeFilters => exact nomatch h
  | setColumns | reorderWidgets | resize | drag => cases h; rfl

/-- an edit puts another section in the place of one, adds one, leaves one out or moves one -/
theorem cases_of_relayout? (h : a.relayout? newId = some f) (hf : f d = .ok e) :
    (∃ s t, d.section? s.id = some s ∧ t.Rearranges s ∧ e = d.withSection t ∧
      a.made? newId = none) ∨
    (∃ title n, e = d.withSection (.empty newId title n) ∧ a.made? newId = some newId) ∨
    (∃ x, a = .removeSection x ∧ e = d.withoutSection x) ∨
    ∃ i j, e = { d with sections := moveItem d.sections i j } ∧ a.made? newId = none := by
  have hsection {p : String × (Section → Except ServiceError Section)}
      (hp : a.sectionEdit? = some p) (hf : Dashboard.editSection p.1 p.2 d = .ok e)
      (hm : a.made? newId = none) : ∃ s t, d.section? s.id = some s ∧ t.Rearranges s ∧
        e = d.withSection t ∧ a.made? newId = none := by
    obtain ⟨s, t, hs, ht, he⟩ := exists_of_sectionEdit? hp hf
    exact ⟨s, t, hs, ht, he, hm⟩
  cases a with
  | get | inspect | save | delete | setNativeFilters => exact nomatch h
  | addSection title n =>
    cases h
    exact Or.inr (Or.inl ⟨title, n, (Except.ok.inj hf).symm, rfl⟩)
  | removeSection s =>
    cases h
    obtain ⟨_, -, rfl⟩ := except_map_eq_ok_iff.1 hf
    exact Or.inr (Or.inr (Or.inl ⟨s, rfl, rfl⟩))
  | reorderSections s t =>
    cases h
    have he := orMissing_eq_ok hf
    obtain ⟨i, _, he⟩ := Option.bind_eq_some_iff.1 he
    obtain ⟨j, _, he⟩ := Option.bind_eq_some_iff.1 he
    exact Or.inr (Or.inr (Or.inr ⟨i, j, (Option.some.inj he).symm, rfl⟩))
  | setColumns | reorderWidgets | resize | drag =>
    cases h
    exact Or.inl (hsection rfl hf rfl)

/-- **An edit does no more than rearrange the widgets** of the dashboard. -/
theorem rearranges_of_relayout? (h : a.relayout? newId = some f) (hf : f d = .ok e) :
    e.Rearranges (a.made? newId) d := by
  rcases cases_of_relayout? h hf with
    ⟨s, t, hs, ht, rfl, hm⟩ | ⟨title, n, rfl, hm⟩ | ⟨x, rfl, rfl⟩ | ⟨i, j, rfl, hm⟩
  · exact hm ▸ Dashboard.rearranges_withSection hs ht
  · exact hm ▸ Dashboard.rearranges_withSection_new (t := .empty newId title n) rfl rfl
  · exact d.rearranges_withoutSection x
  · exact hm ▸ d.rearranges_moveItem i j

/-- whatever else an edit does, the sections stay, and the one it makes is new -/
theorem mem_sectionIds_of_relayout? (h : a.relayout? newId = some f) (hf : f d = .ok e)
    (hkeep : ∀ y, a ≠ .removeSection y) {x : String} :
    x ∈ e.sectionIds ↔ x ∈ d.sectionIds ∨ a.made? newId = some x := by
  rcases cases_of_relayout? h hf with
    ⟨s, t, hs, ht, rfl, hm⟩ | ⟨title, n, rfl, hm⟩ | ⟨y, rfl, rfl⟩ | ⟨i, j, rfl, hm⟩
  · have hid : t.id ∈ d.sectionIds := by
      rw [ht.id, ← Dashboard.section?_isSome_iff, hs]
      rfl
    rw [Dashboard.mem_sectionIds_withSection, or_iff_left_of_imp fun h => h ▸ hid, hm]
    exact (or_iff_left nofun).symm
  · rw [Dashboard.mem_sectionIds_withSection, hm]
    exact or_congr_right ⟨fun h => congrArg some h.symm, fun h => (Option.some.inj h).symm⟩
  · exact absurd rfl (hkeep y)
  · rw [Dashboard.sectionIds, ((moveItem_perm d.sections i j).map _).mem_iff, hm]
    exact (or_iff_left nofun).symm

end Action

end WidgetBoard
