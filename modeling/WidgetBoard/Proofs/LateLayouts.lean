import Mathlib.Algebra.Group.Nat.Defs
import WidgetBoard.Proofs.Interleaving
import WidgetBoard.Proofs.Performed
import WidgetBoard.Proofs.WidgetWrites

/-!
# Layouts that are saved late

A request for another layout loads the dashboard, and its layout is saved only after others have
made their calls.  Here is what then becomes of a widget that was created meanwhile.

* `Dashboard.Holds x w d`          `d` has `w` in its section `x`;
* `Dashboard.holds_applyLayout_iff`      where a layout leaves a widget that it does not know;
* `System.nextId_run`              the number of the next widget only goes up;
* `System.Saves`, `System.Creates`, `System.Reaches`   how far the requests are.

Main statement: `System.holds_answer_saveLayout_iff` (a widget that was created meanwhile stays
where it is just if the request knows the section).
-/

namespace WidgetBoard

/-! ## widgets that a layout does not know -/

namespace Dashboard

/-- the section that is found under the id `x` has the widget -/
def Holds (x : String) (w : Widget) (d : Dashboard) : Prop :=
  ∃ s, d.section? x = some s ∧ w ∈ s.widgets

variable {d : Dashboard} {l : Layout} {x : String} {w : Widget}

/-- nothing is lost of a section that the layout has -/
theorem Holds.mem_widgetIds_applyLayout (h : d.Holds x w) (hx : x ∈ l.map (·.id)) :
    w.id ∈ (d.applyLayout l).widgetIds := by
  obtain ⟨s, hs, hw⟩ := h
  obtain ⟨t, ht, rfl⟩ := List.mem_map.1 hx
  exact Dashboard.mem_widgetIds_applyLayout.2 (Or.inr ⟨t, ht, s, hs, List.mem_map_of_mem hw⟩)

/-- a widget that the layout does not place stays in its section, if the layout has that -/
theorem holds_applyLayout_iff (h : d.Holds x w) (hplaced : w.id ∉ Layout.placed l) :
    (d.applyLayout l).Holds x w ↔ x ∈ l.map (·.id) := by
  obtain ⟨s, hs, hw⟩ := h
  rw [← sectionIds_applyLayout d l]
  constructor
  · rintro ⟨t, ht, -⟩
    exact section?_isSome_iff.1 (Option.isSome_of_eq_some ht)
  · intro hx
    obtain ⟨t, ht⟩ := Option.isSome_iff_exists.1 (section?_isSome_iff.2 hx)
    refine ⟨t, ht, ?_⟩
    obtain ⟨u, -, rfl⟩ := List.mem_map.1 (mem_sections_of_section? ht)
    obtain rfl : u.id = x := id_of_section? ht
    exact List.mem_append_right _ (mem_unplaced.2 ⟨s, hs, hw, hplaced⟩)

end Dashboard

/-! ## steps -/

namespace System

/-- a step makes one call at most -/
theorem store_step (s : System) (e : Event) :
    (s.step e).store = s.store ∨ ∃ c, (s.step e).store = (s.store.answer c).2 := by
  have hresume (i : Nat) (reply : (c : Call) → c.Reply × Store)
      (hreply : ∀ c, (reply c).2 = s.store ∨ (reply c).2 = (s.store.answer c).2) :
      (s.resume i reply).store = s.store ∨ ∃ c, (s.resume i reply).store = (s.store.answer c).2 := by
    unfold resume
    split
    · next c next _ => exact (hreply c).imp_right fun h => ⟨c, h⟩
    · exact Or.inl rfl
  cases e with
  | begin | abandon | lose | pass => exact Or.inl rfl
  | answer i => exact hresume i _ fun c => Or.inr rfl
  | refuse i err => exact hresume i _ fun c => Or.inl rfl
  | finish i =>
    left
    show (s.finish i).store = s.store
    unfold finish
    split <;> rfl
  | receive =>
    left
    show s.receive.store = s.store
    unfold receive
    split <;> rfl
  | release =>
    left
    show s.release.store = s.store
    unfold release
    split <;> rfl
  | flush =>
    left
    show s.flush.store = s.store
    unfold flush
    split <;> rfl
  | save k =>
    show (s.save k).store = s.store ∨ ∃ c, (s.save k).store = (s.store.answer c).2
    unfold save
    split
    · exact Or.inr ⟨_, rfl⟩
    · exact Or.inl rfl

theorem nextId_run (s : System) (events : List Event) :
    s.store.nextId ≤ (s.run events).store.nextId := by
  refine run_induction (P := fun t => s.store.nextId ≤ t.store.nextId) (Nat.le_refl _) ?_ events
  intro t e hle
  rcases t.store_step e with ht | ⟨c, ht⟩
  · rw [ht]
    exact hle
  · rw [ht]
    exact Nat.le_trans hle (t.store.nextId_answer c).1

/-! ## requests that meet -/

/-- request number `i` is about to save the layout -/
def Saves (s : System) (i : Nat) (id : String) (l : Layout) : Prop :=
  ∃ next, s.requests[i]? = some ⟨id, .ask (.saveLayout id l) next⟩

/-- request number `i` is about to create a widget, and will get `w` -/
def Creates (s : System) (i : Nat) (id : String) (w : Widget) : Prop :=
  ∃ owner new next, s.requests[i]? = some ⟨owner, .ask (.createWidget id new) next⟩ ∧
    (s.store.answer (.createWidget id new)).1 = .ok w

/-- `t` may come after `s` -/
def Reaches (s t : System) : Prop :=
  ∃ events, t = s.run events

variable {s : System} {id newId : String} {d : Dashboard} {i : Nat}

theorem Reaches.refl (s : System) : s.Reaches s :=
  ⟨[], rfl⟩

theorem reaches_run (s : System) (events : List Event) : s.Reaches (s.run events) :=
  ⟨events, rfl⟩

theorem step_answer {c : Call} {next : c.Reply → Plan (Except ServiceError Outcome)}
    (h : s.requests[i]? = some ⟨id, .ask c next⟩) :
    s.step (.answer i) =
      { s with
        store := (s.store.answer c).2
        requests := s.requests.set i ⟨id, next (s.store.answer c).1⟩ } := by
  simp [step, resume, h]

/-- the layout that a request is about to save when it has loaded the dashboard -/
theorem exists_of_saves_answer {a : Action} {f : Relayout} (ha : a.relayout? newId = some f)
    (hi : s.requests[i]? = some ⟨id, a.plan newId id⟩) (hd : s.store.dashboards.get? id = some d)
    {l : Layout} (hl : (s.step (.answer i)).Saves i id l) :
    ∃ e, f d = .ok e ∧ l = e.layout := by
  obtain ⟨hlt, -⟩ := List.getElem?_eq_some_iff.1 hi
  rw [Action.plan_eq_relayout ha] at hi
  obtain ⟨next, hl⟩ := hl
  rw [step_answer hi, Store.answer_dashboard hd, List.getElem?_set_self hlt] at hl
  cases hf : f d with
  | error err =>
    simp [hf, Plan.commit] at hl
  | ok e =>
    simp [hf, Plan.commit] at hl
    exact ⟨e, rfl, hl.1.2.symm⟩

theorem Creates.id_eq {w : Widget} (h : s.Creates i id w) :
    w.id = Store.widgetId s.store.nextId := by
  obtain ⟨owner, new, next, -, h⟩ := h
  exact Store.id_of_answer_createWidget h

theorem Reaches.nextId_le {t : System} (h : s.Reaches t) : s.store.nextId ≤ t.store.nextId := by
  obtain ⟨events, rfl⟩ := h
  exact s.nextId_run events

/-- a widget that is created uses up a number -/
theorem Creates.nextId_lt {u : System} {w : Widget} (h : s.Creates i id w)
    (hu : (s.step (.answer i)).Reaches u) : s.store.nextId < u.store.nextId := by
  obtain ⟨owner, new, next, hi, -⟩ := h
  have hstep : (s.step (.answer i)).store.nextId = s.store.nextId + 1 := by
    rw [step_answer hi]
    exact Store.nextId_modify _ _ _
  have hle := hu.nextId_le
  omega

/-- a widget that is created later is not on the dashboard that was loaded, where all ids that were
still to be given were free -/
theorem Creates.id_notMem {t u : System} {k : Nat} {w : Widget} (h : t.Creates k id w)
    (ht : (s.step (.answer i)).Reaches t) (hu : (t.step (.answer k)).Reaches u)
    (hlast : u.store.nextId ≤ 2 ^ 64)
    (hfree : ∀ n, s.store.nextId ≤ n → n < 2 ^ 64 → Store.widgetId n ∉ d.widgetIds) :
    w.id ∉ d.widgetIds := by
  have hlt := h.nextId_lt hu
  rw [h.id_eq]
  refine hfree _ ?_ (by omega)
  exact Nat.le_trans (s.nextId_run [.answer i]) ht.nextId_le

/-- **A widget that was created after a request for another layout had loaded the dashboard stays on
it** when the layout is saved, if the request has found the section in which the widget then is.  As
long as no widget had an id that was still to be given, the widget as it then is stays in that
section just if the request has found the section, or makes it. -/
theorem holds_answer_saveLayout_iff {a : Action} (ha : a.changesLayout = true)
    (hkeep : ∀ y, a ≠ .removeSection y)
    (hi : s.requests[i]? = some ⟨id, a.plan newId id⟩) (hd : s.store.dashboards.get? id = some d)
    {l : Layout} (hl : (s.step (.answer i)).Saves i id l)
    {t : System} (ht : (s.step (.answer i)).Reaches t) {k : Nat} {w : Widget}
    (hk : t.Creates k id w)
    {u : System} (hu : (t.step (.answer k)).Reaches u) {j : Nat} (hj : u.Saves j id l)
    {now : Dashboard} (hnow : u.store.dashboards.get? id = some now) {x : String} {v : Widget}
    (hv : v.id = w.id) (hx : now.Holds x v) :
    ∃ e, (u.step (.answer j)).store.dashboards.get? id = some e ∧
      (x ∈ d.sectionIds → w.id ∈ e.widgetIds) ∧
      (u.store.nextId ≤ 2 ^ 64 →
        (∀ n, s.store.nextId ≤ n → n < 2 ^ 64 → Store.widgetId n ∉ d.widgetIds) →
        (e.Holds x v ↔ x ∈ d.sectionIds ∨ a.made? newId = some x)) := by
  obtain ⟨f, hf⟩ := Action.exists_relayout? newId ha
  obtain ⟨e, he, rfl⟩ := exists_of_saves_answer hf hi hd hl
  have hsections : x ∈ e.layout.map (·.id) ↔ x ∈ d.sectionIds ∨ a.made? newId = some x := by
    rw [Dashboard.sectionIds_layout]
    exact Action.mem_sectionIds_of_relayout? hf he hkeep
  obtain ⟨next, hj⟩ := hj
  refine ⟨{ now.applyLayout e.layout with updatedAt := some .thisSession }, ?_, fun hold => ?_,
    fun hlast hfree => ?_⟩
  · rw [step_answer hj, Store.answer_saveLayout hnow]
    exact Store.get?_put_self _ _ _
  · rw [← hv]
    exact hx.mem_widgetIds_applyLayout (hsections.2 (Or.inl hold))
  · have hplaced : v.id ∉ Layout.placed e.layout := by
      rw [hv, Dashboard.placed_layout]
      intro hin
      have hre := Action.rearranges_of_relayout? hf he
      exact hk.id_notMem ht hu hlast hfree
        ((Dashboard.subperm_widgetIds hre.widgets).subset hin)
    rw [← hsections]
    exact Dashboard.holds_applyLayout_iff hx hplaced

/-- a widget is created while the columns of its section are set -/
theorem holds_answer_saveLayout_top :
    ∃ (s t : System) (w : Widget) (e : Dashboard),
      s.requests[0]? = some ⟨"sales", (Action.setColumns "top" 2).plan "" "sales"⟩ ∧
      (s.step (.answer 0)).Reaches t ∧ t.Creates 1 "sales" w ∧
      ((t.step (.answer 1)).step (.answer 0)).store.dashboards.get? "sales" = some e ∧
      e.Holds "top" w := by
  let top : Section := { id := "top", title := "Top", columns := 4 }
  let sales : Dashboard := { id := "sales", title := "Sales", view := "orders", sections := [top] }
  let seed : Seed := { dashboards := [sales], views := .ofList [("orders", [])] }
  let new : NewWidget :=
    { sectionId := "top", title := "Count", showTitle := false,
      config := .kpi ⟨.single Metric.count, []⟩, size := {} }
  let w : Widget := new.withId "widget-1"
  let setting : Action := .setColumns "top" 2
  let saving : Action := .save "top" { title := "Count", draft := { kind := .kpi } }
  let s : System := (start seed 400).step (.begin "" "sales" setting)
  let t : System := (s.step (.answer 0)).run [.begin "" "sales" saving, .answer 1, .answer 1]
  let l : Layout := (sales.withSection (top.withColumns 2)).layout
  let now : Dashboard :=
    { sales with sections := [{ top with widgets := [w] }], updatedAt := some .thisSession }
  have hi : s.requests[0]? = some ⟨"sales", setting.plan "" "sales"⟩ := rfl
  have hd : s.store.dashboards.get? "sales" = some sales := rfl
  have hl : (s.step (.answer 0)).Saves 0 "sales" l := ⟨_, rfl⟩
  have ht : (s.step (.answer 0)).Reaches t := reaches_run _ _
  have hk : t.Creates 1 "sales" w := ⟨_, new, _, rfl, by decide +kernel⟩
  have hu : (t.step (.answer 1)).Reaches (t.step (.answer 1)) := .refl _
  have hj : (t.step (.answer 1)).Saves 0 "sales" l := ⟨_, rfl⟩
  have hnow : (t.step (.answer 1)).store.dashboards.get? "sales" = some now := by decide +kernel
  have hx : now.Holds "top" w := ⟨{ top with widgets := [w] }, rfl, List.mem_singleton_self w⟩
  have hlast : (t.step (.answer 1)).store.nextId ≤ 2 ^ 64 := by decide +kernel
  obtain ⟨e, he, -, hiff⟩ :=
    holds_answer_saveLayout_iff (a := setting) rfl nofun hi hd hl ht hk hu hj hnow rfl hx
  have hfree (n : Nat) : Store.widgetId n ∉ sales.widgetIds := List.not_mem_nil
  have hold : "top" ∈ sales.sectionIds := List.mem_singleton_self "top"
  have hstays : e.Holds "top" w := (hiff hlast fun n _ _ => hfree n).2 (Or.inl hold)
  exact ⟨s, t, w, e, hi, ht, hk, he, hstays⟩

/-- the widgets of a stored dashboard -/
def widgetIds? (s : System) (id : String) : Option (List String) :=
  (s.store.dashboards.get? id).map (·.widgetIds)

/-- a widget is lost that was created in a section that was made meanwhile; and one that was deleted
meanwhile does not come back -/
theorem lost_answer_saveLayout :
    ∃ (s : System) (made : List Event) (created deleted : List Event),
      s.requests[0]? = some ⟨"sales", (Action.setColumns "top" 2).plan "" "sales"⟩ ∧
      (s.run [.answer 0]).widgetIds? "sales" = some [] ∧
      (s.run (.answer 0 :: made)).widgetIds? "sales" = some ["widget-1"] ∧
      (s.run (.answer 0 :: made ++ [.answer 0])).widgetIds? "sales" = some [] ∧
      (s.run (.answer 0 :: created)).widgetIds? "sales" = some ["widget-1"] ∧
      (s.run (.answer 0 :: created ++ deleted ++ [.answer 0])).widgetIds? "sales" = some [] := by
  let top : Section := { id := "top", title := "Top", columns := 4 }
  let sales : Dashboard := { id := "sales", title := "Sales", view := "orders", sections := [top] }
  let seed : Seed := { dashboards := [sales], views := .ofList [("orders", [])] }
  let s : System := (start seed 400).step (.begin "" "sales" (.setColumns "top" 2))
  let save (x : String) : Event :=
    .begin "" "sales" (.save x { title := "Count", draft := { kind := .kpi } })
  let three (i : Nat) : List Event := [.answer i, .answer i, .answer i]
  let add : List Event := [.begin "new" "sales" (.addSection "New" 4), .answer 1, .answer 1]
  let delete : List Event := [.begin "" "sales" (.delete "widget-1"), .answer 2, .answer 2]
  refine ⟨s, add ++ save "new" :: three 2, save "top" :: three 1, delete, rfl, ?_, ?_, ?_, ?_, ?_⟩
    <;> decide +kernel

end System

end WidgetBoard
