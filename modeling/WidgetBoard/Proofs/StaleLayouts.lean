import WidgetBoard.Proofs.Replay
import WidgetBoard.Proofs.WidgetWrites

/-!
# Stale layouts

Widgets are created, updated and deleted after the layout of a dashboard was taken, and then it is
laid out by that layout.  The sections are still the same, and each has first those of its old
widgets that are left and then the new ones.  So the old layout has nothing to move, and gives only
sizes back.

* `Dashboard.sizedAs e d`    `e` with those widgets that `d` has, too, in the sizes that they
                             have on `d`;
* `Section.Continues`, `Dashboard.Continues`   what writes of widgets leave of a section, and of all
                             sections of a dashboard;
* `Store.Written`            a store behind writes of widgets to one dashboard;
* `Store.Written.exists_continues`   the run lemma: behind such writes a dashboard goes on from what
                             it was;
* `Dashboard.Continues.applyLayout_layout`   what the old layout makes of a dashboard that goes on.

Main statement: `Store.applyLayout_stale`.
-/

namespace WidgetBoard

/-! ## sizes given back -/

/-- in the size that the widget has on `d`, if it is there -/
def Widget.sizedAs (d : Dashboard) (w : Widget) : Widget :=
  match d.widgets.find? fun v => v.id == w.id with
  | some v => { w with size := v.size }
  | none => w

def Section.sizedAs (d : Dashboard) (s : Section) : Section :=
  { s with widgets := s.widgets.map (Widget.sizedAs d) }

/-- the sections and widgets of `e` as they are, but for the sizes of widgets that `d` has -/
def Dashboard.sizedAs (e d : Dashboard) : Dashboard :=
  { e with sections := e.sections.map (Section.sizedAs d) }

theorem Widget.sizedAs_of_mem {d : Dashboard} (h : d.widgetIds.Nodup) {v w : Widget}
    (hv : v ∈ d.widgets) (hid : w.id = v.id) : w.sizedAs d = { w with size := v.size } := by
  rw [sizedAs, hid, find?_key_of_mem h hv]

theorem Widget.sizedAs_of_notMem {d : Dashboard} {w : Widget} (h : w.id ∉ d.widgetIds) :
    w.sizedAs d = w := by
  have hnone : d.widgets.find? (fun v => v.id == w.id) = none := by
    rw [List.find?_eq_none]
    intro v hv he
    exact h (beq_iff_eq.1 he ▸ List.mem_map_of_mem hv)
  rw [sizedAs, hnone]

/-! ## sections that go on -/

/-- `t` has widgets of `s` in the order they had there, and new ones behind them; `old` are the ids
that were in use -/
structure Section.Continues (old : List String) (t s : Section) : Prop where
  frame : { t with widgets := [] } = { s with widgets := [] }
  ids : ∃ kept new, t.widgets.map (·.id) = kept ++ new ∧
    kept.Sublist (s.widgets.map (·.id)) ∧ ∀ id ∈ new, id ∉ old

namespace Section.Continues

variable {old : List String} {s t : Section}

theorem refl (old : List String) (s : Section) : s.Continues old s :=
  ⟨rfl, _, [], (List.append_nil _).symm, List.Sublist.refl _, nofun⟩

theorem id_eq (h : t.Continues old s) : t.id = s.id :=
  congrArg (fun t => t.id) h.frame

/-- with a new widget at the end -/
theorem add (h : t.Continues old s) {w : Widget} (hw : w.id ∉ old) :
    Section.Continues old { t with widgets := t.widgets ++ [w] } s := by
  obtain ⟨hframe, kept, new, hids, hsub, hnew⟩ := h
  refine ⟨hframe, kept, new ++ [w.id], ?_, hsub, fun id hid => ?_⟩
  · rw [List.map_append, hids, List.append_assoc]
    rfl
  · rcases List.mem_append.1 hid with hid | hid
    · exact hnew id hid
    · exact List.mem_singleton.1 hid ▸ hw

/-- with other widgets under the same ids -/
theorem of_ids (h : t.Continues old s) {ws : List Widget}
    (hws : ws.map (·.id) = t.widgets.map (·.id)) :
    Section.Continues old { t with widgets := ws } s := by
  obtain ⟨hframe, kept, new, hids, hsub, hnew⟩ := h
  exact ⟨hframe, kept, new, hws.trans hids, hsub, hnew⟩

theorem withoutWidget (h : t.Continues old s) (id : String) :
    (t.withoutWidget id).Continues old s := by
  obtain ⟨hframe, kept, new, hids, hsub, hnew⟩ := h
  refine ⟨hframe, kept.filter (· ≠ id), new.filter (· ≠ id), ?_, ?_, fun x hx => ?_⟩
  · rw [← List.filter_append, ← hids, List.filter_map]
    rfl
  · exact List.filter_sublist.trans hsub
  · exact hnew x (List.mem_filter.1 hx).1

end Section.Continues

/-! ### all sections -/

section

variable {old : List String} {ss ts : List Section}

theorem continues_updateFirst {key : Section → String} {k : String} {f : Section → Section}
    (h : List.Forall₂ (Section.Continues old) ts ss)
    (hf : ∀ t s, t.Continues old s → (f t).Continues old s) :
    List.Forall₂ (Section.Continues old) (updateFirst key k f ts) ss := by
  induction h with
  | nil => exact .nil
  | cons hts hrest ih =>
    rw [updateFirst]
    split
    · exact .cons (hf _ _ hts) hrest
    · exact .cons hts ih

theorem continues_replaceIn (h : List.Forall₂ (Section.Continues old) ts ss) (w : Widget) :
    List.Forall₂ (Section.Continues old) (Store.replaceIn w ts) ss := by
  induction h with
  | nil => exact .nil
  | cons hts hrest ih =>
    rw [Store.replaceIn]
    split
    · refine .cons (hts.of_ids ?_) hrest
      exact map_key_updateFirst (fun v : Widget => v.id) fun _ => rfl
    · exact .cons hts ih

end

/-! ## dashboards that go on -/

namespace Dashboard

/-- `e` has the sections of `d`, and each of them goes on -/
structure Continues (e d : Dashboard) : Prop where
  once : e.widgetIds.Nodup
  sections : List.Forall₂ (Section.Continues d.widgetIds) e.sections d.sections

namespace Continues

variable {d e f : Dashboard} {s t : Section}

theorem refl (h : d.widgetIds.Nodup) : d.Continues d :=
  ⟨h, List.forall₂_same.2 fun s _ => .refl _ s⟩

/-! ### one write -/

theorem addWidget (h : e.Continues d) {w v : Widget} {sectionId : String}
    (hold : w.id ∉ d.widgetIds) (hfree : w.id ∉ e.widgetIds)
    (hadd : Store.addWidget sectionId w e = .ok (v, f)) : f.Continues d := by
  cases ht : e.section? sectionId with
  | none => simp [Store.addWidget, ht] at hadd
  | some t =>
    obtain ⟨g, hg, hadds⟩ := Store.addWidget_of_section? w ht
    obtain ⟨-, rfl⟩ := Prod.mk.inj (Except.ok.inj (hadd.symm.trans hg))
    have hsections : f.sections = updateFirst (·.id) sectionId
        (fun s => { s with widgets := s.widgets ++ [w] }) e.sections := by
      simp only [Store.addWidget, ht, Except.ok.injEq, Prod.mk.injEq] at hadd
      rw [← hadd.2]
    constructor
    · rw [hadds.widgets.nodup_iff, List.nodup_cons]
      exact ⟨hfree, h.once⟩
    · rw [hsections]
      exact continues_updateFirst h.sections fun t s hts => hts.add hold

theorem replaceWidget (h : e.Continues d) {w v : Widget}
    (hrep : Store.replaceWidget w e = .ok (v, f)) : f.Continues d := by
  constructor
  · rw [(Store.keepsIds_replaceWidget hrep).widgets]
    exact h.once
  · unfold Store.replaceWidget at hrep
    split at hrep
    · exact nomatch hrep
    · cases hrep
      exact continues_replaceIn h.sections w

theorem withoutWidget (h : e.Continues d) (id : String) : (e.withoutWidget id).Continues d where
  once := (e.widgetIds_withoutWidget_sublist id).nodup h.once
  sections := by
    rw [Dashboard.withoutWidget, List.forall₂_map_left_iff]
    exact h.sections.imp fun t s hts => hts.withoutWidget id

/-! ### the old layout -/

theorem sectionIds_eq (h : e.Continues d) : e.sectionIds = d.sectionIds :=
  map_eq_map_of_forall₂ h.sections fun _ _ _ _ hts => hts.id_eq

/-- an old widget that is left is in the section it was in -/
theorem mem_ids_of_mem (h : e.Continues d) (hd : d.Distinct) (ht : t ∈ e.sections)
    (hs : s ∈ d.sections) (hts : t.Continues d.widgetIds s) {id : String}
    (hid : id ∈ s.widgets.map (·.id)) (hleft : id ∈ e.widgetIds) : id ∈ t.widgets.map (·.id) := by
  obtain ⟨u, hu, w, hw, rfl⟩ := mem_widgetIds.1 hleft
  obtain ⟨r, hr, hur⟩ := exists_of_mem_of_forall₂ h.sections hu
  obtain ⟨kept, new, hids, hsub, hnew⟩ := hur.ids
  have hin : w.id ∈ kept ++ new := hids ▸ List.mem_map_of_mem hw
  have hold : w.id ∈ d.widgetIds := by
    rw [widgetIds_eq_flatMap]
    exact List.mem_flatMap.2 ⟨s, hs, hid⟩
  rcases List.mem_append.1 hin with hkept | hlate
  · -- it was in one section only, and that goes on as one section only
    obtain rfl : r = s := section_eq_of_shared hd.widgets hr hs (hsub.subset hkept) hid
    have hsections : e.sectionIds.Nodup := h.sectionIds_eq ▸ hd.sections
    obtain rfl : u = t :=
      List.inj_on_of_nodup_map hsections hu ht (hur.id_eq.trans hts.id_eq.symm)
    exact List.mem_map_of_mem hw
  · exact absurd hold (hnew w.id hlate)

/-- a section is laid out as it is, in the old sizes -/
theorem layOut_layout (h : e.Continues d) (hd : d.Distinct) (hr : d.InRange) (ht : t ∈ e.sections)
    (hs : s ∈ d.sections) (hts : t.Continues d.widgetIds s) :
    e.layOut (Layout.placed d.layout) s.layout = t.sizedAs d := by
  obtain ⟨kept, new, hids, hsub, hnew⟩ := hts.ids
  obtain ⟨old, late, hwidgets, rfl, rfl⟩ := List.map_eq_append_iff.1 hids
  have hin {w : Widget} (hw : w ∈ t.widgets) : w ∈ e.widgets := mem_widgets.2 ⟨t, ht, hw⟩
  have hplaced : s.layout.widgets.filterMap e.place? = old.map (Widget.sizedAs d) := by
    rw [Section.layout, List.filterMap_map]
    refine filterMap_eq_map_of_sublist hsub (nodup_ids_of_mem hd.widgets hs)
      (fun v hv w hw hwv => ?_) fun v hv hno => ?_
    · have hwe : w ∈ e.widgets := hin (hwidgets ▸ List.mem_append_left late hw)
      have hvd : v ∈ d.widgets := mem_widgets.2 ⟨s, hs, hv⟩
      show e.place? ⟨v.id, v.size⟩ = _
      rw [← hwv, place?_of_mem h.once hwe, Widget.sizedAs_of_mem hd.widgets hvd hwv]
    · refine place?_eq_none_iff.2 fun hleft => hno ?_
      have hvt := h.mem_ids_of_mem hd ht hs hts (List.mem_map_of_mem hv) hleft
      rw [hids, List.mem_append] at hvt
      exact hvt.resolve_right fun hlate => hnew _ hlate (mem_widgetIds_of_mem hs hv)
  have hrest : e.unplaced (Layout.placed d.layout) s.id = late.map (Widget.sizedAs d) := by
    have hsections : e.sectionIds.Nodup := h.sectionIds_eq ▸ hd.sections
    have hold : old.filter (fun w => w.id ∉ d.widgetIds) = [] := by
      refine List.filter_eq_nil_iff.2 fun w hw => ?_
      obtain ⟨v, hv, hvw⟩ := List.mem_map.1 (hsub.subset (List.mem_map_of_mem hw))
      simpa [← hvw] using mem_widgetIds_of_mem hs hv
    have hlate (w : Widget) (hw : w ∈ late) : w.id ∉ d.widgetIds :=
      hnew w.id (List.mem_map_of_mem hw)
    rw [unplaced, ← hts.id_eq, section?_of_mem hsections ht, placed_layout,
      map_eq_self fun w hw => Widget.sizedAs_of_notMem (hlate w hw)]
    show t.widgets.filter (fun w => w.id ∉ d.widgetIds) = late
    rw [hwidgets, List.filter_append, hold, List.nil_append]
    exact List.filter_eq_self.2 fun w hw => decide_eq_true (hlate w hw)
  obtain ⟨hid, htitle, hshow, hcolumns, -⟩ := Section.mk.inj hts.frame
  show Section.mk s.id s.title s.showTitle (clampColumns s.columns)
    (s.layout.widgets.filterMap e.place? ++ e.unplaced (Layout.placed d.layout) s.id) = _
  rw [hplaced, hrest, ← List.map_append, ← hwidgets, clampColumns_eq_self (hr s hs), ← hid,
    ← htitle, ← hshow, ← hcolumns]
  rfl

/-- **The old layout gives old sizes back**, and changes nothing else of a dashboard that goes
on. -/
theorem applyLayout_layout (h : e.Continues d) (hd : d.Distinct) (hr : d.InRange) :
    e.applyLayout d.layout = e.sizedAs d := by
  have hsections : d.layout.map (e.layOut (Layout.placed d.layout))
      = e.sections.map (Section.sizedAs d) := by
    rw [layout, List.map_map]
    exact (map_eq_map_of_forall₂ h.sections fun t ht s hs hts =>
      (h.layOut_layout hd hr ht hs hts).symm).symm
  rw [applyLayout, hsections, sizedAs]

end Continues

/-- the layout of a dashboard has nothing to change on it -/
theorem applyLayout_layout_self {d : Dashboard} (hd : d.Distinct) (hr : d.InRange) :
    d.applyLayout d.layout = d := by
  rw [(LaysOut.of_perm rfl (List.Perm.refl _)).applyLayout hd.widgets, clamped_eq_self hr]

end Dashboard

/-! ## writes of widgets -/

namespace Store

/-- `t` comes from `s` by writes of widgets to the dashboard `id`, and by calls that leave this
dashboard alone.  A widget that is created gets an id that is not among the ids `old` and that no
widget of the dashboard has. -/
inductive Written (id : String) (old : List String) (s : Store) : Store → Prop where
  | none : Written id old s s
  | create {t : Store} (w : NewWidget) (h : Written id old s t)
      (hold : widgetId t.nextId ∉ old)
      (hfree : ∀ e, t.dashboards.get? id = some e → widgetId t.nextId ∉ e.widgetIds) :
      Written id old s (t.answer (.createWidget id w)).2
  | update {t : Store} (w : Widget) (h : Written id old s t) :
      Written id old s (t.answer (.updateWidget id w)).2
  | delete {t : Store} (w : String) (h : Written id old s t) :
      Written id old s (t.answer (.deleteWidget id w)).2
  | other {t : Store} (c : Call) (h : Written id old s t)
      (hc : (t.answer c).2.dashboards.get? id = t.dashboards.get? id) :
      Written id old s (t.answer c).2

variable {s t : Store} {id : String} {d e : Dashboard}

/-- a change that goes on from a dashboard leaves one that does, as a failure does -/
theorem exists_continues_modify {α : Type} {edit : Dashboard → Except StoreError (α × Dashboard)}
    (he : t.dashboards.get? id = some e) (h : e.Continues d)
    (hedit : ∀ a f, edit e = .ok (a, f) → f.Continues d) :
    ∃ f, (t.modify id edit).2.dashboards.get? id = some f ∧ f.Continues d := by
  rcases t.modify_eq_or id edit with ht | ⟨e', a, f, he', hf, ht⟩
  · rw [ht]
    exact ⟨e, he, h⟩
  · obtain rfl := Option.some.inj (he.symm.trans he')
    have hf : f.Continues d := hedit a f hf
    refine ⟨{ f with updatedAt := some .thisSession }, ?_, hf.once, hf.sections⟩
    rw [ht, get?_put_self]

/-- behind writes of widgets the dashboard is there and goes on from what it was -/
theorem Written.exists_continues (h : s.Written id d.widgetIds t)
    (hd : s.dashboards.get? id = some d) (honce : d.widgetIds.Nodup) :
    ∃ e, t.dashboards.get? id = some e ∧ e.Continues d := by
  induction h with
  | none => exact ⟨d, hd, .refl honce⟩
  | @create u w _ hold hfree ih =>
    obtain ⟨e, he, hcont⟩ := ih
    exact exists_continues_modify (t := { u with nextId := u.nextId + 1 }) he hcont fun a f hf =>
      hcont.addWidget hold (hfree e he) hf
  | update w _ ih =>
    obtain ⟨e, he, hcont⟩ := ih
    exact exists_continues_modify he hcont fun a f hf => hcont.replaceWidget hf
  | delete w _ ih =>
    obtain ⟨e, he, hcont⟩ := ih
    refine exists_continues_modify he hcont fun a f hf => ?_
    cases hf
    exact hcont.withoutWidget w
  | other c _ hc ih =>
    obtain ⟨e, he, hcont⟩ := ih
    exact ⟨e, hc.trans he, hcont⟩

/-- **A stale layout is safe while the sections stay**: behind any writes of widgets, the layout
that a dashboard had before them gives its widgets their old sizes back, and leaves everything else
as it is by then.  That is what a store keeps when it saves that layout.  Without such writes, the
layout changes nothing. -/
theorem applyLayout_stale (hdist : d.Distinct) (hrange : d.InRange)
    (hd : s.dashboards.get? id = some d) (h : s.Written id d.widgetIds t) :
    ∃ e, t.dashboards.get? id = some e ∧ e.applyLayout d.layout = e.sizedAs d ∧
      (t.answer (.saveLayout id d.layout)).2.dashboards.get? id
        = some { e.sizedAs d with updatedAt := some .thisSession } ∧
      d.applyLayout d.layout = d := by
  obtain ⟨e, he, hcont⟩ := h.exists_continues hd hdist.widgets
  have hstale : e.applyLayout d.layout = e.sizedAs d := hcont.applyLayout_layout hdist hrange
  refine ⟨e, he, hstale, ?_, Dashboard.applyLayout_layout_self hdist hrange⟩
  rw [answer_saveLayout he, hstale]
  exact get?_put_self _ _ _

/-- ids, titles and widths of the widgets, section by section -/
def shown (d : Dashboard) : List (List (String × String × Nat)) :=
  d.sections.map fun s => s.widgets.map fun w => (w.id, w.title, w.size.width.val)

/-- one widget was created, one was renamed and made wider, and one was deleted -/
theorem applyLayout_stale_renamed :
    ∃ (s t : Store) (d e : Dashboard), d.Distinct ∧ d.InRange ∧
      s.dashboards.get? "sales" = some d ∧ s.Written "sales" d.widgetIds t ∧
      t.dashboards.get? "sales" = some e ∧
      shown d = [[("a", "A", 2), ("b", "B", 1)], [("c", "C", 1)]] ∧
      shown e = [[("a", "Renamed", 4), ("widget-1", "New", 3)], [("c", "C", 1)]] ∧
      shown (e.applyLayout d.layout)
        = [[("a", "Renamed", 2), ("widget-1", "New", 3)], [("c", "C", 1)]] := by
  let widget (id title : String) (width : Nat) : Widget :=
    { id := id, title := title, config := .kpi ⟨.single Metric.count, []⟩,
      size := { width := Span.clamp width } }
  let d : Dashboard :=
    { id := "sales", title := "Sales", view := "orders",
      sections := [
        { id := "top", title := "Top", columns := 4,
          widgets := [widget "a" "A" 2, widget "b" "B" 1] },
        { id := "rest", title := "Rest", columns := 2, widgets := [widget "c" "C" 1] }] }
  let new : NewWidget :=
    { sectionId := "top", title := "New", showTitle := false,
      config := .kpi ⟨.single Metric.count, []⟩, size := { width := Span.clamp 3 } }
  let s : Store := .ofSeed { dashboards := [d] }
  let t₁ : Store := (s.answer (.createWidget "sales" new)).2
  let t₂ : Store := (t₁.answer (.updateWidget "sales" (widget "a" "Renamed" 4))).2
  let t : Store := (t₂.answer (.deleteWidget "sales" "b")).2
  have hdist : d.Distinct := ⟨by decide, by decide⟩
  have hrange : d.InRange := by
    unfold Dashboard.InRange
    decide
  have hd : s.dashboards.get? "sales" = some d := rfl
  have hfree (e : Dashboard) (he : s.dashboards.get? "sales" = some e) :
      widgetId s.nextId ∉ e.widgetIds := by
    obtain rfl := Option.some.inj (hd.symm.trans he)
    decide +kernel
  have hwritten : s.Written "sales" d.widgetIds t :=
    .delete "b" (.update _ (.create new .none (hfree d hd) hfree))
  obtain ⟨e, he, hstale, -⟩ := applyLayout_stale hdist hrange hd hwritten
  have hnow : (t.dashboards.get? "sales").map shown
      = some [[("a", "Renamed", 4), ("widget-1", "New", 3)], [("c", "C", 1)]] := by
    decide +kernel
  have hthen : (t.dashboards.get? "sales").map (fun e => shown (e.sizedAs d))
      = some [[("a", "Renamed", 2), ("widget-1", "New", 3)], [("c", "C", 1)]] := by
    decide +kernel
  rw [he] at hnow hthen
  exact ⟨s, t, d, e, hdist, hrange, hd, hwritten, he, by decide, Option.some.inj hnow,
    hstale ▸ Option.some.inj hthen⟩

end Store

end WidgetBoard
