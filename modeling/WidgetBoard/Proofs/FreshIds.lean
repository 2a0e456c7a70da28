import Mathlib.Algebra.Group.Nat.Defs
import WidgetBoard.Proofs.Guarded
import WidgetBoard.Proofs.Turns
import WidgetBoard.Proofs.WidgetWrites

/-!
# The ids of new widgets

Every widget is addressed by its id.  The store numbers the widgets that it makes from one on,
whatever ids the widgets of its seed have.

* `Store.WidgetsDistinct`   no dashboard has two widgets with one id;
* `Store.SectionsOnce`      nor two sections with an id that the service makes;
* `Store.Fresh`             and the ids that are still to be given are not in use: what every turn of
                            a session keeps.

Main statement: `Session.widgetsDistinct_turns_iff` (the widgets of every dashboard keep different
ids just if the seed uses none that are still to be given).
-/

namespace WidgetBoard

open Session (sectionIdAt)

/-- no two places of a list have an id that is there once -/
theorem pairwise_of_count_le_one {α : Type} {key : α → String} {l : List α} {k : String}
    (h : (l.map key).count k ≤ 1) : l.Pairwise fun a b => ¬ (key a = k ∧ key b = k) := by
  rw [List.pairwise_iff_forall_sublist]
  rintro a b hab ⟨ha, hb⟩
  have htwo := (hab.map key).count_le k
  simp [ha, hb] at htwo
  omega

/-! ## ids that are given -/

theorem eq_of_toString_eq {m n : Nat} (h : toString m = toString n) : m = n := by
  have hdigits : Nat.toDigits 10 m = Nat.toDigits 10 n := by
    simpa using congrArg String.toList h
  rw [← Nat.ofDigitChars_ten_toDigits (n := m), hdigits, Nat.ofDigitChars_ten_toDigits]

theorem Store.widgetId_inj {m n : Nat} (hm : m < 2 ^ 64) (hn : n < 2 ^ 64)
    (h : widgetId m = widgetId n) : m = n := by
  have hmod : m % 2 ^ 64 = n % 2 ^ 64 := eq_of_toString_eq ((String.append_right_inj _).1 h)
  rwa [Nat.mod_eq_of_lt hm, Nat.mod_eq_of_lt hn] at hmod

namespace Dashboard

/-- `next` is the number of the next widget -/
structure Fresh (views : Dictionary View) (next : Nat) (d : Dashboard) : Prop where
  widgets : d.widgetIds.Nodup
  sections : ∀ moment, d.sectionIds.count (sectionIdAt moment) ≤ 1
  /-- no widget can be saved without a view -/
  ahead : (views.get? d.view).isSome →
    ∀ n, next ≤ n → n < 2 ^ 64 → Store.widgetId n ∉ d.widgetIds

namespace Fresh

variable {views : Dictionary View} {next : Nat} {d e : Dashboard}

theorem mono (h : d.Fresh views next) {next' : Nat} (hn : next ≤ next') : d.Fresh views next' :=
  { h with ahead := fun hv n hle => h.ahead hv n (Nat.le_trans hn hle) }

/-- with fewer widgets in the same sections -/
theorem withoutWidget (h : d.Fresh views next) (w : String) :
    (d.withoutWidget w).Fresh views next where
  widgets := (d.widgetIds_withoutWidget_sublist w).nodup h.widgets
  sections t := by
    rw [sectionIds_withoutWidget]
    exact h.sections t
  ahead hv n hle hlt hin :=
    h.ahead hv n hle hlt ((d.widgetIds_withoutWidget_sublist w).subset hin)

theorem keepsIds (h : d.Fresh views next) (he : d.KeepsIds e) : e.Fresh views next where
  widgets := he.widgets ▸ h.widgets
  sections t := he.sections ▸ h.sections t
  ahead hv n hle hlt := by
    rw [he.widgets]
    exact h.ahead (he.view ▸ hv) n hle hlt

/-- with the next widget -/
theorem adds (h : d.Fresh views next) (hnext : next < 2 ^ 64) (hv : (views.get? d.view).isSome)
    {w : Widget} (hw : w.id = Store.widgetId next) (he : d.Adds w e) :
    e.Fresh views (next + 1) where
  widgets := by
    rw [he.widgets.nodup_iff, List.nodup_cons, hw]
    exact ⟨h.ahead hv next (Nat.le_refl _) hnext, h.widgets⟩
  sections t := he.sections ▸ h.sections t
  ahead _ n hle hlt hin := by
    rcases List.mem_cons.1 (he.widgets.subset hin) with heq | hin
    · have hnum : n = next := Store.widgetId_inj hlt hnext (heq.trans hw)
      omega
    · exact h.ahead hv n (by omega) hlt hin

/-- behind the layout of an edited dashboard -/
theorem applyLayout (h : d.Fresh views next) {made : Option String} (he : e.Rearranges made d)
    (hmade : ∀ id, made = some id → ∃ moment, id = sectionIdAt moment) :
    (d.applyLayout e.layout).Fresh views next := by
  have hplaced : Layout.placed e.layout = e.widgetIds := e.placed_layout
  have honce (moment : Nat) : e.sectionIds.count (sectionIdAt moment) ≤ 1 := by
    have hold := h.sections moment
    have hnew := he.once (sectionIdAt moment)
    omega
  refine ⟨nodup_widgetIds_applyLayout h.widgets ?_ ?_, fun moment => ?_, fun hv n hle hlt hin => ?_⟩
  · rw [hplaced]
    exact nodup_widgetIds_of_subperm he.widgets h.widgets
  · -- only the section that is made may have something left over, and it is there once
    cases made with
    | none =>
      refine List.pairwise_of_forall_mem_list fun s hs _ _ _ => ?_
      exact he.unplaced_eq_nil (mem_sectionIds_of_mem_layout hs) nofun
    | some new =>
      obtain ⟨moment, rfl⟩ := hmade new rfl
      have hids : (e.layout.map (·.id)).count (sectionIdAt moment) ≤ 1 := by
        rw [sectionIds_layout]
        exact honce moment
      refine (pairwise_of_count_le_one hids).imp_of_mem fun {s t} hs _ hst heq => ?_
      refine he.unplaced_eq_nil (mem_sectionIds_of_mem_layout hs) fun hnew => ?_
      have hs := (Option.some.inj hnew).symm
      exact hst ⟨hs, heq ▸ hs⟩
  · rw [sectionIds_applyLayout, sectionIds_layout]
    exact honce moment
  · refine h.ahead hv n hle hlt ?_
    rcases mem_widgetIds_applyLayout.1 hin with ⟨-, hin⟩ | ⟨s, -, t, ht, hin⟩
    · exact hin
    · obtain ⟨w, hw, heq⟩ := List.mem_map.1 hin
      exact heq ▸ mem_widgetIds_of_mem (mem_sections_of_section? ht) hw

end Fresh

end Dashboard

/-! ## stores -/

namespace Store

/-- no dashboard has two widgets with one id -/
def WidgetsDistinct (s : Store) : Prop :=
  ∀ id d, s.dashboards.get? id = some d → d.widgetIds.Nodup

/-- no dashboard has two sections with an id that the service makes -/
def SectionsOnce (s : Store) : Prop :=
  ∀ id d, s.dashboards.get? id = some d →
    ∀ moment, d.sectionIds.count (sectionIdAt moment) ≤ 1

theorem WidgetsDistinct.nodup {s : Store} (h : s.WidgetsDistinct) (id : String) {ids : List String}
    (hids : (s.dashboards.get? id).map (·.widgetIds) = some ids) : ids.Nodup := by
  obtain ⟨d, hd, rfl⟩ := Option.map_eq_some_iff.1 hids
  exact h id d hd

theorem widgetsDistinct_ofSeed {seed : Seed} (h : ∀ d ∈ seed.dashboards, d.widgetIds.Nodup) :
    (ofSeed seed).WidgetsDistinct :=
  fun _ d hd => h d (mem_dashboards_of_ofSeed hd)

theorem sectionsOnce_ofSeed {seed : Seed} (h : ∀ d ∈ seed.dashboards, d.sectionIds.Nodup) :
    (ofSeed seed).SectionsOnce :=
  fun _ d hd _ => List.nodup_iff_count_le_one.1 (h d (mem_dashboards_of_ofSeed hd)) _

structure Fresh (s : Store) : Prop where
  own : ∀ id d, s.dashboards.get? id = some d → d.id = id
  dashboards : ∀ id d, s.dashboards.get? id = some d → d.Fresh s.views s.nextId

namespace Fresh

variable {s t : Store} {id : String} {d : Dashboard}

theorem widgetsDistinct (h : s.Fresh) : s.WidgetsDistinct :=
  fun id d hd => (h.dashboards id d hd).widgets

theorem put (h : s.Fresh) (hid : d.id = id) (hd : d.Fresh s.views s.nextId) :
    (s.put id d).Fresh where
  own k e he := by
    rw [get?_put] at he
    split at he
    · next hk =>
      cases he
      exact hid.trans hk.symm
    · exact h.own k e he
  dashboards k e he := by
    rw [get?_put] at he
    split at he
    · cases he
      exact { hd with }
    · exact h.dashboards k e he

/-- a number may be passed over -/
theorem skip (h : s.Fresh) : Fresh { s with nextId := s.nextId + 1 } where
  own := h.own
  dashboards id d hd := (h.dashboards id d hd).mono (Nat.le_succ _)

/-- a change that keeps every dashboard so keeps the store so -/
theorem modify {α : Type} {edit : Dashboard → Except StoreError (α × Dashboard)} (h : s.Fresh)
    (hedit : ∀ d a e, edit d = .ok (a, e) → d.Fresh s.views s.nextId →
      e.id = d.id ∧ e.Fresh s.views s.nextId) : (s.modify id edit).2.Fresh := by
  rcases s.modify_eq_or id edit with hs | ⟨d, a, e, hd, he, hs⟩
  · rw [hs]
    exact h
  · rw [hs]
    obtain ⟨hid, hfresh⟩ := hedit d a e he (h.dashboards id d hd)
    exact h.put (hid.trans (h.own id d hd)) hfresh

theorem saveNativeFilters (h : s.Fresh) (id : String) (fs : List Filter) :
    (s.answer (.saveNativeFilters id fs)).2.Fresh :=
  h.modify fun d _ e he hd => by
    cases he
    exact ⟨rfl, { hd with }⟩

theorem saveAll (h : s.Fresh) (us : List FilterUpdate) : (s.saveAll us).Fresh := by
  induction us generalizing s with
  | nil => exact h
  | cons u us ih => exact ih (h.saveNativeFilters u.1 u.2)

/-- every action leaves it so, while there are ids to be given -/
theorem leaves (h : s.Fresh) (hnext : s.nextId < 2 ^ 64) {moment : Nat} {a : Action}
    (ht : a.Leaves (sectionIdAt moment) id s t) : t.Fresh := by
  cases ht with
  | same => exact h
  | relayout ha hd he =>
    rename_i f d e
    have hre := Action.rearranges_of_relayout? ha he
    have hid : d.id = id := h.own id d hd
    have heid : e.id = id := by
      rw [hre.frame]
      exact hid
    rw [heid, answer_saveLayout hd]
    exact h.put hid ((h.dashboards id d hd).applyLayout hre fun k hk =>
      ⟨moment, Action.eq_of_made? hk⟩)
  | delete w hd =>
    rename_i d
    exact h.put (h.own id d hd) ((h.dashboards id d hd).withoutWidget w)
  | create hd hu hv hw hc =>
    rename_i d u v sectionId w
    obtain ⟨e, hadds, hans⟩ := answer_createWidget
      (w := w.compiled sectionId (w.draft.compile v).config) hd hu
    rw [hans]
    refine h.skip.put (hadds.id.trans (h.own id d hd)) ?_
    exact (h.dashboards id d hd).adds hnext (Option.isSome_of_eq_some hv) rfl hadds
  | update =>
    exact h.modify fun d _ e he hd =>
      have hkeeps := keepsIds_replaceWidget he
      ⟨hkeeps.id, hd.keepsIds hkeeps⟩

end Fresh

/-- an action uses up one number at most -/
theorem nextId_leaves {s t : Store} {newId id : String} {a : Action} (h : a.Leaves newId id s t) :
    t.nextId ≤ s.nextId + 1 := by
  cases h with
  | same | delete => exact Nat.le_succ _
  | relayout | create | update => exact (s.nextId_answer _).2

theorem nextId_saveAll (s : Store) (us : List FilterUpdate) :
    (s.saveAll us).nextId = s.nextId := by
  induction us generalizing s with
  | nil => rfl
  | cons u us ih => exact (ih (s.answer (.saveNativeFilters u.1 u.2)).2).trans (s.nextId_modify ..)

theorem fresh_ofSeed {seed : Seed} (hwidgets : (ofSeed seed).WidgetsDistinct)
    (hsections : (ofSeed seed).SectionsOnce)
    (hahead : ∀ id d, (ofSeed seed).dashboards.get? id = some d →
      (seed.views.get? d.view).isSome → ∀ n, 0 < n → n < 2 ^ 64 → widgetId n ∉ d.widgetIds) :
    (ofSeed seed).Fresh where
  own := (Reachable.ofSeed seed).id_eq
  dashboards id d hd :=
    { widgets := hwidgets id d hd
      sections := hsections id d hd
      ahead := hahead id d hd }

end Store

/-! ## sessions -/

namespace Session

variable {s : Session}

theorem fresh_turn (hw : s.writable = true) (h : s.store.Fresh) (hnext : s.store.nextId < 2 ^ 64)
    (t : Turn) :
    (s.turn t).store.Fresh ∧ (s.turn t).store.nextId ≤ s.store.nextId + 1 := by
  rcases s.store_turn hw t with ⟨moment, id, a, hl⟩ | ⟨us, hs⟩
  · exact ⟨h.leaves hnext hl, Store.nextId_leaves hl⟩
  · rw [hs, Store.nextId_saveAll]
    exact ⟨h.saveAll us, Nat.le_succ _⟩

/-- the ids that are still to be given stay free -/
theorem fresh_turns (hw : s.writable = true) (h : s.store.Fresh) (ts : List Turn)
    (hnext : s.store.nextId + ts.length ≤ 2 ^ 64) : (s.turns ts).store.Fresh := by
  induction ts generalizing s with
  | nil => exact h
  | cons t ts ih =>
    rw [List.length_cons] at hnext
    obtain ⟨hfresh, hle⟩ := fresh_turn hw h (by omega) t
    exact ih ((s.writable_turn t).trans hw) hfresh (by omega)

/-! ### saving again and again -/

/-- the count of all rows, which can be shown over every view -/
def countWidget : Submission :=
  { title := "Count", draft := { kind := .kpi } }

theorem violations_countWidget (v : View) : (countWidget.draft.compile v).violations = [] := rfl

variable {id : String} {d : Dashboard}

theorem exists_turn_save (hw : s.writable = true) {t : Section} {v : View}
    (hd : s.store.dashboards.get? id = some d) (ht : d.section? t.id = some t)
    (hv : s.store.views.get? d.view = some v) :
    ∃ w e, w.id = Store.widgetId s.store.nextId ∧ d.Adds w e ∧
      (s.turn (.request id (.save t.id countWidget))).store
        = { s.store with nextId := s.store.nextId + 1 }.put id e := by
  let new := countWidget.compiled t.id (countWidget.draft.compile v).config
  obtain ⟨e, hadds, hans⟩ := Store.answer_createWidget (w := new) hd ht
  refine ⟨_, e, rfl, hadds, ?_⟩
  have hrun : ((Action.save t.id countWidget).plan (s.newSectionId (s.sectionsMade + 1)) id).run
      Store.answer s.store = (Outcome.widget <$> Task.saveWidget id t.id countWidget).exec s.store :=
    rfl
  rw [store_turn_request s hw, hrun, Task.exec_map, Task.exec_saveWidget, hd]
  simp only [ht, hv, violations_countWidget]
  show ((Task.ask (.createWidget id new)).exec s.store).2 = _
  rw [Task.exec_ask, hans]

/-- the widgets of a dashboard that are there, and one more for each save -/
theorem exists_turns_saves (n : Nat) (hw : s.writable = true) {x : String}
    (hd : s.store.dashboards.get? id = some d) (hx : x ∈ d.sectionIds)
    (hv : (s.store.views.get? d.view).isSome) :
    ∃ e, (s.turns (.replicate n (.request id (.save x countWidget)))).store.dashboards.get? id
        = some e ∧
      e.widgetIds.Perm ((List.range' s.store.nextId n).map Store.widgetId ++ d.widgetIds) := by
  induction n generalizing s d with
  | zero => exact ⟨d, hd, List.Perm.refl _⟩
  | succ n ih =>
    obtain ⟨t, ht⟩ := Option.isSome_iff_exists.1 (Dashboard.section?_isSome_iff.2 hx)
    obtain ⟨v, hv⟩ := Option.isSome_iff_exists.1 hv
    obtain rfl := Dashboard.id_of_section? ht
    obtain ⟨w, e, hid, hadds, hstore⟩ := exists_turn_save hw hd ht hv
    obtain ⟨e', he', hperm⟩ := ih (s := s.turn (.request id (.save t.id countWidget)))
      (d := { e with updatedAt := some .thisSession }) ((s.writable_turn _).trans hw)
      (by rw [hstore, Store.get?_put_self]) (hadds.sections ▸ hx)
      (by rw [hstore]; exact hadds.view ▸ Option.isSome_of_eq_some hv)
    refine ⟨e', he', hperm.trans ?_⟩
    have hone : e.widgetIds.Perm (Store.widgetId s.store.nextId :: d.widgetIds) :=
      hid ▸ hadds.widgets
    rw [hstore, List.range'_succ, List.map_cons, List.cons_append]
    exact (hone.append_left _).trans List.perm_middle

/-- **The widgets of every dashboard keep different ids**, as long as the counter's 64 bits last,
just if no dashboard of the seed on which widgets can be saved has a widget with an id that is still
to be given. -/
theorem widgetsDistinct_turns_iff {seed : Seed} (hwidgets : (Store.ofSeed seed).WidgetsDistinct)
    (hsections : (Store.ofSeed seed).SectionsOnce) :
    (∀ opened quiet ts, ts.length < 2 ^ 64 →
        ((start seed opened quiet).turns ts).store.WidgetsDistinct) ↔
      ∀ id d, (Store.ofSeed seed).dashboards.get? id = some d →
        (seed.views.get? d.view).isSome →
          ∀ n, 0 < n → n < 2 ^ 64 → Store.widgetId n ∉ d.widgetIds := by
  constructor
  · intro hruns id d hd hv n hpos hlt hin
    obtain ⟨x, hx, -⟩ := Dashboard.mem_widgetIds.1 hin
    obtain ⟨e, he, hperm⟩ := exists_turns_saves n (s := start seed 0 0) rfl hd
      (List.mem_map_of_mem hx) hv
    have hdistinct := hruns 0 0 _ (by rwa [List.length_replicate]) id e he
    -- the `n`-th save gives the id again
    have hagain : Store.widgetId n ∈ (List.range' 1 n).map Store.widgetId :=
      List.mem_map_of_mem (List.mem_range'_1.2 ⟨hpos, by omega⟩)
    rw [hperm.nodup_iff, List.nodup_append] at hdistinct
    exact hdistinct.2.2 _ hagain _ hin rfl
  · intro hahead opened quiet ts hlt
    have hfresh := Store.fresh_ofSeed hwidgets hsections hahead
    have hnext : (start seed opened quiet).store.nextId + ts.length ≤ 2 ^ 64 := by
      show 1 + ts.length ≤ 2 ^ 64
      omega
    exact (fresh_turns rfl hfresh ts hnext).widgetsDistinct

/-- no widget gets the id `count` -/
theorem widgetsDistinct_turns_count :
    ∃ seed, (∀ d ∈ seed.dashboards, d.widgetIds = ["count"]) ∧ seed.dashboards.length = 1 ∧
      ∀ opened quiet ts, ts.length < 2 ^ 64 →
        ((start seed opened quiet).turns ts).store.WidgetsDistinct := by
  let count : Widget :=
    { id := "count", title := "Orders", config := .kpi ⟨.single Metric.count, []⟩ }
  let sales : Dashboard :=
    { id := "sales", title := "Sales", view := "orders",
      sections := [{ id := "top", title := "Top", columns := 4, widgets := [count] }] }
  let seed : Seed := { dashboards := [sales], views := .ofList [("orders", [])] }
  have hids : ∀ d ∈ seed.dashboards, d.widgetIds = ["count"] ∧ d.sectionIds = ["top"] := by
    intro d hd
    obtain rfl := List.mem_singleton.1 hd
    exact ⟨rfl, rfl⟩
  have hwidgets : (Store.ofSeed seed).WidgetsDistinct :=
    Store.widgetsDistinct_ofSeed fun d hd => (hids d hd).1 ▸ List.nodup_singleton _
  have hsections : (Store.ofSeed seed).SectionsOnce :=
    Store.sectionsOnce_ofSeed fun d hd => (hids d hd).2 ▸ List.nodup_singleton _
  refine ⟨seed, fun d hd => (hids d hd).1, rfl,
    (widgetsDistinct_turns_iff hwidgets hsections).2 fun id d hd _ n _ _ hin => ?_⟩
  rw [(hids d (Store.mem_dashboards_of_ofSeed hd)).1] at hin
  have hfirst := congrArg (fun t : String => t.toList.head?) (List.mem_singleton.1 hin)
  simp [Store.widgetId] at hfirst

/-- the first widget that is saved gets an id that a widget of the seed has; and a section that is
made under an id that two sections have doubles the widgets of the first -/
theorem not_widgetsDistinct_turns :
    (∃ seed action, (∀ d ∈ seed.dashboards, d.widgetIds.Nodup ∧ d.sectionIds.Nodup) ∧
      ¬ ((start seed 0 0).turn (.request "sales" action)).store.WidgetsDistinct) ∧
    ∃ seed action, (∀ d ∈ seed.dashboards, d.widgetIds.Nodup) ∧ seed.views.entries = [] ∧
      ¬ ((start seed 0 0).turn (.request "sales" action)).store.WidgetsDistinct := by
  let widget (id : String) : Widget :=
    { id := id, title := "Orders", config := .kpi ⟨.single Metric.count, []⟩ }
  let top (id : String) (widgets : List Widget) : Section :=
    { id := id, title := "Top", columns := 4, widgets := widgets }
  let sales (sections : List Section) : Dashboard :=
    { id := "sales", title := "Sales", view := "orders", sections := sections }
  constructor
  · let board := sales [top "top" [widget "widget-1"]]
    refine ⟨{ dashboards := [board], views := .ofList [("orders", [])] }, .save "top" countWidget,
      ?_, fun h => ?_⟩
    · simpa using (by decide : board.widgetIds.Nodup ∧ board.sectionIds.Nodup)
    · have hids : ["widget-1", "widget-1"].Nodup := h.nodup "sales" (by decide +kernel)
      exact absurd hids (by decide)
  · let board := sales [top "section-1" [widget "count"], top "section-1" []]
    refine ⟨{ dashboards := [board] }, .addSection "New" 4, ?_, rfl, fun h => ?_⟩
    · simpa using (by decide : board.widgetIds.Nodup)
    · have hids : ["count", "count"].Nodup := h.nodup "sales" (by decide +kernel)
      exact absurd hids (by decide)

end Session

end WidgetBoard
