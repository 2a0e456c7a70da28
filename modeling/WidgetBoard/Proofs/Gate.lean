import WidgetBoard.Proofs.Canonical
import WidgetBoard.Proofs.Contracts
import WidgetBoard.Proofs.Edits

/-!
# Actions write what they have checked

A configuration is *vetted* over a view when it is its own normal form and has no violation there, a
list of filters when compiling leaves it alone and it has none.

* `Store.gate s`        the contract over a store that began as `s`: what is written to a dashboard
                        is vetted over the view that it has in `s`, and replies tell of that view;
* `Action.sound_task`   every action keeps to the gate, and filters that it results in are vetted.

Nothing is assumed of what else happens between two calls, but that the view of a dashboard stays
the same.
-/

namespace WidgetBoard

/-! ## vetted -/

structure Config.Vetted (v : View) (c : Config) : Prop where
  normal : (Draft.ofConfig c).normalize = c
  checked : c.check v = []

structure Filter.AllVetted (v : View) (fs : List Filter) : Prop where
  compiled : Filter.compile fs = fs
  checked : v.checkFilters fs = []

structure Dashboard.Vetted (v : View) (d : Dashboard) : Prop where
  widgets : ∀ w ∈ d.widgets, w.config.Vetted v
  filters : Filter.AllVetted v d.nativeFilters

/-- a normal form without violations is vetted -/
theorem Draft.vetted_normalize {d : Draft} {v : View} (h : d.normalize.check v = []) :
    d.normalize.Vetted v :=
  ⟨Config.normalize_ofConfig (Config.isCanonical_normalize d), h⟩

theorem Filter.allVetted_compile {fs : List Filter} {v : View}
    (h : v.checkFilters (Filter.compile fs) = []) : AllVetted v (Filter.compile fs) :=
  ⟨compile_eq_self (forall_mem_compile fs), h⟩

theorem Dashboard.Vetted.of_mem_configs {d : Dashboard} {v : View} (h : d.Vetted v) {c : Config}
    (hc : c ∈ d.configs) : c.Vetted v := by
  obtain ⟨w, hw, rfl⟩ := List.mem_map.1 hc
  exact h.widgets w hw

namespace Store

/-- the columns of the view of a dashboard, none if there is no such view -/
def columns (s : Store) (d : Dashboard) : View :=
  (s.views.get? d.view).getD []

/-- every dashboard is vetted over its own view -/
def Vetted (s : Store) : Prop :=
  ∀ id d, s.dashboards.get? id = some d → d.Vetted (s.columns d)

/-! ## the gate -/

def viewOf? (s : Store) (id : String) : Option String :=
  (s.dashboards.get? id).map (·.view)

/-- the columns over which writes to the dashboard `id` are vetted -/
def columnsOf (s : Store) (id : String) : View :=
  ((s.viewOf? id).bind s.views.get?).getD []

theorem columnsOf_eq_columns {s : Store} {id : String} {d : Dashboard}
    (h : s.viewOf? id = some d.view) : s.columnsOf id = s.columns d := by
  rw [columnsOf, h]
  rfl

theorem columnsOf_eq {s : Store} {id view : String} {v : View} (h : s.viewOf? id = some view)
    (hv : s.views.get? view = some v) : s.columnsOf id = v := by
  rw [columnsOf, h, Option.bind_some, hv, Option.getD_some]

def gate (s : Store) : Contract where
  allows c :=
    (∀ u, c.config? = some u → u.2.Vetted (s.columnsOf u.1)) ∧
    ∀ u, c.filters? = some u → Filter.AllVetted (s.columnsOf u.1) u.2
  replies
    | .dashboard id => fun r => ∀ d, r = .ok (some d) → s.viewOf? id = some d.view
    | .viewColumns view => fun r => ∀ v, r = .ok v → s.views.get? view = some v
    | _ => fun _ => True

theorem gate_allows {s : Store} {c : Call} (hc : c.config? = none) (hf : c.filters? = none) :
    s.gate.allows c := by
  constructor
  · intro u hu
    exact absurd (hc.symm.trans hu) nofun
  · intro u hu
    exact absurd (hf.symm.trans hu) nofun

theorem gate_allows_config {s : Store} {c : Call} {id : String} {x : Config}
    (hc : c.config? = some (id, x)) (hf : c.filters? = none) (h : x.Vetted (s.columnsOf id)) :
    s.gate.allows c := by
  constructor
  · intro u hu
    obtain rfl := Option.some.inj (hc.symm.trans hu)
    exact h
  · intro u hu
    exact absurd (hf.symm.trans hu) nofun

theorem gate_allows_filters {s : Store} {id : String} {fs : List Filter}
    (h : Filter.AllVetted (s.columnsOf id) fs) : s.gate.allows (.saveNativeFilters id fs) := by
  constructor
  · exact fun u hu => nomatch hu
  · intro u hu
    obtain rfl := Option.some.inj hu
    exact h

end Store

/-! ## every action keeps to the gate -/

namespace Task

variable (s : Store) (id : String)

theorem sound_dashboard : (dashboard id).Sound s.gate fun d => s.viewOf? id = some d.view := by
  refine Sound.bind (sound_ask (Store.gate_allows rfl rfl) fun a h => h) fun o ho => ?_
  exact sound_found fun d hd => ho d (congrArg Except.ok hd)

theorem sound_sectionOf (sectionId : String) :
    (sectionOf id sectionId).Sound s.gate fun p => s.viewOf? id = some p.1.view := by
  refine (sound_dashboard s id).bind fun d hd => ?_
  exact Sound.bind (sound_found fun _ h => h) fun _ _ => sound_pure hd

theorem sound_viewColumns (view : String) :
    (ask (.viewColumns view)).Sound s.gate fun v => s.views.get? view = some v :=
  sound_ask (Store.gate_allows rfl rfl) fun v h => h v rfl

/-! ### layouts -/

theorem sound_commitLayout (d : Dashboard) : (commitLayout d).Sound s.gate fun _ => True :=
  (sound_attempt (Store.gate_allows rfl rfl)).bind fun _ _ => sound_pure trivial

theorem sound_addSection (newId title : String) (columns : Nat) :
    (addSection id newId title columns).Sound s.gate fun _ => True :=
  (sound_dashboard s id).bind fun _ _ => sound_commitLayout s _

theorem sound_removeSection (sectionId : String) :
    (removeSection id sectionId).Sound s.gate fun _ => True :=
  (sound_sectionOf s id sectionId).bind fun _ _ => sound_commitLayout s _

theorem sound_setColumns (sectionId : String) (columns : Nat) :
    (setColumns id sectionId columns).Sound s.gate fun _ => True :=
  (sound_sectionOf s id sectionId).bind fun _ _ => sound_commitLayout s _

theorem sound_reorderWidgets (sectionId source target : String) :
    (reorderWidgets id sectionId source target).Sound s.gate fun _ => True := by
  refine (sound_sectionOf s id sectionId).bind fun _ _ => ?_
  exact Sound.bind (sound_found fun _ h => h) fun _ _ => sound_commitLayout s _

theorem sound_reorderSections (source target : String) :
    (reorderSections id source target).Sound s.gate fun _ => True := by
  refine (sound_dashboard s id).bind fun _ _ => ?_
  exact Sound.bind (sound_found fun _ h => h) fun _ _ => sound_commitLayout s _

theorem sound_resizeWidget (sectionId widget : String) (width : Nat) :
    (resizeWidget id sectionId widget width).Sound s.gate fun _ => True := by
  refine (sound_sectionOf s id sectionId).bind fun _ _ => ?_
  exact Sound.bind (sound_found fun _ h => h) fun _ _ => sound_commitLayout s _

theorem sound_dragWidget (sectionId widget : String) (drag : PointerDrag) :
    (dragWidget id sectionId widget drag).Sound s.gate fun _ => True := by
  refine (sound_sectionOf s id sectionId).bind fun _ _ => ?_
  exact Sound.bind (sound_found fun _ h => h) fun _ _ => sound_commitLayout s _

/-! ### widgets and filters -/

theorem sound_deleteWidget (widget : String) :
    (deleteWidget id widget).Sound s.gate fun _ => True := by
  refine (sound_dashboard s id).bind fun d _ => ?_
  refine Sound.bind (sound_found fun _ h => h) fun _ _ => ?_
  exact Sound.bind (sound_ask (Store.gate_allows rfl rfl) fun _ h => h) fun _ _ =>
    sound_pure trivial

/-- what is written has been checked over the view that the dashboard always has -/
theorem sound_saveWidget (sectionId : String) (w : Submission) :
    (saveWidget id sectionId w).Sound s.gate fun _ => True := by
  refine (sound_sectionOf s id sectionId).bind fun p hp => ?_
  refine (sound_viewColumns s p.1.view).bind fun v hv => ?_
  refine sound_require.bind fun _ hr => ?_
  have hc : (w.draft.compile v).config.Vetted (s.columnsOf id) := by
    rw [Store.columnsOf_eq hp hv]
    exact Draft.vetted_normalize hr
  cases w.id with
  | some widget =>
    refine Sound.bind (sound_found fun _ h => h) fun _ _ => ?_
    exact sound_ask (Store.gate_allows_config rfl rfl hc) fun _ _ => trivial
  | none => exact sound_ask (Store.gate_allows_config rfl rfl hc) fun _ _ => trivial

theorem sound_prepareFilters (fs : List Filter) :
    (prepareFilters id fs).Sound s.gate fun gs => Filter.AllVetted (s.columnsOf id) gs := by
  refine (sound_dashboard s id).bind fun d hd => ?_
  refine (sound_viewColumns s d.view).bind fun v hv => ?_
  refine sound_require.bind fun _ hr => sound_pure ?_
  rw [Store.columnsOf_eq hd hv]
  exact Filter.allVetted_compile hr

end Task

/-- filters that an action results in are vetted -/
def Outcome.Vetted (v : View) : Outcome → Prop
  | .nativeFilters fs => Filter.AllVetted v fs
  | .dashboard _ | .widget _ | .inspections _ => True

namespace Action

theorem sound_task (s : Store) (newId id : String) (a : Action) :
    (a.task newId id).Sound s.gate fun o => o.Vetted (s.columnsOf id) := by
  have dashboard {t : Task Dashboard} (h : t.Sound s.gate fun _ => True) :
      (Outcome.dashboard <$> t).Sound s.gate fun o => o.Vetted (s.columnsOf id) :=
    h.map fun _ _ => trivial
  cases a with
  | get => exact (Task.sound_dashboard s id).map fun _ _ => trivial
  | inspect => exact (Task.sound_dashboard s id).map fun _ _ => trivial
  | save sectionId w => exact (Task.sound_saveWidget s id sectionId w).map fun _ _ => trivial
  | delete w => exact dashboard (Task.sound_deleteWidget s id w)
  | addSection title columns => exact dashboard (Task.sound_addSection s id newId title columns)
  | removeSection sectionId => exact dashboard (Task.sound_removeSection s id sectionId)
  | setColumns sectionId n => exact dashboard (Task.sound_setColumns s id sectionId n)
  | reorderWidgets sectionId w v => exact dashboard (Task.sound_reorderWidgets s id sectionId w v)
  | reorderSections t u => exact dashboard (Task.sound_reorderSections s id t u)
  | resize sectionId w n => exact dashboard (Task.sound_resizeWidget s id sectionId w n)
  | drag sectionId w p => exact dashboard (Task.sound_dragWidget s id sectionId w p)
  | setNativeFilters fs => exact (Task.sound_prepareFilters s id fs).map fun _ h => h

end Action

end WidgetBoard
