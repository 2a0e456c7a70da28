import WidgetBoard.Proofs.Gate
import WidgetBoard.Proofs.Interleaving
import WidgetBoard.Proofs.Records
import WidgetBoard.Wire.Service

/-!
# Nothing unchecked is stored

A store that begins with vetted dashboards has vetted dashboards ever after, however requests and
the worker that saves filters are scheduled.  The view of a dashboard never changes, so what a
request has checked is still right when it is written, whatever happened in between.

* `Store.Guarded s t`    the store `t` has the views of `s`, and vetted dashboards over them;
* `System.Guarded s t`   so has its store, and all that is under way keeps to the gate of `s`;
* `System.Guarded.step`  whatever happens next, that stays so;
* `Seed.Valid`           what a seed must be like: the configurations in it, which reading has
                         normalized, have no violations, and its filters are vetted.

Main statement: `System.vetted_store_run`.
-/

namespace WidgetBoard

/-! ## guarded stores -/

/-- the store `t` may have come from `s` by writes through the gate of `s` -/
structure Store.Guarded (s t : Store) : Prop where
  views : t.views = s.views
  dashboards : ∀ id d, t.dashboards.get? id = some d →
    s.viewOf? id = some d.view ∧ d.Vetted (s.columnsOf id)

namespace Store

variable {s t : Store}

theorem guarded_self (h : s.Vetted) : s.Guarded s where
  views := rfl
  dashboards id d hd := by
    have hv : s.viewOf? id = some d.view := by rw [viewOf?, hd]; rfl
    refine ⟨hv, ?_⟩
    rw [columnsOf_eq_columns hv]
    exact h id d hd

/-- an edit through the gate keeps a dashboard vetted -/
theorem vetted_of_edits {c : Call} {id : String} {d e : Dashboard} (h : c.Edits id d e)
    (hc : s.gate.allows c) (hd : d.Vetted (s.columnsOf id)) : e.Vetted (s.columnsOf id) where
  widgets w hw := by
    rcases h.configs w.config (List.mem_map.2 ⟨w, hw, rfl⟩) with hm | hm
    · exact hd.of_mem_configs hm
    · exact hc.1 (id, w.config) hm
  filters := by
    rcases h.filters with hf | hf
    · rw [hf]
      exact hd.filters
    · exact hc.2 (id, e.nativeFilters) hf

theorem Guarded.answer (h : s.Guarded t) {c : Call} (hc : s.gate.allows c) :
    s.Guarded (t.answer c).2 where
  views := (t.views_answer c).trans h.views
  dashboards id e he := by
    rcases edits_of_answer he with he | ⟨d, hd, hedit⟩
    · exact h.dashboards id e he
    · obtain ⟨hv, hvet⟩ := h.dashboards id d hd
      exact ⟨by rw [hedit.view, hv], vetted_of_edits hedit hc hvet⟩

/-- a guarded store replies as the gate has it -/
theorem Guarded.replies (h : s.Guarded t) (c : Call) : s.gate.replies c (t.answer c).1 := by
  cases c with
  | dashboard id =>
    intro d hd
    exact (h.dashboards id d (Except.ok.inj hd)).1
  | viewColumns view =>
    intro v hv
    rw [← h.views]
    cases hw : t.views.get? view with
    | some w =>
      simp only [Store.answer, hw, Except.ok.injEq] at hv
      rw [hv]
    | none => simp [Store.answer, hw] at hv
  | createWidget | updateWidget | deleteWidget | saveLayout | saveNativeFilters => exact trivial

theorem gate_replies_error (s : Store) (c : Call) (e : StoreError) :
    s.gate.replies c (.error e) := by
  cases c with
  | dashboard | viewColumns => exact fun _ h => nomatch h
  | createWidget | updateWidget | deleteWidget | saveLayout | saveNativeFilters => exact trivial

theorem Guarded.vetted (h : s.Guarded t) : t.Vetted := by
  intro id d hd
  obtain ⟨hv, hvet⟩ := h.dashboards id d hd
  have hc : s.columnsOf id = t.columns d := by
    rw [columnsOf_eq_columns hv, columns, columns, h.views]
  rw [← hc]
  exact hvet

end Store

/-! ## filters that wait -/

namespace Debounce

theorem mem_flush_submit {b : Debounce} {now : Nat} {id : String} {fs : List Filter}
    {u : FilterUpdate} (h : u ∈ (b.submit now id fs).flush) : u = (id, fs) ∨ u ∈ b.flush := by
  obtain ⟨e, he, rfl⟩ := List.mem_map.1 h
  rcases mem_insertEntry he with rfl | he
  · exact Or.inl rfl
  · exact Or.inr (List.mem_map.2 ⟨e, he, rfl⟩)

theorem mem_flush_of_mem_due {b : Debounce} {now : Nat} {u : FilterUpdate} (h : u ∈ b.due now) :
    u ∈ b.flush := by
  obtain ⟨e, he, hu⟩ := List.mem_filterMap.1 h
  split at hu
  · exact List.mem_map.2 ⟨e, he, Option.some.inj hu⟩
  · exact nomatch hu

theorem mem_flush_of_mem_later {b : Debounce} {now : Nat} {u : FilterUpdate}
    (h : u ∈ (b.later now).flush) : u ∈ b.flush := by
  obtain ⟨e, he, rfl⟩ := List.mem_map.1 h
  obtain ⟨w, hw, hlater⟩ := Dictionary.mem_filterMap he
  split at hlater
  · exact nomatch hlater
  · cases hlater
    exact List.mem_map.2 ⟨_, hw, rfl⟩

end Debounce

/-! ## guarded systems -/

/-- filters that may be saved -/
def FilterUpdate.Allowed (s : Store) (u : FilterUpdate) : Prop :=
  Filter.AllVetted (s.columnsOf u.1) u.2

/-- what is left of a request keeps to the gate, and filters it hands in may be saved -/
def Ongoing.Sound (s : Store) (r : Ongoing) : Prop :=
  r.rest.Sound s.gate fun a => ∀ u ∈ handedIn r.dashboard a, FilterUpdate.Allowed s u

structure System.Guarded (s : Store) (t : System) : Prop where
  store : s.Guarded t.store
  requests : ∀ r ∈ t.requests, r.Sound s
  queue : ∀ u ∈ t.queue, FilterUpdate.Allowed s u
  waiting : ∀ u ∈ t.debounce.flush, FilterUpdate.Allowed s u
  saving : ∀ u ∈ t.saving, FilterUpdate.Allowed s u

theorem Action.sound_plan (s : Store) (newId id : String) (a : Action) :
    Ongoing.Sound s ⟨id, a.plan newId id⟩ := by
  refine (a.sound_task s newId id).mono fun r hr u hu => ?_
  cases r with
  | error e => exact nomatch hu
  | ok o =>
    have ho := hr o rfl
    cases o with
    | nativeFilters fs =>
      obtain rfl := List.mem_singleton.1 hu
      exact ho
    | dashboard | widget | inspections => exact nomatch hu

namespace System.Guarded

variable {s : Store} {t : System}

theorem start {seed : Seed} (h : (Store.ofSeed seed).Vetted) (quiet : Nat) :
    Guarded (.ofSeed seed) (.start seed quiet) where
  store := Store.guarded_self h
  requests _ hr := nomatch hr
  queue _ hu := nomatch hu
  waiting _ hu := nomatch hu
  saving _ hu := nomatch hu

/-- a request goes on soundly behind a reply that the gate has -/
theorem resume (h : Guarded s t) (i : Nat) {reply : (c : Call) → c.Reply × Store}
    (hr : ∀ c, s.gate.allows c → s.gate.replies c (reply c).1 ∧ s.Guarded (reply c).2) :
    Guarded s (t.resume i reply) := by
  unfold System.resume
  split
  · next id c next hi =>
    obtain ⟨hc, hnext⟩ := h.requests _ (List.mem_of_getElem? hi)
    obtain ⟨hrep, hst⟩ := hr c hc
    refine { h with store := hst, requests := fun r hm => ?_ }
    rcases List.mem_or_eq_of_mem_set hm with hm | rfl
    · exact h.requests r hm
    · exact hnext _ hrep
  · exact h

theorem finish (h : Guarded s t) (i : Nat) : Guarded s (t.finish i) := by
  unfold System.finish
  split
  · next id r hi =>
    have hd : ∀ u ∈ Ongoing.handedIn id r, FilterUpdate.Allowed s u :=
      h.requests _ (List.mem_of_getElem? hi)
    refine { h with requests := fun r hm => ?_, queue := fun u hu => ?_ }
    · exact h.requests r (List.mem_of_mem_eraseIdx hm)
    · rcases List.mem_append.1 hu with hu | hu
      · exact h.queue u hu
      · exact hd u hu
  · exact h

theorem receive (h : Guarded s t) : Guarded s t.receive := by
  unfold System.receive
  split
  · next id fs queue _ hq =>
    have hall : ∀ u ∈ (id, fs) :: queue, FilterUpdate.Allowed s u := hq ▸ h.queue
    obtain ⟨hu, hqueue⟩ := List.forall_mem_cons.1 hall
    refine { h with queue := hqueue, waiting := fun v hv => ?_ }
    rcases Debounce.mem_flush_submit hv with rfl | hv
    · exact hu
    · exact h.waiting v hv
  · exact h

theorem release (h : Guarded s t) : Guarded s t.release := by
  unfold System.release
  split
  · exact
      { h with
        waiting := fun u hu => h.waiting u (Debounce.mem_flush_of_mem_later hu)
        saving := fun u hu => h.waiting u (Debounce.mem_flush_of_mem_due hu) }
  · exact h

theorem flush (h : Guarded s t) : Guarded s t.flush := by
  unfold System.flush
  split
  · exact
      { h with
        waiting := fun _ hu => nomatch hu
        saving := h.waiting }
  · exact h

theorem save (h : Guarded s t) (k : Nat) : Guarded s (t.save k) := by
  unfold System.save
  split
  · next id fs hk =>
    have hu : Filter.AllVetted (s.columnsOf id) fs := h.saving _ (List.mem_of_getElem? hk)
    exact
      { h with
        store := h.store.answer (Store.gate_allows_filters hu)
        saving := fun u hu => h.saving u (List.mem_of_mem_eraseIdx hu) }
  · exact h

/-- every event keeps a guarded system guarded -/
theorem step (h : Guarded s t) (e : Event) : Guarded s (t.step e) := by
  cases e with
  | begin newId id a =>
    refine { h with requests := fun r hr => ?_ }
    rcases List.mem_append.1 hr with hr | hr
    · exact h.requests r hr
    · obtain rfl := List.mem_singleton.1 hr
      exact a.sound_plan s newId id
  | answer i => exact h.resume i fun c hc => ⟨h.store.replies c, h.store.answer hc⟩
  | refuse i e => exact h.resume i fun c _ => ⟨s.gate_replies_error c e, h.store⟩
  | finish i => exact h.finish i
  | abandon i =>
    exact { h with requests := fun r hr => h.requests r (List.mem_of_mem_eraseIdx hr) }
  | receive => exact h.receive
  | release => exact h.release
  | flush => exact h.flush
  | save k => exact h.save k
  | lose k => exact { h with saving := fun u hu => h.saving u (List.mem_of_mem_eraseIdx hu) }
  | pass millis => exact { h with }

end System.Guarded

/-! ## seeds -/

/-- a configuration that was read is its own normal form -/
theorem Config.normal_of_reader {j : Json} {c : Config} (h : reader j = .ok c) :
    (Draft.ofConfig c).normalize = c := by
  obtain ⟨d, _, rfl⟩ := except_map_eq_ok_iff.1 h
  exact normalize_ofConfig (isCanonical_normalize d)

theorem Widget.normal_of_reader {j : Json} {w : Widget} (h : reader j = .ok w) :
    (Draft.ofConfig w.config).normalize = w.config := by
  obtain ⟨find, h, -⟩ := Members.exists_build h
  obtain ⟨_, _, rfl, h, -⟩ := Members.build_withDefault h
  obtain ⟨_, config, rfl, h, x, -, hx⟩ := Members.build_required h
  obtain ⟨_, _, rfl, h, -⟩ := Members.build_withDefault h
  obtain ⟨_, _, rfl, h, -⟩ := Members.build_required h
  obtain ⟨_, _, rfl, h, -⟩ := Members.build_required h
  cases h
  exact Config.normal_of_reader hx

theorem Section.exists_reader_widget {j : Json} {s : Section} (h : reader j = .ok s) :
    ∀ w ∈ s.widgets, ∃ x, Widget.reader x = .ok w := by
  obtain ⟨find, h, -⟩ := Members.exists_build h
  obtain ⟨_, widgets, rfl, h, hw⟩ := Members.build_withDefault h
  obtain ⟨_, _, rfl, h, -⟩ := Members.build_required h
  obtain ⟨_, _, rfl, h, -⟩ := Members.build_withDefault h
  obtain ⟨_, _, rfl, h, -⟩ := Members.build_required h
  obtain ⟨_, _, rfl, h, -⟩ := Members.build_required h
  cases h
  intro w hm
  rcases hw with rfl | ⟨y, -, hy⟩
  · exact nomatch hm
  · obtain ⟨x, -, hx⟩ := Reader.of_mem_list hy w hm
    exact ⟨x, hx⟩

theorem Dashboard.exists_reader_section {j : Json} {d : Dashboard} (h : reader j = .ok d) :
    ∀ s ∈ d.sections, ∃ x, Section.reader x = .ok s := by
  obtain ⟨find, h, -⟩ := Members.exists_build h
  obtain ⟨_, _, rfl, h, -⟩ := Members.build_optional h
  obtain ⟨_, _, rfl, h, -⟩ := Members.build_withDefault h
  obtain ⟨_, sections, rfl, h, hs⟩ := Members.build_withDefault h
  obtain ⟨_, _, rfl, h, -⟩ := Members.build_required h
  obtain ⟨_, _, rfl, h, -⟩ := Members.build_required h
  obtain ⟨_, _, rfl, h, -⟩ := Members.build_required h
  cases h
  intro s hm
  rcases hs with rfl | ⟨y, -, hy⟩
  · exact nomatch hm
  · obtain ⟨x, -, hx⟩ := Reader.of_mem_list hy s hm
    exact ⟨x, hx⟩

namespace Seed

/-- the columns of the view of a dashboard, none if there is no such view -/
def columns (s : Seed) (d : Dashboard) : View :=
  (s.views.get? d.view).getD []

structure Valid (s : Seed) : Prop where
  widgets : ∀ d ∈ s.dashboards, ∀ w ∈ d.widgets, w.config.check (s.columns d) = []
  filters : ∀ d ∈ s.dashboards, Filter.AllVetted (s.columns d) d.nativeFilters

theorem exists_reader_dashboard {j : Json} {s : Seed} (h : reader j = .ok s) :
    ∀ d ∈ s.dashboards, ∃ x, Dashboard.reader x = .ok d := by
  obtain ⟨find, h, -⟩ := Members.exists_build h
  obtain ⟨_, _, rfl, h, -⟩ := Members.build_withDefault h
  obtain ⟨_, dashboards, rfl, h, hd⟩ := Members.build_withDefault h
  cases h
  intro d hm
  rcases hd with rfl | ⟨y, -, hy⟩
  · exact nomatch hm
  · obtain ⟨x, -, hx⟩ := Reader.of_mem_list hy d hm
    exact ⟨x, hx⟩

/-- all widgets of a seed that was read show normal forms -/
theorem normal_of_reader {j : Json} {s : Seed} (h : reader j = .ok s) {d : Dashboard}
    (hd : d ∈ s.dashboards) {w : Widget} (hw : w ∈ d.widgets) :
    (Draft.ofConfig w.config).normalize = w.config := by
  obtain ⟨_, hd⟩ := exists_reader_dashboard h d hd
  obtain ⟨t, ht, hw⟩ := Dashboard.mem_widgets.1 hw
  obtain ⟨_, ht⟩ := Dashboard.exists_reader_section hd t ht
  obtain ⟨_, hw⟩ := Section.exists_reader_widget ht w hw
  exact Widget.normal_of_reader hw

end Seed

theorem Dictionary.mem_of_get?_foldl_insert {α : Type} {es : List (String × α)} {d : Dictionary α}
    {k : String} {a : α} (h : (es.foldl (fun d e => d.insert e.1 e.2) d).get? k = some a) :
    d.get? k = some a ∨ (k, a) ∈ es := by
  induction es generalizing d with
  | nil => exact Or.inl h
  | cons e es ih =>
    rcases ih h with h | h
    · rw [get?_insert] at h
      split at h
      · next hk =>
        cases h
        exact Or.inr (hk ▸ List.mem_cons_self)
      · exact Or.inl h
    · exact Or.inr (List.mem_cons_of_mem _ h)

/-- what a store begins with is in the seed -/
theorem Store.mem_dashboards_of_ofSeed {seed : Seed} {id : String} {d : Dashboard}
    (h : (ofSeed seed).dashboards.get? id = some d) : d ∈ seed.dashboards := by
  rcases Dictionary.mem_of_get?_foldl_insert h with h | h
  · exact nomatch h
  · obtain ⟨e, he, heq⟩ := List.mem_map.1 h
    cases heq
    exact he

theorem Store.vetted_ofSeed {j : Json} {seed : Seed} (hj : Seed.reader j = .ok seed)
    (h : seed.Valid) : (ofSeed seed).Vetted := by
  intro id d hd
  have hm := mem_dashboards_of_ofSeed hd
  exact
    { widgets := fun w hw => ⟨Seed.normal_of_reader hj hm hw, h.widgets d hm w hw⟩
      filters := h.filters d hm }

/-! ## runs -/

/-- **Nothing unchecked is stored.**  From a valid seed, whatever requests come in and in whatever
order their calls are answered, all widgets in the store show normal forms without violations over
the view of their dashboard, and all filters of dashboards are compiled and have none. -/
theorem System.vetted_store_run {j : Json} {seed : Seed} (hj : Seed.reader j = .ok seed)
    (h : seed.Valid) (quiet : Nat) (events : List Event) :
    ((start seed quiet).run events).store.Vetted := by
  have hstart := Guarded.start (Store.vetted_ofSeed hj h) quiet
  have hrun := run_induction hstart (fun _ e ht => ht.step e) events
  exact hrun.store.vetted

/-- one dashboard over orders, which counts them -/
def ordersSeed : Json :=
  .obj
    [("dashboards",
      .arr
        [.obj
          [("id", .str "sales"), ("title", .str "Sales"), ("view_id", .str "orders"),
           ("sections",
            .arr
              [.obj
                [("id", .str "top"), ("title", .str "Top"), ("columns", .ofNat 4),
                 ("widgets",
                  .arr
                    [.obj
                      [("id", .str "count"), ("title", .str "Orders"),
                       ("config", .obj [("widget_type", .str "kpi")])]])]])]]),
     ("views",
      .obj [("orders", .arr [.obj [("name", .str "region"), ("type", .str "text")]])])]

/-- a widget is saved and filters are set at the same time; both are stored, cleaned -/
theorem vetted_store_run_ordersSeed :
    ∃ seed, Seed.reader ordersSeed = .ok seed ∧ ∃ events,
      ((System.start seed 400).run events).store.Vetted ∧
      (((System.start seed 400).run events).store.dashboards.get? "sales").map
          (fun d => (d.configs.length, d.nativeFilters))
        = some (2, [{ column := "region", op := .eq, value := some (.scalar (.str "north")) }]) := by
  let count : Widget :=
    { id := "count", title := "Orders", config := .kpi ⟨.single Metric.count, []⟩ }
  let sales : Dashboard :=
    { id := "sales", title := "Sales", view := "orders",
      sections := [{ id := "top", title := "Top", columns := 4, widgets := [count] }] }
  let seed : Seed :=
    { dashboards := [sales], views := .ofList [("orders", [⟨"region", .text⟩])] }
  let chart : Submission :=
    { title := "By region",
      draft := { kind := .bar, metrics := [Metric.count], dimensions := [.plain " region "] } }
  let north : Filter := { column := " region ", op := .eq, value := some (.scalar (.str "north")) }
  let events : List Event :=
    [.begin "" "sales" (.save "top" chart), .begin "" "sales" (.setNativeFilters [north]),
     .answer 0, .answer 1, .answer 1, .answer 0, .finish 1, .answer 0, .finish 0, .receive,
     .pass 400, .release, .save 0]
  have hj : Seed.reader ordersSeed = .ok seed := rfl
  have hv : seed.Valid := by
    constructor
    · intro d hd w hw
      obtain rfl := List.mem_singleton.1 hd
      obtain rfl : w = count := List.mem_singleton.1 hw
      decide +kernel
    · intro d hd
      obtain rfl := List.mem_singleton.1 hd
      exact ⟨rfl, rfl⟩
  exact ⟨seed, hj, events, System.vetted_store_run hj hv 400 events, by decide +kernel⟩

end WidgetBoard
