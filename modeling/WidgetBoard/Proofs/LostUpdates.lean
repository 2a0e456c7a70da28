import Mathlib.Data.List.Permutation
import WidgetBoard.Proofs.LateLayouts
import WidgetBoard.Proofs.SectionEdits

/-!
# Two requests that meet

Two requests edit two different sections of one dashboard.  Each loads the dashboard and then saves
the layout of the whole of it.

* `System.left s id order`   the dashboard that is left when requests are answered in an order;
* `System.left_alone`        by a request that makes both of its calls;
* `System.left_serial`       by two of them, one after the other;
* `System.left_overlapping`  by two that load the dashboard before either has saved its layout.

Main statement: `System.left_order` (of two that overlap the one that saves last is left alone).
-/

namespace WidgetBoard

/-! ## layouts of edits -/

namespace Action.EditsSection

variable {a b : Action} {x y : String} {d A B : Dashboard}

theorem nodup_widgetIds (ha : a.EditsSection x d A) (hd : d.widgetIds.Nodup) :
    A.saved.widgetIds.Nodup := by
  rw [← Dashboard.map_id_unsized, A.unsized_saved, Dashboard.map_id_unsized]
  exact Dashboard.nodup_widgetIds_of_subperm ha.perm_unsized.subperm hd

/-- the layout of an edited dashboard makes the edit -/
theorem applyLayout (ha : a.EditsSection x d A) (hd : d.widgetIds.Nodup) :
    d.applyLayout A.layout = A.clamped :=
  (Dashboard.LaysOut.of_perm ha.frame ha.perm_unsized).applyLayout hd

/-- and undoes another that was saved meanwhile -/
theorem applyLayout_overlapping (ha : a.EditsSection x d A) (hb : b.EditsSection y d B)
    (hd : d.widgetIds.Nodup) : A.saved.applyLayout B.layout = B.saved := by
  let late : Dashboard := { B with updatedAt := some .thisSession }
  have hframe : late = { A.saved with sections := late.sections } := by
    simp only [late]
    rw [ha.frame, hb.frame]
    rfl
  have hperm : late.unsized.Perm A.saved.unsized := by
    rw [A.unsized_saved]
    exact hb.perm_unsized.trans ha.perm_unsized.symm
  exact (Dashboard.LaysOut.of_perm hframe hperm).applyLayout (ha.nodup_widgetIds hd)

end Action.EditsSection

/-! ## runs -/

namespace System

/-- the dashboard that is left when the requests with these numbers are answered one by one -/
def left (s : System) (id : String) (order : List Nat) : Option Dashboard :=
  (s.run (order.map .answer)).store.dashboards.get? id

variable {s : System} {id : String} {i j : Nat} {f g : Relayout} {d A B : Dashboard}

/-- the others do not see it -/
theorem requests_answer_ne (hij : j ≠ i) :
    (s.step (.answer i)).requests[j]? = s.requests[j]? := by
  show (s.resume i _).requests[j]? = _
  unfold resume
  split
  · exact List.getElem?_set_ne (Ne.symm hij)
  · rfl

theorem step_load (hi : s.requests[i]? = some ⟨id, Plan.relayout id f⟩)
    (hd : s.store.dashboards.get? id = some d) (hA : f d = .ok A) :
    (s.step (.answer i)).store = s.store ∧
      (s.step (.answer i)).requests[i]? = some ⟨id, Plan.commit (.ok A)⟩ := by
  obtain ⟨hlt, -⟩ := List.getElem?_eq_some_iff.1 hi
  rw [step_answer hi, Store.answer_dashboard hd, ← hA]
  exact ⟨rfl, List.getElem?_set_self hlt⟩

theorem step_save (hi : s.requests[i]? = some ⟨id, Plan.commit (.ok A)⟩) (hid : A.id = id)
    (hd : s.store.dashboards.get? id = some d) :
    (s.step (.answer i)).store = s.store.put id (d.applyLayout A.layout) := by
  subst hid
  rw [step_answer hi, Store.answer_saveLayout hd]

/-! ### one request -/

variable {a b : Action} {m n x y : String}

/-- what a request leaves that makes both of its calls with nothing in between -/
theorem left_alone (hi : s.requests[i]? = some ⟨id, a.plan n id⟩)
    (hd : s.store.dashboards.get? id = some d) (hid : d.id = id) (hdist : d.widgetIds.Nodup)
    (ha : a.EditsSection x d A) : s.left id [i, i] = some A.saved := by
  obtain ⟨f, hf, hA⟩ := ha.exists_relayout? n
  rw [Action.plan_eq_relayout hf] at hi
  obtain ⟨hstore, hnext⟩ := step_load hi hd (hA ha)
  have hidA : A.id = id := by
    rw [ha.frame]
    exact hid
  rw [← hstore] at hd
  show ((s.step (.answer i)).step (.answer i)).store.dashboards.get? id = _
  rw [step_save hnext hidA hd, ha.applyLayout hdist]
  exact Store.get?_put_self _ _ _

/-! ### two requests -/

/-- both edits, when the one has saved before the other loads the dashboard -/
theorem left_serial (hij : j ≠ i) (hi : s.requests[i]? = some ⟨id, a.plan n id⟩)
    (hj : s.requests[j]? = some ⟨id, b.plan m id⟩)
    (hd : s.store.dashboards.get? id = some d) (hid : d.id = id) (hdist : d.widgetIds.Nodup)
    (ha : a.EditsSection x d A) {Z : Dashboard} (hb : b.EditsSection y A Z) :
    s.left id [i, i, j, j] = some Z.saved := by
  have hfirst := left_alone hi hd hid hdist ha
  have hidA : A.saved.id = id := by
    rw [ha.frame]
    exact hid
  have hsecond : (s.run [.answer i, .answer i]).requests[j]? = some ⟨id, b.plan m id⟩ := by
    show ((s.step (.answer i)).step (.answer i)).requests[j]? = _
    rw [requests_answer_ne hij, requests_answer_ne hij, hj]
  have hboth := left_alone hsecond hfirst hidA (ha.nodup_widgetIds hdist) hb.saved
  rw [Dashboard.saved_saved] at hboth
  exact hboth

/-- both load the dashboard -/
theorem run_loads (hij : j ≠ i) (hi : s.requests[i]? = some ⟨id, Plan.relayout id f⟩)
    (hj : s.requests[j]? = some ⟨id, Plan.relayout id g⟩)
    (hd : s.store.dashboards.get? id = some d) (hA : f d = .ok A) (hB : g d = .ok B) :
    (s.run [.answer i, .answer j]).store = s.store ∧
      (s.run [.answer i, .answer j]).requests[i]? = some ⟨id, Plan.commit (.ok A)⟩ ∧
      (s.run [.answer i, .answer j]).requests[j]? = some ⟨id, Plan.commit (.ok B)⟩ := by
  obtain ⟨hstore, hfirst⟩ := step_load hi hd hA
  rw [← requests_answer_ne hij] at hj
  rw [← hstore] at hd ⊢
  obtain ⟨hstore', hsecond⟩ := step_load hj hd hB
  exact ⟨hstore', (requests_answer_ne (Ne.symm hij)).trans hfirst, hsecond⟩

/-- both have loaded the dashboard before the one saves, and then the other -/
theorem left_saves (hij : j ≠ i) (hi : s.requests[i]? = some ⟨id, Plan.commit (.ok A)⟩)
    (hj : s.requests[j]? = some ⟨id, Plan.commit (.ok B)⟩)
    (hd : s.store.dashboards.get? id = some d) (hid : d.id = id) (hdist : d.widgetIds.Nodup)
    (ha : a.EditsSection x d A) (hb : b.EditsSection y d B) :
    s.left id [i, j] = some B.saved := by
  have hidA : A.id = id := by
    rw [ha.frame]
    exact hid
  have hidB : B.id = id := by
    rw [hb.frame]
    exact hid
  have hnow : (s.step (.answer i)).store.dashboards.get? id = some A.saved := by
    rw [step_save hi hidA hd, ha.applyLayout hdist]
    exact Store.get?_put_self _ _ _
  rw [← requests_answer_ne hij] at hj
  show ((s.step (.answer i)).step (.answer j)).store.dashboards.get? id = _
  rw [step_save hj hidB hnow, ha.applyLayout_overlapping hb hdist]
  exact Store.get?_put_self _ _ _

/-- the edit of the request that saves last, whichever has loaded the dashboard first -/
theorem left_overlapping (hij : j ≠ i) (hi : s.requests[i]? = some ⟨id, a.plan n id⟩)
    (hj : s.requests[j]? = some ⟨id, b.plan m id⟩)
    (hd : s.store.dashboards.get? id = some d) (hid : d.id = id) (hdist : d.widgetIds.Nodup)
    (ha : a.EditsSection x d A) (hb : b.EditsSection y d B) :
    s.left id [i, j, i, j] = some B.saved ∧
      s.left id [j, i, i, j] = some B.saved := by
  obtain ⟨f, hf, hA⟩ := ha.exists_relayout? n
  obtain ⟨g, hg, hB⟩ := hb.exists_relayout? m
  rw [Action.plan_eq_relayout hf] at hi
  rw [Action.plan_eq_relayout hg] at hj
  constructor
  · obtain ⟨hstore, hi, hj⟩ := run_loads hij hi hj hd (hA ha) (hB hb)
    rw [← hstore] at hd
    exact left_saves hij hi hj hd hid hdist ha hb
  · obtain ⟨hstore, hj, hi⟩ := run_loads (Ne.symm hij) hj hi hd (hB hb) (hA ha)
    rw [← hstore] at hd
    exact left_saves hij hi hj hd hid hdist ha hb

/-! ### all orders -/

/-- the orders in which two requests may get their two answers each -/
theorem eq_of_perm_answers {σ : List Nat} (h : σ.Perm [0, 0, 1, 1]) :
    σ ∈ [[0, 0, 1, 1], [1, 1, 0, 0], [0, 1, 0, 1], [1, 0, 0, 1], [1, 0, 1, 0], [0, 1, 1, 0]] := by
  have hall : ∀ τ ∈ [0, 0, 1, 1].permutations', τ ∈
      [[0, 0, 1, 1], [1, 1, 0, 0], [0, 1, 0, 1], [1, 0, 0, 1], [1, 0, 1, 0], [0, 1, 1, 0]] := by
    decide
  exact hall σ (List.mem_permutations'.2 h)

/-- **Of two requests that overlap, only the one that saves last is left.**  Two requests edit two
sections.  If the one has saved before the other loads the dashboard, both edits are left, in either
order.  Else the dashboard is left as the last to save leaves it alone; that is the same just if
the other request alone would have changed nothing but columns out of range. -/
theorem left_order (hs : s.store.Reachable) (hd : s.store.dashboards.get? id = some d)
    (hdist : d.widgetIds.Nodup) (hi : s.requests[0]? = some ⟨id, a.plan n id⟩)
    (hj : s.requests[1]? = some ⟨id, b.plan m id⟩) (ha : a.EditsSection x d A)
    (hb : b.EditsSection y d B) (hxy : x ≠ y) :
    ∃ Z, s.left id [0, 0, 1, 1] = some Z ∧ s.left id [1, 1, 0, 0] = some Z ∧
      ∀ σ : List Nat, σ.Perm [0, 0, 1, 1] → σ ≠ [0, 0, 1, 1] → σ ≠ [1, 1, 0, 0] →
        ∀ k, σ.getLast? = some k →
          s.left id σ = s.left id [k, k] ∧
          (s.left id σ = some Z ↔ s.left id [1 - k, 1 - k] = some d.saved) := by
  have hid := hs.id_eq id d hd
  obtain ⟨Z, hbA, haB, hfirst, hsecond⟩ := ha.exists_both hb hxy
  have hij : (1 : Nat) ≠ 0 := by decide
  have hi' := left_alone hi hd hid hdist ha
  have hj' := left_alone hj hd hid hdist hb
  have hlastB := left_overlapping hij hi hj hd hid hdist ha hb
  have hlastA := left_overlapping (Ne.symm hij) hj hi hd hid hdist hb ha
  -- whichever saves last, what it leaves is what both leave just if the other is not seen
  have hlast {l k : Option Dashboard} {E F : Dashboard} (hl : l = some E.saved)
      (hE : Z.saved = E.saved ↔ F.saved = d.saved) (hk : k = some F.saved) :
      l = some Z.saved ↔ k = some d.saved := by
    rw [hl, hk, Option.some_inj, Option.some_inj, eq_comm, hE]
  refine ⟨Z.saved, left_serial hij hi hj hd hid hdist ha hbA,
    left_serial (Ne.symm hij) hj hi hd hid hdist hb haB, fun σ hσ hne hne' k hk => ?_⟩
  have hmem := eq_of_perm_answers hσ
  simp only [List.mem_cons, List.not_mem_nil, or_false, hne, hne', false_or] at hmem
  rcases hmem with rfl | rfl | rfl | rfl
  · obtain rfl : 1 = k := Option.some.inj hk
    exact ⟨hlastB.1.trans hj'.symm, hlast hlastB.1 hfirst hi'⟩
  · obtain rfl : 1 = k := Option.some.inj hk
    exact ⟨hlastB.2.trans hj'.symm, hlast hlastB.2 hfirst hi'⟩
  · obtain rfl : 0 = k := Option.some.inj hk
    exact ⟨hlastA.1.trans hi'.symm, hlast hlastA.1 hsecond hj'⟩
  · obtain rfl : 0 = k := Option.some.inj hk
    exact ⟨hlastA.2.trans hi'.symm, hlast hlastA.2 hsecond hj'⟩

/-- the columns of two sections are set; of two that overlap, the second to save is left -/
theorem left_order_setColumns :
    ∃ s : System, s.left "sales" [0, 1, 0, 1] = s.left "sales" [1, 1] ∧
      (s.left "sales" [1, 1]).map (fun d => d.sections.map (·.columns)) = some [4, 3] := by
  let top : Section := { id := "top", title := "Top", columns := 4 }
  let rest : Section := { id := "rest", title := "Rest", columns := 4 }
  let sales : Dashboard :=
    { id := "sales", title := "Sales", view := "orders", sections := [top, rest] }
  let first : Action := .setColumns "top" 2
  let second : Action := .setColumns "rest" 3
  let s : System :=
    { store := .ofSeed { dashboards := [sales] }
      requests := [⟨"sales", first.plan "" "sales"⟩, ⟨"sales", second.plan "" "sales"⟩] }
  have ha : first.EditsSection "top" sales (sales.withSection (top.withColumns 2)) := ⟨_, rfl, rfl⟩
  have hb : second.EditsSection "rest" sales (sales.withSection (rest.withColumns 3)) :=
    ⟨_, rfl, rfl⟩
  obtain ⟨Z, -, -, horder⟩ :=
    left_order (s := s) (.ofSeed _) (d := sales) rfl List.nodup_nil rfl rfl ha hb (by decide)
  exact ⟨s, (horder [0, 1, 0, 1] (by decide) (by decide) (by decide) 1 rfl).1, by decide +kernel⟩

/-- what is left of two requests that overlap may be neither order's -/
theorem left_overlapping_ne_serial :
    ∃ (d : Dashboard) (s : System), d.Distinct ∧ s.store.dashboards.get? "sales" = some d ∧
      s.requests[0]? = some ⟨"sales", (Action.setColumns "top" 2).plan "" "sales"⟩ ∧
      s.requests[1]? = some ⟨"sales", (Action.setColumns "rest" 3).plan "" "sales"⟩ ∧
      s.left "sales" [0, 1, 0, 1] ≠ s.left "sales" [0, 0, 1, 1] ∧
      s.left "sales" [0, 1, 0, 1] ≠ s.left "sales" [1, 1, 0, 0] := by
  let sales : Dashboard :=
    { id := "sales", title := "Sales", view := "orders",
      sections := [{ id := "top", title := "Top", columns := 4 },
        { id := "rest", title := "Rest", columns := 4 }] }
  let s : System :=
    (start { dashboards := [sales] } 400).run
      [.begin "" "sales" (.setColumns "top" 2), .begin "" "sales" (.setColumns "rest" 3)]
  exact ⟨sales, s, ⟨by decide, by decide⟩, rfl, rfl, rfl, by decide +kernel, by decide +kernel⟩

end System

end WidgetBoard
