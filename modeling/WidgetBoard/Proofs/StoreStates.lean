import WidgetBoard.Proofs.Edits

/-!
# The states of a store

* `Store.Reachable`   the states that a store can be in: empty, as seeded, or behind a call;
* `Store.put`         a store in which a dashboard was changed;
* `Store.answer_saveLayout`, `Store.answer_deleteWidget`   two writes as such changes.

Main statement: `Store.Reachable.id_eq` (a dashboard is kept under its own id).
-/

namespace WidgetBoard

namespace Store

inductive Reachable : Store → Prop where
  | empty : Reachable {}
  | ofSeed (seed : Seed) : Reachable (.ofSeed seed)
  | answer {s : Store} (c : Call) (h : Reachable s) : Reachable (s.answer c).2

/-! ## changed dashboards -/

/-- keeps a changed dashboard, with the stamp of the change -/
def put (s : Store) (id : String) (d : Dashboard) : Store :=
  { s with dashboards := s.dashboards.insert id { d with updatedAt := some .thisSession } }

variable {s : Store} {id : String} {d : Dashboard}

theorem get?_put (s : Store) (id k : String) (d : Dashboard) :
    (s.put id d).dashboards.get? k =
      if k = id then some { d with updatedAt := some .thisSession } else s.dashboards.get? k :=
  s.dashboards.get?_insert id k _

theorem get?_put_self (s : Store) (id : String) (d : Dashboard) :
    (s.put id d).dashboards.get? id = some { d with updatedAt := some .thisSession } := by
  rw [get?_put, if_pos rfl]

theorem modify_of_ok {α : Type} {edit : Dashboard → Except StoreError (α × Dashboard)} {a : α}
    {e : Dashboard} (hd : s.dashboards.get? id = some d) (he : edit d = .ok (a, e)) :
    s.modify id edit = (.ok a, s.put id e) := by
  simp [modify, hd, he, put]

/-- a change changes nothing, or one dashboard -/
theorem modify_eq_or {α : Type} (s : Store) (id : String)
    (edit : Dashboard → Except StoreError (α × Dashboard)) :
    (s.modify id edit).2 = s ∨ ∃ d a e, s.dashboards.get? id = some d ∧ edit d = .ok (a, e) ∧
      (s.modify id edit).2 = s.put id e := by
  cases hd : s.dashboards.get? id with
  | none =>
    left
    simp [modify, hd]
  | some d =>
    cases he : edit d with
    | error err =>
      left
      simp [modify, hd, he]
    | ok p =>
      right
      exact ⟨d, p.1, p.2, rfl, he, by rw [modify_of_ok hd he]⟩

theorem answer_saveLayout (hd : s.dashboards.get? id = some d) (l : Layout) :
    s.answer (.saveLayout id l) = (.ok (), s.put id (d.applyLayout l)) := by
  show s.modify id (always (·.applyLayout l)) = _
  exact modify_of_ok hd rfl

theorem answer_deleteWidget (hd : s.dashboards.get? id = some d) (w : String) :
    s.answer (.deleteWidget id w) = (.ok (), s.put id (d.withoutWidget w)) := by
  show s.modify id (always (·.withoutWidget w)) = _
  exact modify_of_ok hd rfl

/-! ## numbers used up -/

theorem nextId_modify {α : Type} (s : Store) (id : String)
    (edit : Dashboard → Except StoreError (α × Dashboard)) :
    (s.modify id edit).2.nextId = s.nextId := by
  rcases s.modify_eq_or id edit with hs | ⟨_, _, _, _, _, hs⟩ <;> rw [hs]
  rfl

/-- a call uses up one number at most -/
theorem nextId_answer (s : Store) (c : Call) :
    s.nextId ≤ (s.answer c).2.nextId ∧ (s.answer c).2.nextId ≤ s.nextId + 1 := by
  cases c with
  | dashboard => exact ⟨Nat.le_refl _, Nat.le_succ _⟩
  | viewColumns =>
    rw [answer]
    split <;> exact ⟨Nat.le_refl _, Nat.le_succ _⟩
  | createWidget =>
    rw [answer, nextId_modify]
    exact ⟨Nat.le_succ _, Nat.le_refl _⟩
  | updateWidget | deleteWidget | saveLayout | saveNativeFilters =>
    rw [answer, nextId_modify]
    exact ⟨Nat.le_refl _, Nat.le_succ _⟩

/-! ## dashboards under their ids -/

theorem id_of_addWidget {sectionId : String} {w v : Widget} {e : Dashboard}
    (h : addWidget sectionId w d = .ok (v, e)) : e.id = d.id := by
  unfold addWidget at h
  split at h
  · exact nomatch h
  · cases h
    rfl

theorem id_of_replaceWidget {w v : Widget} {e : Dashboard}
    (h : replaceWidget w d = .ok (v, e)) : e.id = d.id := by
  unfold replaceWidget at h
  split at h
  · exact nomatch h
  · cases h
    rfl

theorem get?_foldl_insert_id {ds : List Dashboard} {x : Dictionary Dashboard}
    (hx : ∀ k d, x.get? k = some d → d.id = k) :
    ∀ k d, ((ds.map fun d => (d.id, d)).foldl (fun x e => x.insert e.1 e.2) x).get? k = some d →
      d.id = k := by
  induction ds generalizing x with
  | nil => exact hx
  | cons a ds ih =>
    refine ih fun k d hd => ?_
    rw [Dictionary.get?_insert] at hd
    split at hd
    · next hk =>
      cases hd
      exact hk.symm
    · exact hx k d hd

/-- a call leaves dashboards under their ids -/
theorem id_eq_of_answer (h : ∀ k d, s.dashboards.get? k = some d → d.id = k) (c : Call) :
    ∀ k d, (s.answer c).2.dashboards.get? k = some d → d.id = k := by
  intro k e he
  have hmodify {α : Type} {t : Store} {id : String}
      {edit : Dashboard → Except StoreError (α × Dashboard)}
      (he : (t.modify id edit).2.dashboards.get? k = some e) (ht : t.dashboards = s.dashboards)
      (hedit : ∀ d a e, edit d = .ok (a, e) → e.id = d.id) : e.id = k := by
    rcases get?_modify he with he | ⟨rfl, d, a, e', hd, hok, rfl⟩
    · exact h k e (ht ▸ he)
    · exact (hedit d a e' hok).trans (h k d (ht ▸ hd))
  cases c with
  | dashboard => exact h k e he
  | viewColumns =>
    rw [answer] at he
    split at he <;> exact h k e he
  | createWidget => exact hmodify he rfl fun _ _ _ => id_of_addWidget
  | updateWidget => exact hmodify he rfl fun _ _ _ => id_of_replaceWidget
  | deleteWidget | saveLayout | saveNativeFilters =>
    exact hmodify he rfl fun _ _ _ hok => by cases hok; rfl

/-- **A dashboard is kept under its own id.** -/
theorem Reachable.id_eq (h : s.Reachable) (k : String) (d : Dashboard)
    (hd : s.dashboards.get? k = some d) : d.id = k := by
  induction h generalizing k d with
  | empty => exact nomatch hd
  | ofSeed seed => exact get?_foldl_insert_id (x := .empty) (fun _ _ h => nomatch h) k d hd
  | answer c _ ih => exact id_eq_of_answer ih c k d hd

end Store

end WidgetBoard
