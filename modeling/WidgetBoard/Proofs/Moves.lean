import Mathlib.Data.List.InsertIdx
import WidgetBoard.Proofs.Relayout
import WidgetBoard.Proofs.Resized

/-!
# Items moved to another place

Widgets and sections are put in another order by one move of a list: an item is taken out, and put
in again at an index of what is left.  Only then is the index looked at, so an item that is moved
onto another one takes its index, from whichever side it comes.

* `Splices items i j moved`   `moved` is `items` with the item at `i` at index `j`, or last;
* `reorderBy?`                the move of the first item with one key onto the first with another;
* `Reorders key source target items moved?`   what is to be known of that move when no key stands
                              twice.

Main statement: `splices_moveItem` (every move is a splice, and so is every new order of widgets or
sections).
-/

namespace WidgetBoard

/-! ## one move -/

section

variable {α : Type} {items moved : List α} {i j : Nat}

theorem take_append_cons_drop (a : α) (l : List α) (j : Nat) :
    l.take j ++ a :: l.drop j = l.insertIdx (min j l.length) a := by
  induction l generalizing j with
  | nil => simp
  | cons b l ih =>
    cases j with
    | zero => rfl
    | succ j =>
      rw [List.take_succ_cons, List.drop_succ_cons, List.cons_append, ih, List.length_cons,
        Nat.add_min_add_right, List.insertIdx_succ_cons]

theorem moveItem_eq_self (h : items.length ≤ i) : moveItem items i j = items := by
  rw [moveItem, List.getElem?_eq_none h]

theorem moveItem_eq_insertIdx (hi : i < items.length) :
    moveItem items i j = (items.eraseIdx i).insertIdx (min j (items.length - 1)) items[i] := by
  rw [moveItem, List.getElem?_eq_getElem hi]
  exact (take_append_cons_drop ..).trans (by rw [List.length_eraseIdx_of_lt hi])

/-- `moved` is `items` with the item at `i` taken out and put in at index `j` of the rest, or at its
end; `back` is the move that undoes it -/
structure Splices (items : List α) (i j : Nat) (moved : List α) : Prop where
  perm : moved.Perm items
  unmoved : items.length ≤ i → moved = items
  landed : i < items.length → moved[min j (items.length - 1)]? = items[i]?
  others : i < items.length → moved.eraseIdx (min j (items.length - 1)) = items.eraseIdx i
  back : i < items.length → j < items.length → moveItem moved j i = items

theorem getElem?_moveItem (hi : i < items.length) :
    (moveItem items i j)[min j (items.length - 1)]? = items[i]? := by
  have hle : min j (items.length - 1) ≤ (items.eraseIdx i).length := by
    rw [List.length_eraseIdx_of_lt hi]
    exact Nat.min_le_right _ _
  rw [moveItem_eq_insertIdx hi, List.getElem?_insertIdx_self, if_pos hle,
    List.getElem?_eq_getElem hi]

theorem eraseIdx_moveItem (hi : i < items.length) :
    (moveItem items i j).eraseIdx (min j (items.length - 1)) = items.eraseIdx i := by
  rw [moveItem_eq_insertIdx hi, List.eraseIdx_insertIdx_self]

/-- moving the item at `j` back to `i` -/
theorem moveItem_moveItem (hi : i < items.length) (hj : j < items.length) :
    moveItem (moveItem items i j) j i = items := by
  have hitem := getElem?_moveItem (j := j) hi
  have hrest := eraseIdx_moveItem (j := j) hi
  rw [Nat.min_eq_left (by omega)] at hitem hrest
  have hle : i ≤ items.length - 1 := by omega
  calc moveItem (moveItem items i j) j i
      = (items.eraseIdx i).take i ++ items[i] :: (items.eraseIdx i).drop i := by
        rw [moveItem, hitem, List.getElem?_eq_getElem hi, hrest]
    _ = (items.eraseIdx i).insertIdx i items[i] := by
        rw [take_append_cons_drop, List.length_eraseIdx_of_lt hi, Nat.min_eq_left hle]
    _ = items := List.insertIdx_eraseIdx_getElem hi

theorem Splices.moveItem (items : List α) (i j : Nat) : Splices items i j (moveItem items i j) where
  perm := moveItem_perm items i j
  unmoved := moveItem_eq_self
  landed := getElem?_moveItem
  others := eraseIdx_moveItem
  back := moveItem_moveItem

end

/-! ## items found by their keys -/

section

variable {α : Type} {key : α → String} {source target : String} {items : List α}

/-- the first item of one key moved to the place of the first item of another -/
def reorderBy? (key : α → String) (source target : String) (items : List α) : Option (List α) := do
  let i ← items.findIdx? fun a => key a == source
  let j ← items.findIdx? fun a => key a == target
  pure (moveItem items i j)

/-- there is a result when both keys are there; then the item of the first one is at the index
where the item of the second one was, and all others stand in their order -/
structure Reorders (key : α → String) (source target : String) (items : List α)
    (moved? : Option (List α)) : Prop where
  isSome : moved?.isSome ↔ source ∈ items.map key ∧ target ∈ items.map key
  placed : ∀ moved ∈ moved?, ∀ i j a b, items[i]? = some a → key a = source →
    items[j]? = some b → key b = target → moved[j]? = some a ∧ moved.eraseIdx j = items.eraseIdx i

theorem findIdx?_key_isSome_iff {k : String} :
    (items.findIdx? fun a => key a == k).isSome ↔ k ∈ items.map key := by
  simp

theorem reorders_reorderBy? (h : (items.map key).Nodup) :
    Reorders key source target items (reorderBy? key source target items) where
  isSome := by
    rw [← findIdx?_key_isSome_iff, ← findIdx?_key_isSome_iff, reorderBy?]
    cases items.findIdx? fun a => key a == source <;>
      cases items.findIdx? fun a => key a == target <;> simp
  placed := by
    rintro moved hmoved i j a b ha rfl hb rfl
    have hmove : reorderBy? key (key a) (key b) items = some (moveItem items i j) := by
      rw [reorderBy?, findIdx?_key_of_getElem? h ha, findIdx?_key_of_getElem? h hb]
      rfl
    obtain rfl : moveItem items i j = moved := Option.some.inj (hmove.symm.trans hmoved)
    have hi : i < items.length := (List.getElem?_eq_some_iff.1 ha).1
    have hj : j < items.length := (List.getElem?_eq_some_iff.1 hb).1
    have hlanded := getElem?_moveItem (j := j) hi
    have hothers := eraseIdx_moveItem (j := j) hi
    rw [Nat.min_eq_left (by omega)] at hlanded hothers
    exact ⟨hlanded.trans ha, hothers⟩

end

theorem Section.reorderWidgets?_eq (s : Section) (source target : String) :
    s.reorderWidgets? source target
      = (reorderBy? (·.id) source target s.widgets).map fun ws => { s with widgets := ws } := by
  rw [reorderWidgets?, reorderBy?, widgetIndex?, widgetIndex?]
  cases s.widgets.findIdx? fun w => w.id == source <;>
    cases s.widgets.findIdx? fun w => w.id == target <;> rfl

theorem Dashboard.reorderSections?_eq (d : Dashboard) (source target : String) :
    d.reorderSections? source target
      = (reorderBy? (·.id) source target d.sections).map fun ss => { d with sections := ss } := by
  rw [reorderSections?, reorderBy?, sectionIndex?, sectionIndex?]
  cases d.sections.findIdx? fun s => s.id == source <;>
    cases d.sections.findIdx? fun s => s.id == target <;> rfl

/-- **Moving is a splice**, for every list and all indices.  So a new order of the widgets of a
section, or of the sections of a dashboard, puts one of them at the index of another and keeps all
else as it was, contents included. -/
theorem splices_moveItem :
    (∀ {α : Type} (items : List α) (i j : Nat), Splices items i j (moveItem items i j)) ∧
    (∀ (s : Section) (source target : String), (s.widgets.map (·.id)).Nodup →
      ∃ widgets?, Reorders (·.id) source target s.widgets widgets? ∧
        s.reorderWidgets? source target = widgets?.map fun ws => { s with widgets := ws }) ∧
    (∀ (d : Dashboard) (source target : String), (d.sections.map (·.id)).Nodup →
      ∃ sections?, Reorders (·.id) source target d.sections sections? ∧
        d.reorderSections? source target = sections?.map fun ss => { d with sections := ss }) := by
  refine ⟨Splices.moveItem, fun s source target h => ?_, fun d source target h => ?_⟩
  · exact ⟨_, reorders_reorderBy? h, s.reorderWidgets?_eq source target⟩
  · exact ⟨_, reorders_reorderBy? h, d.reorderSections?_eq source target⟩

/-- the last of three widgets onto the first one, and the first of two sections onto the last -/
theorem splices_moveItem_across :
    let widget (id : String) : Widget := { id := id, title := id, config := .text {} }
    let s : Section :=
      { id := "top", title := "Top", columns := 3, widgets := [widget "a", widget "b", widget "c"] }
    let d : Dashboard :=
      { id := "sales", title := "Sales", view := "orders", sections := [s, .empty "rest" "Rest" 2] }
    ((s.widgets.map (·.id)).Nodup ∧
      (∃ widgets?, Reorders (·.id) "c" "a" s.widgets widgets? ∧
        s.reorderWidgets? "c" "a" = widgets?.map fun ws => { s with widgets := ws }) ∧
      (s.reorderWidgets? "c" "a").map (fun t => t.widgets.map (·.id)) = some ["c", "a", "b"]) ∧
    (d.sections.map (·.id)).Nodup ∧
    (∃ sections?, Reorders (·.id) "top" "rest" d.sections sections? ∧
      d.reorderSections? "top" "rest" = sections?.map fun ss => { d with sections := ss }) ∧
    (d.reorderSections? "top" "rest").map (fun e => e.sections.map (·.id))
      = some ["rest", "top"] := by
  intro widget s d
  have hs : (s.widgets.map (·.id)).Nodup := by decide
  have hd : (d.sections.map (·.id)).Nodup := by decide
  exact ⟨⟨hs, splices_moveItem.2.1 s "c" "a" hs, by decide +kernel⟩, hd,
    splices_moveItem.2.2 d "top" "rest" hd, by decide +kernel⟩

end WidgetBoard
