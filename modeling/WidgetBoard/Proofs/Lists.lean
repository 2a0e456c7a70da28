import Mathlib.Data.List.Basic
import Mathlib.Data.List.Forall2

/-!
# Lists

* lists that a map or a filter leaves as they are;
* `exists_split_of_getElem?`   what stands in front of an item and behind it;
* `split_concat`   where an item stands in a list with one item more at the end;
* lists that are related item by item;
* `filterMap_eq_map_of_sublist`   items that are found again by their keys.
-/

namespace WidgetBoard

theorem filterMap_eq_self {α : Type} {f : α → Option α} {l : List α} (h : ∀ a ∈ l, f a = some a) :
    l.filterMap f = l := by
  induction l with
  | nil => rfl
  | cons a l ih =>
    rw [List.filterMap_cons_some (h a List.mem_cons_self),
      ih fun b hb => h b (List.mem_cons_of_mem _ hb)]

theorem forall_mem_filterMap {α β : Type} {f : α → Option β} {P : β → Prop} {l : List α}
    (h : ∀ a b, f a = some b → P b) : ∀ b ∈ l.filterMap f, P b := by
  intro b hb
  obtain ⟨a, _, ha⟩ := List.mem_filterMap.1 hb
  exact h a b ha

theorem map_eq_self {α : Type} {f : α → α} {l : List α} (h : ∀ a ∈ l, f a = a) : l.map f = l := by
  rw [List.map_congr_left h, List.map_id']

/-- a list that comes back from being changed and filtered comes back item by item -/
theorem eq_some_of_filterMap_map {α : Type} {f : α → Option α} {g : α → α} {l : List α}
    (h : (l.map g).filterMap f = l) : ∀ a ∈ l, f (g a) = some a := by
  induction l with
  | nil => exact fun a ha => nomatch ha
  | cons a l ih =>
    rw [List.map_cons] at h
    cases ha : f (g a) with
    | none =>
      rw [List.filterMap_cons_none ha] at h
      have hle := List.length_filterMap_le f (l.map g)
      rw [h, List.length_cons, List.length_map] at hle
      omega
    | some b =>
      rw [List.filterMap_cons_some ha] at h
      obtain ⟨rfl, hl⟩ := List.cons.inj h
      intro x hx
      rcases List.mem_cons.1 hx with rfl | hx
      · exact ha
      · exact ih hl x hx

theorem exists_split_of_getElem? {α : Type} {l : List α} {i : Nat} {a : α} (h : l[i]? = some a) :
    ∃ before after, l = before ++ a :: after ∧ before.length = i := by
  obtain ⟨hi, rfl⟩ := List.getElem?_eq_some_iff.1 h
  have hlength : (l.take i).length = i := List.length_take_of_le (Nat.le_of_lt hi)
  have hsplit : l = l.take i ++ l[i] :: l.drop (i + 1) := by
    rw [List.getElem_cons_drop, List.take_append_drop]
  exact ⟨_, _, hsplit, hlength⟩

/-- one item of a list with an item more is that one, or stands in front of it -/
theorem split_concat {α : Type} {l before after : List α} {a b : α}
    (h : l ++ [a] = before ++ b :: after) :
    (b = a ∧ before = l ∧ after = []) ∨ ∃ rest, after = rest ++ [a] ∧ l = before ++ b :: rest := by
  rcases List.eq_nil_or_concat after with rfl | ⟨rest, c, rfl⟩
  · obtain ⟨hl, hb⟩ := List.append_inj' h rfl
    exact Or.inl ⟨(List.singleton_inj.1 hb).symm, hl.symm, rfl⟩
  · rw [List.concat_eq_append] at h ⊢
    rw [← List.cons_append, ← List.append_assoc] at h
    obtain ⟨hl, hc⟩ := List.append_inj' h rfl
    obtain rfl := List.singleton_inj.1 hc
    exact Or.inr ⟨rest, rfl, hl⟩

/-! ## item by item -/

section

variable {α β γ : Type} {R : α → β → Prop} {l : List α} {m : List β}

theorem exists_of_mem_of_forall₂ (h : List.Forall₂ R l m) {a : α} (ha : a ∈ l) :
    ∃ b ∈ m, R a b := by
  induction h with
  | nil => exact nomatch ha
  | cons hab _ ih =>
    rcases List.mem_cons.1 ha with rfl | ha
    · exact ⟨_, List.mem_cons_self, hab⟩
    · obtain ⟨b, hb, hR⟩ := ih ha
      exact ⟨b, List.mem_cons_of_mem _ hb, hR⟩

theorem map_eq_map_of_forall₂ {f : α → γ} {g : β → γ} (h : List.Forall₂ R l m)
    (hfg : ∀ a ∈ l, ∀ b ∈ m, R a b → f a = g b) : l.map f = m.map g := by
  induction h with
  | nil => rfl
  | cons hab _ ih =>
    rw [List.map_cons, List.map_cons, hfg _ List.mem_cons_self _ List.mem_cons_self hab, ih]
    exact fun a ha b hb => hfg a (List.mem_cons_of_mem _ ha) b (List.mem_cons_of_mem _ hb)

end

/-- items whose keys stand in the list in their order, and all that is found in it -/
theorem filterMap_eq_map_of_sublist {α β γ : Type} {key : α → String} {mark : β → String}
    {f : β → Option γ} {g : α → γ} {l : List α} {m : List β}
    (hsub : (l.map key).Sublist (m.map mark)) (hm : (m.map mark).Nodup)
    (hin : ∀ b ∈ m, ∀ a ∈ l, key a = mark b → f b = some (g a))
    (hout : ∀ b ∈ m, mark b ∉ l.map key → f b = none) : m.filterMap f = l.map g := by
  induction m generalizing l with
  | nil =>
    obtain rfl := List.map_eq_nil_iff.1 (List.sublist_nil.1 hsub)
    rfl
  | cons b m ih =>
    obtain ⟨hb, hm⟩ := List.nodup_cons.1 hm
    have hrest : ∀ c ∈ m, c ∈ b :: m := fun c hc => List.mem_cons_of_mem _ hc
    rcases List.sublist_cons_iff.1 hsub with hsub | ⟨keys, hl, hsub⟩
    · -- the first item of the list is none of them
      have hnot : mark b ∉ l.map key := fun h => hb (hsub.subset h)
      rw [List.filterMap_cons_none (hout b List.mem_cons_self hnot)]
      exact ih hsub hm (fun c hc => hin c (hrest c hc)) fun c hc => hout c (hrest c hc)
    · obtain ⟨a, l, rfl, ha, rfl⟩ := List.map_eq_cons_iff.1 hl
      rw [List.filterMap_cons_some (hin b List.mem_cons_self a List.mem_cons_self ha),
        List.map_cons]
      refine congrArg _ (ih hsub hm (fun c hc x hx => ?_) fun c hc hnot => ?_)
      · exact hin c (hrest c hc) x (List.mem_cons_of_mem _ hx)
      · refine hout c (hrest c hc) fun h => ?_
        rcases List.mem_cons.1 h with he | h
        · exact hb (ha ▸ he ▸ List.mem_map_of_mem hc)
        · exact hnot h

end WidgetBoard
