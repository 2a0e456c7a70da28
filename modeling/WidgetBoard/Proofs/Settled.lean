import WidgetBoard.Json.Basic

/-!
# Settled values

A value is *settled* when it is the value it means: every place can be read, the members of every
object are sorted by key, and no key is repeated.

* `isSettled_of_settle?`   the value meant is settled, so settling twice changes nothing more;
* `isSettled_arr_iff`, `isSettled_obj_iff`   what is in a settled value is settled;
* `children`               the values directly in an array or an object.
-/

namespace WidgetBoard.Json

def IsSettled (j : Json) : Prop := j.settle? = some j

/-! ## putting settled parts together -/

theorem settleItems?_eq_self {js : List Json} (h : ∀ j ∈ js, IsSettled j) :
    settleItems? js = some js := by
  induction js with
  | nil => rfl
  | cons j js ih =>
    have hj : settle? j = some j := h j List.mem_cons_self
    have hjs := ih fun x hx => h x (List.mem_cons_of_mem _ hx)
    simp [settleItems?, hj, hjs]

/-- members that come in order are put one behind the other -/
theorem settleMembers?_eq_append {acc ms : List (String × Json)}
    (hs : SortedEntries (acc ++ ms)) (h : ∀ e ∈ ms, IsSettled e.2) :
    settleMembers? acc ms = some (acc ++ ms) := by
  induction ms generalizing acc with
  | nil => rw [settleMembers?, List.append_nil]
  | cons e ms ih =>
    obtain ⟨k, j⟩ := e
    have hj : settle? j = some j := h (k, j) List.mem_cons_self
    have hk : ∀ e ∈ acc, e.1 < k := fun e he =>
      (List.pairwise_append.1 hs).2.2 e he (k, j) List.mem_cons_self
    have hi : insertEntry k j acc = acc ++ [(k, j)] := Dictionary.insertEntry_append hk
    have hs' : SortedEntries ((acc ++ [(k, j)]) ++ ms) := by simpa using hs
    have := ih hs' fun x hx => h x (List.mem_cons_of_mem _ hx)
    simpa [settleMembers?, hj, hi] using this

theorem settleMembers?_eq_self {ms : List (String × Json)} (hs : SortedEntries ms)
    (h : ∀ e ∈ ms, IsSettled e.2) : settleMembers? [] ms = some ms :=
  settleMembers?_eq_append (show SortedEntries ([] ++ ms) from hs) h

/-! ## the value meant is settled -/

theorem sorted_of_settleMembers? {acc ms out : List (String × Json)} (hs : SortedEntries acc)
    (h : settleMembers? acc ms = some out) : SortedEntries out := by
  induction ms generalizing acc with
  | nil =>
    rw [settleMembers?, Option.some.injEq] at h
    exact h ▸ hs
  | cons e ms ih =>
    simp only [settleMembers?, Option.bind_eq_bind, Option.bind_eq_some_iff] at h
    obtain ⟨v, _, h⟩ := h
    exact ih (sortedEntries_insertEntry hs) h

mutual

theorem isSettled_of_settle? : {j v : Json} → settle? j = some v → IsSettled v
  | .null, v, h | .bool _, v, h | .num _, v, h | .str _, v, h => by
    simp only [settle?, Option.some.injEq] at h
    subst h
    rfl
  | .broken _, v, h | .keyless _, v, h => by
    simp only [settle?, reduceCtorEq] at h
  | .arr js, v, h => by
    rw [settle?, Option.map_eq_some_iff] at h
    obtain ⟨vs, hvs, rfl⟩ := h
    have hall := isSettled_of_settleItems? hvs
    rw [IsSettled, settle?, settleItems?_eq_self hall, Option.map_some]
  | .obj ms, v, h => by
    rw [settle?, Option.map_eq_some_iff] at h
    obtain ⟨vs, hvs, rfl⟩ := h
    have hs : SortedEntries vs := sorted_of_settleMembers? List.Pairwise.nil hvs
    have hall := isSettled_of_settleMembers? (by simp) hvs
    rw [IsSettled, settle?, settleMembers?_eq_self hs hall, Option.map_some]

theorem isSettled_of_settleItems? :
    {js vs : List Json} → settleItems? js = some vs → ∀ v ∈ vs, IsSettled v
  | [], vs, h => by
    rw [settleItems?, Option.some.injEq] at h
    exact fun v hv => nomatch h ▸ hv
  | j :: js, vs, h => by
    simp only [settleItems?, Option.bind_eq_bind, Option.bind_eq_some_iff, Option.pure_def,
      Option.some.injEq] at h
    obtain ⟨w, hw, ws, hws, rfl⟩ := h
    exact List.forall_mem_cons.2 ⟨isSettled_of_settle? hw, isSettled_of_settleItems? hws⟩

theorem isSettled_of_settleMembers? :
    {acc ms vs : List (String × Json)} → (∀ e ∈ acc, IsSettled e.2) →
      settleMembers? acc ms = some vs → ∀ e ∈ vs, IsSettled e.2
  | acc, [], vs, ha, h => by
    rw [settleMembers?, Option.some.injEq] at h
    exact h ▸ ha
  | acc, (k, j) :: ms, vs, ha, h => by
    simp only [settleMembers?, Option.bind_eq_bind, Option.bind_eq_some_iff] at h
    obtain ⟨w, hw, h⟩ := h
    refine isSettled_of_settleMembers? (fun e he => ?_) h
    rcases mem_insertEntry he with rfl | he
    · exact isSettled_of_settle? hw
    · exact ha e he

end

/-! ## what is in a settled value -/

theorem isSettled_arr_iff {js : List Json} : IsSettled (.arr js) ↔ ∀ j ∈ js, IsSettled j := by
  constructor
  · intro h
    obtain ⟨vs, hvs, hv⟩ := Option.map_eq_some_iff.1 h
    cases hv
    exact isSettled_of_settleItems? hvs
  · intro h
    rw [IsSettled, settle?, settleItems?_eq_self h, Option.map_some]

theorem isSettled_obj_iff {ms : List (String × Json)} :
    IsSettled (.obj ms) ↔ SortedEntries ms ∧ ∀ e ∈ ms, IsSettled e.2 := by
  constructor
  · intro h
    obtain ⟨vs, hvs, hv⟩ := Option.map_eq_some_iff.1 h
    cases hv
    exact ⟨sorted_of_settleMembers? List.Pairwise.nil hvs,
      isSettled_of_settleMembers? (by simp) hvs⟩
  · intro ⟨hs, h⟩
    rw [IsSettled, settle?, settleMembers?_eq_self hs h, Option.map_some]

/-- the items of an array, the values of an object -/
def children : Json → List Json
  | .arr js => js
  | .obj ms => ms.map Prod.snd
  | _ => []

theorem IsSettled.of_mem_children {j x : Json} (h : IsSettled j) (hx : x ∈ j.children) :
    IsSettled x := by
  cases j with
  | arr js => exact isSettled_arr_iff.1 h x hx
  | obj ms =>
    obtain ⟨e, he, rfl⟩ := List.mem_map.1 hx
    exact (isSettled_obj_iff.1 h).2 e he
  | null | bool | num | str | broken | keyless => exact nomatch hx

theorem settle?_eq_null_iff {j : Json} : j.settle? = some .null ↔ j = .null := by
  cases j <;> simp [settle?]

end WidgetBoard.Json
