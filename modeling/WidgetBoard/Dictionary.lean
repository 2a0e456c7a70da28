/-!
# Dictionaries

A dictionary gives values to texts.  It is kept as the list of its entries, sorted by key, without
repeated keys: two dictionaries with the same entries are equal.

* `Dictionary.insert`     sets the value of a key;
* `Dictionary.get?`       the value of a key;
* `Dictionary.ofList`     inserts pairs in order, so the last of a repeated key wins;
* `Dictionary.filterMap`  keeps and changes values.

Main statements: `get?_insert`, `get?_filterMap`, `filter_entries`, `ofList_entries`.
-/

namespace WidgetBoard

variable {α β : Type}

/-! ## Sorted association lists -/

/-- sets the value of `k` in a sorted list of entries -/
def insertEntry (k : String) (v : α) : List (String × α) → List (String × α)
  | [] => [(k, v)]
  | e :: es =>
    if k < e.1 then (k, v) :: e :: es
    else if k = e.1 then (k, v) :: es
    else e :: insertEntry k v es

/-- sorted by key, keys distinct -/
abbrev SortedEntries (es : List (String × α)) : Prop :=
  es.Pairwise fun a b => a.1 < b.1

theorem mem_insertEntry {k : String} {v : α} {es : List (String × α)} {e : String × α}
    (h : e ∈ insertEntry k v es) : e = (k, v) ∨ e ∈ es := by
  induction es with
  | nil => simpa [insertEntry] using h
  | cons a es ih =>
    simp only [insertEntry] at h
    split at h
    · simpa using h
    · split at h
      · rcases List.mem_cons.1 h with h | h
        · exact Or.inl h
        · exact Or.inr (List.mem_cons_of_mem _ h)
      · rcases List.mem_cons.1 h with h | h
        · exact Or.inr (h ▸ List.mem_cons_self)
        · exact (ih h).imp_right (List.mem_cons_of_mem _)

theorem lt_of_not_lt_of_ne {a b : String} (h : ¬ a < b) (h' : a ≠ b) : b < a := by
  by_cases hb : b < a
  · exact hb
  · exact absurd (String.le_antisymm (String.not_lt.1 hb) (String.not_lt.1 h)) h'

theorem sortedEntries_insertEntry {k : String} {v : α} {es : List (String × α)}
    (h : SortedEntries es) : SortedEntries (insertEntry k v es) := by
  induction es with
  | nil => simp [insertEntry, SortedEntries]
  | cons a es ih =>
    have ha := List.pairwise_cons.1 h
    simp only [insertEntry]
    split
    · next hk =>
      refine List.pairwise_cons.2 ⟨fun e he => ?_, h⟩
      rcases List.mem_cons.1 he with rfl | he
      · exact hk
      · exact String.lt_trans hk (ha.1 e he)
    · next hk =>
      split
      · next hk' =>
        exact List.pairwise_cons.2 ⟨fun e he => hk' ▸ ha.1 e he, ha.2⟩
      · next hk' =>
        refine List.pairwise_cons.2 ⟨fun e he => ?_, ih ha.2⟩
        rcases mem_insertEntry he with rfl | he
        · exact lt_of_not_lt_of_ne hk hk'
        · exact ha.1 e he

theorem lookup_cons (k : String) (e : String × α) (es : List (String × α)) :
    (e :: es).lookup k = if k = e.1 then some e.2 else es.lookup k := by
  obtain ⟨l, v⟩ := e
  by_cases h : k = l
  · subst h
    rw [if_pos rfl, List.lookup_cons_self]
  · have hne : (k == l) = false := by simpa using h
    rw [if_neg h, List.lookup_cons, hne]

theorem lookup_eq_none_of_lt {k : String} {es : List (String × α)}
    (h : ∀ e ∈ es, k < e.1) : es.lookup k = none := by
  induction es with
  | nil => rfl
  | cons e es ih =>
    have hne : ¬ k = e.1 := fun he => String.lt_irrefl k (he ▸ h e List.mem_cons_self)
    rw [lookup_cons, if_neg hne, ih fun e he => h e (List.mem_cons_of_mem _ he)]

theorem lookup_insertEntry {k j : String} {v : α} {es : List (String × α)} :
    (insertEntry k v es).lookup j = if j = k then some v else es.lookup j := by
  induction es with
  | nil => rw [insertEntry, lookup_cons]
  | cons e es ih =>
    simp only [insertEntry]
    split
    · rw [lookup_cons]
    · split
      · next hk => simp only [lookup_cons, hk]; split <;> rfl
      · next hk =>
        rw [lookup_cons, ih, lookup_cons]
        by_cases hj : j = k
        · simp [hj, hk]
        · simp [hj]

/-! ## Dictionaries -/

structure Dictionary (α : Type) where
  entries : List (String × α)
  sorted : SortedEntries entries

namespace Dictionary

theorem ext {d d' : Dictionary α} (h : d.entries = d'.entries) : d = d' := by
  cases d
  cases d'
  simp only at h
  subst h
  rfl

instance [DecidableEq α] : DecidableEq (Dictionary α) := fun d d' =>
  decidable_of_iff (d.entries = d'.entries) ⟨ext, fun h => h ▸ rfl⟩

instance [Repr α] : Repr (Dictionary α) where
  reprPrec d n := reprPrec d.entries n

def empty : Dictionary α :=
  ⟨[], List.Pairwise.nil⟩

instance : EmptyCollection (Dictionary α) := ⟨empty⟩

instance : Inhabited (Dictionary α) := ⟨empty⟩

def get? (d : Dictionary α) (k : String) : Option α :=
  d.entries.lookup k

def insert (d : Dictionary α) (k : String) (v : α) : Dictionary α :=
  ⟨insertEntry k v d.entries, sortedEntries_insertEntry d.sorted⟩

def ofList (es : List (String × α)) : Dictionary α :=
  es.foldl (fun d e => d.insert e.1 e.2) empty

/-- the entries whose new value exists, with their keys -/
def filterMap (d : Dictionary α) (f : String → α → Option β) : Dictionary β :=
  ⟨d.entries.filterMap fun e => (f e.1 e.2).map fun v => (e.1, v), by
    refine d.sorted.filterMap _ fun a b hab x hx y hy => ?_
    simp only [Option.map_eq_some_iff] at hx hy
    obtain ⟨_, _, rfl⟩ := hx
    obtain ⟨_, _, rfl⟩ := hy
    exact hab⟩

/-! ### What the operations do to look-ups -/

theorem get?_insert (d : Dictionary α) (k j : String) (v : α) :
    (d.insert k v).get? j = if j = k then some v else d.get? j :=
  lookup_insertEntry

theorem get?_filterMap (d : Dictionary α) (f : String → α → Option β) (k : String) :
    (d.filterMap f).get? k = (d.get? k).bind (f k) := by
  obtain ⟨es, h⟩ := d
  simp only [get?, filterMap]
  induction es with
  | nil => rfl
  | cons e es ih =>
    have he := List.pairwise_cons.1 h
    rw [lookup_cons]
    by_cases hk : k = e.1
    · subst hk
      cases hf : f e.1 e.2 with
      | none =>
        rw [List.filterMap_cons_none (by simp [hf]), ih he.2, if_pos rfl,
          lookup_eq_none_of_lt he.1]
        simp [hf]
      | some v =>
        rw [List.filterMap_cons_some (b := (e.1, v)) (by simp [hf]), lookup_cons, if_pos rfl,
          if_pos rfl]
        simp [hf]
    · rw [if_neg hk]
      cases hf : f e.1 e.2 with
      | none => rw [List.filterMap_cons_none (by simp [hf]), ih he.2]
      | some v =>
        rw [List.filterMap_cons_some (b := (e.1, v)) (by simp [hf]), lookup_cons, if_neg hk,
          ih he.2]

/-- the entry with a key, if there is one -/
theorem filter_entries (d : Dictionary α) (k : String) :
    d.entries.filter (fun e => e.1 == k) = (d.get? k).toList.map fun v => (k, v) := by
  obtain ⟨es, h⟩ := d
  simp only [get?]
  induction es with
  | nil => rfl
  | cons e es ih =>
    have he := List.pairwise_cons.1 h
    rw [lookup_cons]
    by_cases hk : k = e.1
    · subst hk
      have hnone := lookup_eq_none_of_lt he.1
      rw [List.filter_cons_of_pos (by simp), ih he.2, hnone, if_pos rfl]
      rfl
    · rw [List.filter_cons_of_neg (by simpa using Ne.symm hk), if_neg hk]
      exact ih he.2

theorem get?_of_mem {d : Dictionary α} {e : String × α} (h : e ∈ d.entries) :
    d.get? e.1 = some e.2 := by
  have hfilter : e ∈ d.entries.filter fun a => a.1 == e.1 := List.mem_filter.2 ⟨h, by simp⟩
  rw [filter_entries] at hfilter
  obtain ⟨v, hv, he⟩ := List.mem_map.1 hfilter
  rw [← congrArg Prod.snd he]
  exact Option.mem_toList.1 hv

/-! ### A dictionary is rebuilt from its entries -/

theorem insertEntry_append {k : String} {v : α} {es : List (String × α)}
    (h : ∀ e ∈ es, e.1 < k) : insertEntry k v es = es ++ [(k, v)] := by
  induction es with
  | nil => rfl
  | cons e es ih =>
    have he := h e List.mem_cons_self
    have h1 : ¬ k < e.1 := fun hk => String.lt_irrefl k (String.lt_trans hk he)
    have h2 : ¬ k = e.1 := fun hk => String.lt_irrefl k (hk ▸ he)
    simp [insertEntry, h1, h2, ih fun e he => h e (List.mem_cons_of_mem _ he)]

theorem foldl_insert_entries (d : Dictionary α) (es : List (String × α))
    (h : SortedEntries (d.entries ++ es)) :
    (es.foldl (fun d e => d.insert e.1 e.2) d).entries = d.entries ++ es := by
  induction es generalizing d with
  | nil => simp
  | cons e es ih =>
    have hd : (d.insert e.1 e.2).entries = d.entries ++ [e] :=
      insertEntry_append fun a ha =>
        (List.pairwise_append.1 h).2.2 a ha e List.mem_cons_self
    rw [List.foldl_cons, ih (d.insert e.1 e.2) (by rw [hd]; simpa using h), hd]
    simp

theorem ofList_entries (d : Dictionary α) : ofList d.entries = d := by
  apply ext
  have := foldl_insert_entries (empty : Dictionary α) d.entries (by simpa [empty] using d.sorted)
  simpa [ofList, empty] using this

end Dictionary

end WidgetBoard
