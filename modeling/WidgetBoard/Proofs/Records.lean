import WidgetBoard.Json.Reader
import WidgetBoard.Proofs.Settled

/-!
# What readers read

Both directions, once for all types.  Forwards: a value *reads as* `a` when the reader gives `a` and
the value is none that a record might leave out.

* `Reader.Reads r j a`       the value `j` reads as `a`, and is neither null nor unreadable;
* `Members.Reads m find a`   the members that `find` finds make `a`, and each reads as something;
* `Members.reads_record`     a written record reads as what its members make.

Backwards: what a reader gave was made from parts of the value.

* `Members.exists_build`     a record that was read is built from children of the value;
* `build_required`, `build_withDefault`, `build_optional`   one member of it;
* `build_reads`, `build_optional_reads`   one member that was written, whatever the others read as.
-/

namespace WidgetBoard

variable {α β : Type}

/-- neither null nor a place that cannot be read -/
def Json.IsPlain : Json → Prop
  | .null | .broken _ | .keyless _ => False
  | .bool _ | .num _ | .str _ | .arr _ | .obj _ => True

structure Reader.Reads (r : Reader α) (j : Json) (a : α) : Prop where
  ok : r j = .ok a
  plain : j.IsPlain

theorem except_bind_eq_ok_iff {ε : Type} {x : Except ε α} {f : α → Except ε β} {b : β} :
    (x >>= f) = .ok b ↔ ∃ a, x = .ok a ∧ f a = .ok b := by
  cases x with
  | error e => simp [bind, Except.bind]
  | ok a => simp [bind, Except.bind]

theorem except_map_eq_ok_iff {ε : Type} {x : Except ε α} {f : α → β} {b : β} :
    x.map f = .ok b ↔ ∃ a, x = .ok a ∧ f a = b := by
  cases x with
  | error e => simp [Except.map]
  | ok a => simp [Except.map]

namespace Reader

variable {r : Reader α} {j : Json} {a : α}

theorem Reads.check (h : r.Reads j a) : Members.check r j = .ok () := by
  rw [Members.check, h.ok]
  rfl

/-- behind an optional member stands what is read, not null -/
theorem Reads.option (h : r.Reads j a) : (option r).Reads j (some a) := by
  obtain ⟨hok, hp⟩ := h
  refine ⟨?_, hp⟩
  cases j with
  | null => exact hp.elim
  | _ => exact congrArg (Except.map some) hok

/-! ## single values -/

theorem reads_string (s : String) : string.Reads (.str s) s := ⟨rfl, trivial⟩

theorem reads_bool (b : Bool) : bool.Reads (.bool b) b := ⟨rfl, trivial⟩

theorem reads_natural (n : Nat) : natural.Reads (.ofNat n) n := by
  refine ⟨?_, trivial⟩
  have h : (0 : Int) ≤ n := Int.natCast_nonneg n
  rw [Json.ofNat, natural, if_pos h, Int.toNat_natCast]

theorem below_ofNat {bound n : Nat} (h : n < bound) : below bound (.ofNat n) = .ok n := by
  rw [below, (reads_natural n).ok]
  exact if_pos h

theorem reads_uint8 (n : UInt8) : uint8.Reads (.ofNat n.toNat) n := by
  refine ⟨?_, trivial⟩
  rw [uint8, below_ofNat n.toNat_lt]
  exact congrArg Except.ok UInt8.ofNat_toNat

theorem reads_uint16 (n : UInt16) : uint16.Reads (.ofNat n.toNat) n := by
  refine ⟨?_, trivial⟩
  rw [uint16, below_ofNat n.toNat_lt]
  exact congrArg Except.ok UInt16.ofNat_toNat

theorem reads_uint32 (n : UInt32) : uint32.Reads (.ofNat n.toNat) n := by
  refine ⟨?_, trivial⟩
  rw [uint32, below_ofNat n.toNat_lt]
  exact congrArg Except.ok UInt32.ofNat_toNat

theorem reads_named {table : List (String × α)} {s : String} (h : table.lookup s = some a) :
    (named table).Reads (.str s) a := by
  refine ⟨?_, trivial⟩
  rw [named, h]

/-! ## lists -/

theorem all_map {γ : Type} {f : γ → Json} {g : γ → α} {l : List γ}
    (h : ∀ c ∈ l, r (f c) = .ok (g c)) : all r (l.map f) = .ok (l.map g) := by
  induction l with
  | nil => rfl
  | cons c l ih =>
    have hc := h c List.mem_cons_self
    have hl := ih fun x hx => h x (List.mem_cons_of_mem _ hx)
    rw [List.map_cons, all, hc, hl]
    rfl

/-- a written list reads as the list of what its items read as -/
theorem reads_list {γ : Type} {f : γ → Json} {g : γ → α} {l : List γ}
    (h : ∀ c ∈ l, r.Reads (f c) (g c)) : (list r).Reads (.arr (l.map f)) (l.map g) :=
  ⟨all_map fun c hc => (h c hc).ok, trivial⟩

theorem reads_list_self {f : α → Json} (h : ∀ a, r.Reads (f a) a) (l : List α) :
    (list r).Reads (.arr (l.map f)) l := by
  have hl := reads_list fun a (_ : a ∈ l) => h a
  rwa [List.map_id'] at hl

theorem of_mem_all {js : List Json} {as : List α} (h : all r js = .ok as) :
    ∀ a ∈ as, ∃ j ∈ js, r j = .ok a := by
  induction js generalizing as with
  | nil =>
    cases h
    exact fun a ha => nomatch ha
  | cons j js ih =>
    simp only [all, except_bind_eq_ok_iff, Except.ok.injEq] at h
    obtain ⟨b, hb, bs, hbs, rfl⟩ := h
    intro a ha
    rcases List.mem_cons.1 ha with rfl | ha
    · exact ⟨j, List.mem_cons_self, hb⟩
    · obtain ⟨x, hx, hxa⟩ := ih hbs a ha
      exact ⟨x, List.mem_cons_of_mem _ hx, hxa⟩

/-- every item of a list that was read was read from a child of the value -/
theorem of_mem_list {as : List α} (h : list r j = .ok as) :
    ∀ a ∈ as, ∃ x ∈ j.children, r x = .ok a := by
  cases j with
  | arr js => exact of_mem_all h
  | _ => exact nomatch h

theorem of_mem_option {o : Option α} (h : option r j = .ok o) :
    ∀ a ∈ o, r j = .ok a ∧ j ≠ .null := by
  cases j with
  | null =>
    cases h
    exact fun a ha => nomatch ha
  | _ =>
    rw [option, except_map_eq_ok_iff] at h
    · obtain ⟨b, hb, rfl⟩ := h
      intro a ha
      cases ha
      exact ⟨hb, nofun⟩
    · nofun

/-! ## dictionaries -/

theorem entries_map {f : α → Json} (h : ∀ a, r (f a) = .ok a) (es : List (String × α)) :
    entries r (es.map fun e => (e.1, f e.2)) = .ok es := by
  induction es with
  | nil => rfl
  | cons e es ih =>
    rw [List.map_cons, entries, h, ih]
    rfl

theorem reads_dictionary {f : α → Json} (h : ∀ a, r (f a) = .ok a) (d : Dictionary α) :
    (dictionary r).Reads (.obj (d.entries.map fun e => (e.1, f e.2))) d := by
  refine ⟨?_, trivial⟩
  rw [dictionary, entries_map h]
  exact congrArg Except.ok (Dictionary.ofList_entries d)

end Reader

/-! ## records, written and read -/

structure Members.Reads (m : Members α) (find : String → Option Json) (a : α) : Prop where
  build : m.build find = .ok a
  checked : ∀ e ∈ m.known, ∀ j ∈ find e.1, e.2 j = .ok () ∧ j.IsPlain

namespace Members

variable {find : String → Option Json} {k : String}

theorem reads_of (a : α) (find : String → Option Json) : (of a).Reads find a :=
  ⟨rfl, fun _ he => nomatch he⟩

section
variable {m : Members (α → β)} {f : α → β} {r : Reader α} {a : α} {j : Json}

/-- one member more, which is there -/
theorem Reads.member (h : m.Reads find f) (missing : Except Fault α) (hk : find k = some j)
    (hr : r.Reads j a) : (m.member k r missing).Reads find (f a) where
  build := by
    simp only [Members.member, h.build, hk, hr.ok]
    rfl
  checked e he x hx := by
    rcases List.mem_append.1 he with he | he
    · exact h.checked e he x hx
    · obtain rfl := List.mem_singleton.1 he
      obtain rfl := Option.some.inj (hk.symm.trans hx)
      exact ⟨hr.check, hr.plain⟩

theorem Reads.required (h : m.Reads find f) (k : String) (hk : find k = some j)
    (hr : r.Reads j a) : (m.required k r).Reads find (f a) :=
  h.member _ hk hr

theorem Reads.withDefault {a' : α} (h : m.Reads find f) (k : String) (hk : find k = some j)
    (hr : r.Reads j a) : (m.withDefault k a' r).Reads find (f a) :=
  h.member _ hk hr

/-- one member more, which may be left out -/
theorem Reads.optional {γ : Type} {m : Members (Option α → β)} {f : Option α → β} {o : Option γ}
    {w : γ → Json} {g : γ → α} (h : m.Reads find f) (k : String) (hk : find k = o.map w)
    (hr : ∀ c ∈ o, r.Reads (w c) (g c)) : (m.optional k r).Reads find (f (o.map g)) := by
  cases o with
  | some c => exact h.member _ hk (hr c rfl).option
  | none =>
    refine ⟨?_, fun e he x hx => ?_⟩
    · simp only [Members.optional, Members.member, h.build, hk]
      rfl
    · rcases List.mem_append.1 he with he | he
      · exact h.checked e he x hx
      · obtain rfl := List.mem_singleton.1 he
        exact nomatch hk.symm.trans hx

theorem Reads.optional_self {m : Members (Option α → β)} {f : Option α → β} {w : α → Json}
    {o : Option α} (h : m.Reads find f) (k : String) (hk : find k = o.map w)
    (hr : ∀ a, r.Reads (w a) a) : (m.optional k r).Reads find (f o) := by
  have ho := h.optional k hk fun a _ => hr a
  rwa [Option.map_id'] at ho

end

/-! ### members of a written record -/

theorem lookup_of_mem {ms : List (String × Json)} (hn : (ms.map Prod.fst).Nodup)
    {e : String × Json} (he : e ∈ ms) : ms.lookup e.1 = some e.2 := by
  induction ms with
  | nil => exact nomatch he
  | cons x ms ih =>
    obtain ⟨hx, hn⟩ := List.nodup_cons.1 (List.map_cons ▸ hn)
    rw [lookup_cons]
    rcases List.mem_cons.1 he with rfl | he
    · rw [if_pos rfl]
    · have hne : e.1 ≠ x.1 := fun h => hx (h ▸ List.mem_map_of_mem he)
      rw [if_neg hne, ih hn he]

theorem lookup_eq_none_of_not_mem {β : Type} {es : List (String × β)} {k : String}
    (h : k ∉ es.map Prod.fst) : es.lookup k = none := by
  rw [List.lookup_eq_none_iff]
  intro e he
  have hne : k ≠ e.1 := fun hk => h (hk ▸ List.mem_map_of_mem he)
  simpa using hne

/-- a known key stands for a check of the list -/
theorem exists_lookup {known : List (String × Reader Unit)} {k : String}
    (h : k ∈ known.map Prod.fst) : ∃ r, known.lookup k = some r ∧ (k, r) ∈ known := by
  induction known with
  | nil => exact nomatch h
  | cons c known ih =>
    rw [lookup_cons]
    by_cases hk : k = c.1
    · exact ⟨c.2, if_pos hk, hk ▸ List.mem_cons_self⟩
    · obtain ⟨r, hr, hm⟩ := ih ((List.mem_cons.1 h).resolve_left hk)
      exact ⟨r, by rw [if_neg hk, hr], List.mem_cons_of_mem _ hm⟩

theorem scan_eq_ok {known : List (String × Reader Unit)} {seen : List String}
    {ms : List (String × Json)} (hn : (ms.map Prod.fst).Nodup)
    (hs : ∀ k ∈ ms.map Prod.fst, k ∉ seen) (hk : ∀ k ∈ ms.map Prod.fst, k ∈ known.map Prod.fst)
    (hc : ∀ e ∈ ms, ∀ r, (e.1, r) ∈ known → r e.2 = .ok () ∧ e.2.IsPlain) :
    scan known seen ms = .ok () := by
  induction ms generalizing seen with
  | nil => rfl
  | cons e ms ih =>
    obtain ⟨k, j⟩ := e
    obtain ⟨hkn, hn⟩ := List.nodup_cons.1 (List.map_cons ▸ hn)
    obtain ⟨r, hr, hm⟩ := exists_lookup (hk k List.mem_cons_self)
    obtain ⟨hrj, hp⟩ := hc (k, j) List.mem_cons_self r hm
    have hns : k ∉ seen := hs k List.mem_cons_self
    have hrest : scan known (k :: seen) ms = .ok () := by
      refine ih hn (fun l hl h => ?_) (fun l hl => hk l (List.mem_cons_of_mem _ hl))
        fun e he => hc e (List.mem_cons_of_mem _ he)
      rcases List.mem_cons.1 h with rfl | h
      · exact hkn hl
      · exact hs l (List.mem_cons_of_mem _ hl) h
    cases j with
    | keyless => exact hp.elim
    | null | bool | num | str | arr | obj | broken =>
      simp only [scan, hr, if_neg hns, hrj]
      exact hrest

/-- an object whose members are all wanted, none twice, reads as what they make -/
theorem Reads.ofObject {m : Members α} {ms : List (String × Json)} {a : α}
    (h : m.Reads (fun k => ms.lookup k) a) (hn : (ms.map Prod.fst).Nodup)
    (hk : ∀ k ∈ ms.map Prod.fst, k ∈ m.known.map Prod.fst) : m.ofObject ms = .ok a := by
  have hscan : scan m.known [] ms = .ok () :=
    scan_eq_ok hn (fun _ _ => List.not_mem_nil) hk fun e he r hr =>
      h.checked (e.1, r) hr e.2 (lookup_of_mem hn he)
  rw [Members.ofObject, hscan]
  exact h.build

/-- the members of a written record: those that have a value -/
def present (fields : List (String × Option Json)) : List (String × Json) :=
  fields.filterMap fun f => f.2.map fun j => (f.1, j)

theorem present_cons_some (k : String) (j : Json) (fields : List (String × Option Json)) :
    present ((k, some j) :: fields) = (k, j) :: present fields := rfl

theorem present_cons_none (k : String) (fields : List (String × Option Json)) :
    present ((k, none) :: fields) = present fields := rfl

theorem keys_present_sublist (fields : List (String × Option Json)) :
    ((present fields).map Prod.fst).Sublist (fields.map Prod.fst) := by
  induction fields with
  | nil => exact List.Sublist.slnil
  | cons f fields ih =>
    obtain ⟨k, _ | j⟩ := f
    · exact ih.cons k
    · exact ih.cons_cons k

theorem lookup_present {fields : List (String × Option Json)} (hn : (fields.map Prod.fst).Nodup)
    (k : String) : (present fields).lookup k = (fields.lookup k).join := by
  induction fields with
  | nil => rfl
  | cons f fields ih =>
    obtain ⟨l, o⟩ := f
    obtain ⟨hl, hn'⟩ := List.nodup_cons.1 (List.map_cons ▸ hn)
    cases o with
    | some j =>
      rw [present_cons_some, lookup_cons, lookup_cons, ih hn']
      split <;> rfl
    | none =>
      rw [present_cons_none, lookup_cons, ih hn']
      split
      · next hk => rw [hk, lookup_eq_none_of_not_mem hl]; rfl
      · rfl

section
variable {m : Members α} {fields : List (String × Option Json)} {a : α}

theorem ofObject_present (h : m.Reads (fun k => (fields.lookup k).join) a)
    (hn : (fields.map Prod.fst).Nodup)
    (hk : ∀ k ∈ fields.map Prod.fst, k ∈ m.known.map Prod.fst) :
    m.ofObject (present fields) = .ok a := by
  have hsub := keys_present_sublist fields
  have hfind := funext (lookup_present hn)
  exact (hfind ▸ h : m.Reads (fun k => (present fields).lookup k) a).ofObject (hsub.nodup hn)
    fun k hm => hk k (hsub.subset hm)

/-- **A written record reads as what its members make**, provided it has no member twice and none
that is not wanted. -/
theorem reads_record (h : m.Reads (fun k => (fields.lookup k).join) a)
    (hn : (fields.map Prod.fst).Nodup)
    (hk : ∀ k ∈ fields.map Prod.fst, k ∈ m.known.map Prod.fst) :
    m.reader.Reads (.record fields) a :=
  ⟨ofObject_present h hn hk, trivial⟩

end

/-! ### members of a record that was read -/

theorem find_mem_children {ms : List (String × Json)} {k : String} {x : Json}
    (h : ms.lookup k = some x) : x ∈ ms.map Prod.snd := by
  obtain ⟨l₁, l₂, rfl, _⟩ := List.lookup_eq_some_iff.1 h
  simp

/-- **A record that was read is built from children of the value.** -/
theorem exists_build {m : Members α} {j : Json} {a : α} (h : m.reader j = .ok a) :
    ∃ find, m.build find = .ok a ∧ ∀ k x, find k = some x → x ∈ j.children := by
  cases j with
  | obj ms =>
    obtain ⟨_, _, hb⟩ := except_bind_eq_ok_iff.1 h
    exact ⟨_, hb, fun k x hx => find_mem_children hx⟩
  | arr js =>
    obtain ⟨_, _, hb⟩ := except_bind_eq_ok_iff.1 h
    refine ⟨_, hb, fun k x hx => ?_⟩
    obtain ⟨e, he, rfl⟩ := List.mem_map.1 (find_mem_children hx)
    exact (List.of_mem_zip he).2
  | _ => exact nomatch h

section
variable {r : Reader α} {b : β}

theorem build_member {m : Members (α → β)} {missing : Except Fault α}
    (h : (m.member k r missing).build find = .ok b) :
    ∃ f a, f a = b ∧ m.build find = .ok f ∧
      ((∃ j, find k = some j ∧ r j = .ok a) ∨ find k = none ∧ missing = .ok a) := by
  obtain ⟨f, hf, h⟩ := except_bind_eq_ok_iff.1 h
  cases hk : find k with
  | some j =>
    simp only [hk] at h
    obtain ⟨a, ha, hb⟩ := except_bind_eq_ok_iff.1 h
    exact ⟨f, a, Except.ok.inj hb, hf, Or.inl ⟨j, rfl, ha⟩⟩
  | none =>
    simp only [hk] at h
    obtain ⟨a, ha, hb⟩ := except_bind_eq_ok_iff.1 h
    exact ⟨f, a, Except.ok.inj hb, hf, Or.inr ⟨rfl, ha⟩⟩

theorem build_required {m : Members (α → β)} (h : (m.required k r).build find = .ok b) :
    ∃ f a, f a = b ∧ m.build find = .ok f ∧ ∃ j, find k = some j ∧ r j = .ok a := by
  obtain ⟨f, a, hb, hf, hj | ⟨_, hm⟩⟩ := build_member h
  · exact ⟨f, a, hb, hf, hj⟩
  · exact nomatch hm

theorem build_withDefault {m : Members (α → β)} {a' : α}
    (h : (m.withDefault k a' r).build find = .ok b) :
    ∃ f a, f a = b ∧ m.build find = .ok f ∧ (a = a' ∨ ∃ j, find k = some j ∧ r j = .ok a) := by
  obtain ⟨f, a, hb, hf, hj | ⟨_, hm⟩⟩ := build_member h
  · exact ⟨f, a, hb, hf, Or.inr hj⟩
  · exact ⟨f, a, hb, hf, Or.inl (Except.ok.inj hm).symm⟩

theorem build_optional {m : Members (Option α → β)}
    (h : (m.optional k r).build find = .ok b) :
    ∃ f o, f o = b ∧ m.build find = .ok f ∧
      ∀ a ∈ o, ∃ j, find k = some j ∧ r j = .ok a ∧ j ≠ .null := by
  obtain ⟨f, o, hb, hf, ⟨j, hj, ho⟩ | ⟨_, hm⟩⟩ := build_member h
  · exact ⟨f, o, hb, hf, fun a ha => ⟨j, hj, Reader.of_mem_option ho a ha⟩⟩
  · cases hm
    exact ⟨f, none, hb, hf, fun a ha => nomatch ha⟩

/-! ### members of a written record that was read -/

theorem build_of_record {m : Members α} {fields : List (String × Option Json)} {a : α}
    (hn : (fields.map Prod.fst).Nodup) (h : m.reader (.record fields) = .ok a) :
    m.build (fun k => (fields.lookup k).join) = .ok a := by
  obtain ⟨_, _, hb⟩ := except_bind_eq_ok_iff.1 h
  rwa [← funext (lookup_present hn)]

/-- a member was read as what its value reads as -/
theorem build_reads {m : Members (α → β)} {missing : Except Fault α} {j : Json} {a : α}
    (hk : find k = some j) (hr : r.Reads j a) (h : (m.member k r missing).build find = .ok b) :
    ∃ f, f a = b ∧ m.build find = .ok f := by
  obtain ⟨f, x, hb, hf, ⟨y, hy, hx⟩ | ⟨hnone, _⟩⟩ := build_member h
  · obtain rfl := Option.some.inj (hk.symm.trans hy)
    obtain rfl := Except.ok.inj (hr.ok.symm.trans hx)
    exact ⟨f, hb, hf⟩
  · exact nomatch hk.symm.trans hnone

theorem build_optional_reads {m : Members (Option α → β)} {o : Option α} {w : α → Json}
    (hk : find k = o.map w) (hr : ∀ a, r.Reads (w a) a)
    (h : (m.optional k r).build find = .ok b) : ∃ f, f o = b ∧ m.build find = .ok f := by
  cases o with
  | some a => exact build_reads hk (hr a).option h
  | none =>
    obtain ⟨f, x, hb, hf, ⟨y, hy, _⟩ | ⟨_, hx⟩⟩ := build_member h
    · exact nomatch hk.symm.trans hy
    · cases hx
      exact ⟨f, hb, hf⟩

end

end Members

end WidgetBoard
