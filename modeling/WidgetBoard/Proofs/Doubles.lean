import WidgetBoard.Grid.Resize

/-!
# Doubles that do not differ

The difference of two equal doubles is a zero, or no number where they are infinite or no numbers
themselves.  Divided by whatever double, that is still a zero or no number, so a pointer that has
not moved has moved over no cell.

* `Coincide x y`   `x` and `y` are the same double, or compare as equal;
* `IsNull u`       `u` is a zero of either sign, or no number.

Main statement: `draggedCells_eq_zero` (where the pointer began, it has moved over no cell).
-/

namespace WidgetBoard

open Float.Model

/-- the same double, or zeros of different signs -/
def Coincide (x y : Float) : Prop := x = y ∨ (x == y) = true

/-! ## doubles by their parts -/

/-- a zero, or no number -/
def IsNull (u : UnpackedFloat) : Prop := u = .notANumber ∨ ∃ s, u = .zero s

section

variable {u v : UnpackedFloat}

/-- magnitudes are compared by their exponents first -/
theorem eq_of_then_compare {m n : Nat} {e f : Int}
    (h : (compare e f).then (compare m n) = .eq) : e = f ∧ m = n := by
  obtain ⟨he, hm⟩ := Ordering.then_eq_eq.1 h
  exact ⟨Std.LawfulEqOrd.eq_of_compare he, Std.LawfulEqOrd.eq_of_compare hm⟩

theorem eq_or_zeros_of_compare (h : u.compare v = some .eq) :
    u = v ∨ ∃ s t, u = .zero s ∧ v = .zero t := by
  cases u with
  | notANumber => exact nomatch h
  | zero s =>
    cases v with
    | zero t => exact Or.inr ⟨s, t, rfl, rfl⟩
    | notANumber => exact nomatch h
    | infinity t | finite t => cases t <;> exact nomatch h
  | infinity s =>
    cases v with
    | infinity t => cases s <;> cases t <;> first | exact Or.inl rfl | exact nomatch h
    | notANumber | zero | finite => cases s <;> exact nomatch h
  | finite s m e hm =>
    cases v with
    | finite t n f hn =>
      cases s with
      | positive =>
        cases t with
        | positive =>
          obtain ⟨rfl, rfl⟩ := eq_of_then_compare (Option.some.inj h)
          exact Or.inl rfl
        | negative => exact nomatch h
      | negative =>
        cases t with
        | positive => exact nomatch h
        | negative =>
          obtain ⟨rfl, rfl⟩ := eq_of_then_compare (Ordering.swap_eq_eq.1 (Option.some.inj h))
          exact Or.inl rfl
    | notANumber | zero => cases s <;> exact nomatch h
    | infinity t => cases s <;> cases t <;> exact nomatch h

theorem isNull_sub_self (f : Format) (u : UnpackedFloat) : IsNull (UnpackedFloat.sub f u u) := by
  cases u with
  | notANumber => exact Or.inl rfl
  | infinity s => cases s <;> exact Or.inl rfl
  | zero s => cases s <;> exact Or.inr ⟨_, rfl⟩
  | finite s m e hm =>
    -- the mantissas are the same number
    let a := s.apply (UnpackedFloat.decreaseExponent m e (min e e)).1
    refine Or.inr ⟨.positive, ?_⟩
    show UnpackedFloat.normalize f (a - a) (min e e) .positive = .zero .positive
    rw [Int.sub_self]
    rfl

theorem isNull_sub (f : Format) (h : u.compare v = some .eq) :
    IsNull (UnpackedFloat.sub f u v) := by
  rcases eq_or_zeros_of_compare h with rfl | ⟨s, t, rfl, rfl⟩
  · exact isNull_sub_self f u
  · cases s <;> cases t <;> exact Or.inr ⟨_, rfl⟩

theorem isNull_div (f : Format) (h : IsNull u) (v : UnpackedFloat) :
    IsNull (UnpackedFloat.div f u v) := by
  rcases h with rfl | ⟨s, rfl⟩
  · exact Or.inl rfl
  · cases v with
    | notANumber | zero => exact Or.inl rfl
    | infinity | finite => exact Or.inr ⟨_, rfl⟩

theorem unpack_pack_of_isNull (h : IsNull u) : (Float.Model.pack u).unpack = u := by
  rcases h with rfl | ⟨s, rfl⟩
  · rfl
  · cases s <;> rfl

end

/-! ## cells -/

variable {x y : Float}

theorem exists_isNull_sub (h : Coincide x y) : ∃ u, IsNull u ∧ x - y = ⟨Float.Model.pack u⟩ := by
  refine ⟨_, ?_, rfl⟩
  rcases h with rfl | h
  · exact isNull_sub_self _ _
  · exact isNull_sub _ (eq_of_beq h)

/-- a distance that is null is not a whole cell, whatever the cell -/
theorem exists_isNull_div (h : Coincide x y) (cell : Float) :
    ∃ u, IsNull u ∧ (x - y) / cell = ⟨Float.Model.pack u⟩ := by
  obtain ⟨u, hu, hsub⟩ := exists_isNull_sub h
  refine ⟨_, isNull_div Format.binary64 hu cell.toModel.unpack, ?_⟩
  show (⟨(x - y).toModel / cell.toModel⟩ : Float) = _
  rw [hsub]
  show (⟨Float.Model.pack (UnpackedFloat.div _ (Float.Model.pack u).unpack _)⟩ : Float) = _
  rw [unpack_pack_of_isNull hu]

theorem roundAway_eq_zero {u : UnpackedFloat} (h : IsNull u)
    (hfin : Float.isFinite ⟨Float.Model.pack u⟩ = true) :
    roundAway ⟨Float.Model.pack u⟩ = 0 := by
  rcases h with rfl | ⟨s, rfl⟩
  · exact nomatch hfin
  · cases s <;> decide +kernel

/-- **Where the pointer began, it has moved over no cell**, whatever the grid measures, and wherever
that is: at no number and at the infinite, too. -/
theorem draggedCells_eq_zero (h : Coincide y x) (p : GridPixels) : draggedCells p x y = 0 := by
  obtain ⟨u, hu, hcells⟩ := exists_isNull_div h p.cellWidth
  simp only [draggedCells, hcells]
  split
  · split
    · next hfin => exact roundAway_eq_zero hu hfin
    · rfl
  · rfl

end WidgetBoard
