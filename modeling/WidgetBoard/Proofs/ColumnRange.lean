import WidgetBoard.Proofs.Stored
import WidgetBoard.Wire.Dashboard

/-!
# Columns and widths within bounds

Sections have one to four columns and widgets a width from one to four.  Every edit sees to it, and
so do layouts and the reader of widths; the reader of sections takes any number of columns.

* `Section.Change`, `Dashboard.Change`   the edits of a section and of a dashboard;
* `Dashboard.changed`                    a dashboard after a list of changes;
* `Dashboard.Change.brought?`            the section that a change brings in from outside;
* `Section.exists_columns_of_reader`, `WidgetSize.exists_width_of_reader`   columns are read as they
  are given, widths are brought within bounds.

Main statement: `Dashboard.inRange_changed_iff` (the columns of a dashboard stay in range exactly
when those it was read with are, and those of all sections that are brought in).
-/

namespace WidgetBoard

/-- one to four columns -/
def Section.InRange (s : Section) : Prop := 1 ≤ s.columns ∧ s.columns ≤ 4

/-! ## changes -/

inductive Section.Change where
  | widget (w : Widget)
  | noWidget (id : String)
  | columns (n : Nat)
  | width (id : String) (n : Nat)
  | order (source target : String)

/-- an order of widgets that are not there changes nothing -/
def Section.change (s : Section) : Change → Section
  | .widget w => s.withWidget w
  | .noWidget id => s.withoutWidget id
  | .columns n => s.withColumns n
  | .width id n => s.withWidgetWidth id n
  | .order source target => (s.reorderWidgets? source target).getD s

inductive Dashboard.Change where
  /-- puts a section in place that comes from outside -/
  | bring (s : Section)
  /-- puts a new section in place -/
  | new (id title : String) (columns : Nat)
  /-- puts a section of the dashboard in place, changed -/
  | within (id : String) (c : Section.Change)
  | noSection (id : String)
  | noWidget (id : String)
  | order (source target : String)
  | layout (l : Layout)

namespace Dashboard

def Change.brought? : Change → Option Section
  | .bring s => some s
  | .new .. | .within .. | .noSection _ | .noWidget _ | .order .. | .layout _ => none

/-- where there is no such section, nothing changes -/
def change (d : Dashboard) : Change → Dashboard
  | .bring s => d.withSection s
  | .new id title columns => d.withSection (.empty id title columns)
  | .within id c => ((d.section? id).map fun s => d.withSection (s.change c)).getD d
  | .noSection id => d.withoutSection id
  | .noWidget id => d.withoutWidget id
  | .order source target => (d.reorderSections? source target).getD d
  | .layout l => d.applyLayout l

def changed (d : Dashboard) (cs : List Change) : Dashboard := cs.foldl change d

end Dashboard

/-! ## what is read -/

/-- the columns of a section are taken as they are given -/
theorem Section.exists_columns_of_reader {j : Json} {s : Section} (h : reader j = .ok s) :
    ∃ x ∈ j.children, Reader.below 256 x = .ok s.columns := by
  obtain ⟨find, h, hfind⟩ := Members.exists_build h
  obtain ⟨_, _, rfl, h, -⟩ := Members.build_withDefault h
  obtain ⟨_, columns, rfl, h, x, hx, hcolumns⟩ := Members.build_required h
  obtain ⟨_, _, rfl, h, -⟩ := Members.build_withDefault h
  obtain ⟨_, _, rfl, h, -⟩ := Members.build_required h
  obtain ⟨_, _, rfl, h, -⟩ := Members.build_required h
  cases h
  exact ⟨x, hfind _ x hx, hcolumns⟩

/-- the width of a widget is the number given, or the nearest that is in range -/
theorem WidgetSize.exists_width_of_reader {j : Json} {z : WidgetSize} (h : reader j = .ok z) :
    ∃ x ∈ j.children, ∃ n, Reader.below 256 x = .ok n ∧ z.width.val = max 1 (min n 4) := by
  obtain ⟨find, h, hfind⟩ := Members.exists_build h
  obtain ⟨_, _, rfl, h, -⟩ := Members.build_withDefault h
  obtain ⟨_, width, rfl, h, x, hx, hwidth⟩ := Members.build_required h
  cases h
  obtain ⟨n, hn, rfl⟩ := except_map_eq_ok_iff.1 hwidth
  exact ⟨x, hfind _ x hx, n, hn, rfl⟩

/-! ## one change -/

namespace Section

variable {s t : Section}

theorem Rearranges.inRange (h : t.Rearranges s) (hs : s.InRange) : t.InRange := by
  rcases h.columns with hc | ⟨n, hn⟩
  · rw [InRange, hc]
    exact hs
  · rw [InRange, hn]
    exact clampColumns_mem n

theorem inRange_change (h : s.InRange) (c : Change) : (s.change c).InRange := by
  cases c with
  | widget w => exact h
  | noWidget id => exact h
  | columns n => exact (rearranges_withColumns s n).inRange h
  | width id n => exact (rearranges_withWidgetWidth s id n).inRange h
  | order source target =>
    rw [change]
    cases ht : s.reorderWidgets? source target with
    | none => exact h
    | some t => exact (rearranges_of_reorderWidgets? ht).inRange h

end Section

namespace Dashboard

variable {d : Dashboard}

theorem inRange_withSection (h : d.InRange) {s : Section} (hs : s.InRange) :
    (d.withSection s).InRange := by
  intro t ht
  rcases mem_sections_of_withSection ht with rfl | ht
  · exact hs
  · exact h t ht

theorem mem_sections_withSection (d : Dashboard) (s : Section) :
    s ∈ (d.withSection s).sections := by
  obtain ⟨l₁, l₂, -, he⟩ := exists_withSection_eq d s
  rw [he]
  exact List.mem_append_right _ List.mem_cons_self

/-- a change keeps columns in range unless it brings in some that are not -/
theorem inRange_change (h : d.InRange) (c : Change) (hc : ∀ s ∈ c.brought?, s.InRange) :
    (d.change c).InRange := by
  cases c with
  | bring s => exact inRange_withSection h (hc s rfl)
  | new id title columns => exact inRange_withSection h (clampColumns_mem columns)
  | within id c =>
    rw [change]
    cases hs : d.section? id with
    | none => exact h
    | some s =>
      have hs' : s.InRange := h s (mem_sections_of_section? hs)
      exact inRange_withSection h (Section.inRange_change hs' c)
  | noSection id => exact (rearranges_withoutSection d id).inRange h
  | noWidget id => exact h.withoutWidget id
  | order source target =>
    rw [change]
    cases he : d.reorderSections? source target with
    | none => exact h
    | some e =>
      obtain ⟨i, _, he⟩ := Option.bind_eq_some_iff.1 he
      obtain ⟨j, _, he⟩ := Option.bind_eq_some_iff.1 he
      obtain rfl := Option.some.inj he
      exact (rearranges_moveItem d i j).inRange h
  | layout l =>
    -- a layout counts for nothing here: whatever its columns are, they are clamped
    intro s hs
    obtain ⟨t, _, rfl⟩ := List.mem_map.1 hs
    exact clampColumns_mem t.columns

/-! ## any number of changes -/

theorem inRange_changed (h : d.InRange) {cs : List Change}
    (hcs : ∀ c ∈ cs, ∀ s ∈ c.brought?, s.InRange) : (d.changed cs).InRange := by
  induction cs generalizing d with
  | nil => exact h
  | cons c cs ih =>
    have hc := inRange_change h c (hcs c List.mem_cons_self)
    exact ih hc fun x hx => hcs x (List.mem_cons_of_mem _ hx)

theorem changed_concat (d : Dashboard) (cs : List Change) (c : Change) :
    d.changed (cs ++ [c]) = (d.changed cs).change c := by
  rw [changed, List.foldl_append]
  rfl

/-- **Columns stay in range exactly when all that come in from outside are**: those of the sections
a dashboard is read with and of the sections that are brought in on the way.  Widths stay in range
whatever comes in. -/
theorem inRange_changed_iff (d : Dashboard) (cs : List Change) :
    ((∀ n, (d.changed (cs.take n)).InRange) ↔
      d.InRange ∧ ∀ c ∈ cs, ∀ s ∈ c.brought?, s.InRange) ∧
    ∀ n, ∀ w ∈ (d.changed (cs.take n)).widgets,
      1 ≤ w.size.width.val ∧ w.size.width.val ≤ 4 := by
  refine ⟨⟨fun h => ⟨h 0, fun c hc s hs => ?_⟩, fun ⟨hd, hcs⟩ n => ?_⟩,
    fun n w _ => ⟨w.size.width.one_le, w.size.width.le_four⟩⟩
  · -- right behind the change, the section that it brought in is on the dashboard
    obtain ⟨before, after, rfl⟩ := List.append_of_mem hc
    have htake : (before ++ c :: after).take (before ++ [c]).length = before ++ [c] := by
      rw [List.append_cons before c after, List.take_left]
    have hn := h (before ++ [c]).length
    rw [htake, changed_concat] at hn
    cases c with
    | bring t =>
      obtain rfl : t = s := Option.some.inj hs
      exact hn t (mem_sections_withSection _ t)
    | new | within | noSection | noWidget | order | layout => exact nomatch hs
  · exact inRange_changed hd fun c hc => hcs c (List.mem_of_mem_take hc)

/-- one section with that many columns, and in it a widget of that width -/
def squareDashboard (n : Nat) : Json :=
  .obj
    [("id", .str "sales"), ("title", .str "Sales"), ("view_id", .str "orders"),
     ("sections",
      .arr
        [.obj
          [("id", .str "top"), ("title", .str "Top"), ("columns", .ofNat n),
           ("widgets",
            .arr
              [.obj
                [("id", .str "count"), ("title", .str "Orders"),
                 ("config", .obj [("widget_type", .str "kpi")]),
                 ("size", .obj [("width", .ofNat n)])]])]])]

/-- of nine columns and a width of nine, the width is clamped when it is read and the columns are
not; they are by the layout that the dashboard has -/
theorem not_inRange_squareDashboard_nine :
    ∃ d, reader (squareDashboard 9) = .ok d ∧ ¬ d.InRange ∧
      d.widgets.map (fun w => w.size.width.val) = [4] ∧ (d.applyLayout d.layout).InRange := by
  let count : Widget :=
    { id := "count", title := "Orders", config := .kpi ⟨.single Metric.count, []⟩,
      size := { width := Span.clamp 9 } }
  let top : Section := { id := "top", title := "Top", columns := 9, widgets := [count] }
  let d : Dashboard := { id := "sales", title := "Sales", view := "orders", sections := [top] }
  refine ⟨d, rfl, fun h => ?_, rfl, ?_⟩
  · have htop : top.columns ≤ 4 := (h top List.mem_cons_self).2
    exact absurd htop (by decide)
  · intro s hs
    obtain ⟨t, _, rfl⟩ := List.mem_map.1 hs
    exact clampColumns_mem t.columns

end Dashboard

end WidgetBoard
