import WidgetBoard.Proofs.Greedy

/-!
# Grids in bytes

Where a grid is packed, columns and widths are bytes.  Here a sum or a difference that is no byte is
missing, and so is all that is made of it.  Nothing is: whatever columns and widths are given, the
bytes come to the same as the numbers.

* `byteSum?`, `byteDiff?`         the sum and the difference of two bytes;
* `ByteRow`, `ByteGrid`           rows and grids in bytes, with packing and room as for numbers;
* `ByteGrid.Computes b g`         packing and room of `b` are there, and are those of `g`;
* `ByteGrid.PacksGreedily b g`    the rows are the greedy ones, too, and the fewest.

Main statements: `ByteGrid.computes_ofDeclared`, `ByteGrid.packsGreedily_ofDeclared`.
-/

namespace WidgetBoard

/-! ## bytes -/

/-- the sum of two bytes, where it is a byte -/
def byteSum? (a b : UInt8) : Option UInt8 :=
  if a.toNat + b.toNat < UInt8.size then some (a + b) else none

def byteDiff? (a b : UInt8) : Option UInt8 :=
  if b ≤ a then some (a - b) else none

theorem exists_byteSum? {a b : UInt8} (h : a.toNat + b.toNat < UInt8.size) :
    ∃ c, byteSum? a b = some c ∧ c.toNat = a.toNat + b.toNat :=
  ⟨a + b, if_pos h, (UInt8.toNat_add a b).trans (Nat.mod_eq_of_lt h)⟩

theorem exists_byteDiff? {a b : UInt8} (h : b.toNat ≤ a.toNat) :
    ∃ c, byteDiff? a b = some c ∧ c.toNat = a.toNat - b.toNat :=
  ⟨a - b, if_pos (UInt8.le_iff_toNat_le.2 h), UInt8.toNat_sub_of_le a b (UInt8.le_iff_toNat_le.2 h)⟩

/-! ## grids -/

structure ByteRow where
  widgets : List Nat
  used : UInt8

def ByteRow.row (r : ByteRow) : GridRow :=
  ⟨r.widgets, r.used.toNat⟩

structure ByteGrid where
  columns : UInt8
  widths : List UInt8

namespace ByteGrid

def grid (b : ByteGrid) : Grid :=
  ⟨b.columns.toNat, b.widths.map UInt8.toNat⟩

def clampByte (n : UInt8) : UInt8 :=
  max 1 (min n 4)

def ofDeclared (columns : UInt8) (declared : List UInt8) : ByteGrid :=
  ⟨clampByte columns, declared.map fun w => min (clampByte w) (clampByte columns)⟩

def startOf? (columns used w : UInt8) : Option UInt8 := do
  let sum ← byteSum? used w
  pure (if columns < sum then 0 else used)

def endOf? (columns start w : UInt8) : Option UInt8 := do
  let sum ← byteSum? start w
  pure (if sum = columns then 0 else sum)

def starts? (columns used : UInt8) : List UInt8 → Option (List UInt8)
  | [] => pure []
  | w :: ws => do
    let start ← startOf? columns used w
    let behind ← endOf? columns start w
    let rest ← starts? columns behind ws
    pure (start :: rest)

def usedBefore? (b : ByteGrid) : Option (List UInt8) :=
  starts? b.columns 0 b.widths

def place? (rows : List ByteRow) (i : Nat) (start w : UInt8) : Option (List ByteRow) :=
  match rows.getLast? with
  | some row =>
    if 0 < start then do
      let used ← byteSum? row.used w
      pure (rows.dropLast ++ [⟨row.widgets ++ [i], used⟩])
    else pure (rows ++ [⟨[i], w⟩])
  | none => pure [⟨[i], w⟩]

def pack? (columns : UInt8) : List ByteRow → Nat → UInt8 → List UInt8 → Option (List ByteRow)
  | rows, _, _, [] => pure rows
  | rows, i, used, w :: ws => do
    let start ← startOf? columns used w
    let rows ← place? rows i start w
    let behind ← endOf? columns start w
    pack? columns rows (i + 1) behind ws

def rows? (b : ByteGrid) : Option (List ByteRow) :=
  pack? b.columns [] 0 0 b.widths

def remaining? (b : ByteGrid) : Option UInt8 := do
  match (← b.rows?).getLast? with
  | some row => byteDiff? b.columns row.used
  | none => pure b.columns

def roomFrom? (columns used : UInt8) : Option UInt8 := do
  let room ← byteDiff? columns used
  pure (max room 1)

def maxWidths? (b : ByteGrid) : Option (List UInt8) := do
  (← b.usedBefore?).mapM (roomFrom? b.columns)

/-- what is made of the grid in bytes is all there, and is what is made of `g` -/
structure Computes (b : ByteGrid) (g : Grid) : Prop where
  usedBefore : b.usedBefore?.map (·.map UInt8.toNat) = some g.usedBefore
  rows : b.rows?.map (·.map ByteRow.row) = some g.rows
  remaining : b.remaining?.map UInt8.toNat = some g.remaining
  maxWidths : b.maxWidths?.map (·.map UInt8.toNat) = some g.maxWidths

/-! ## steps -/

section

variable {columns used w : UInt8}

theorem exists_startOf? (columns : UInt8) (h : used.toNat + w.toNat < UInt8.size) :
    ∃ s, startOf? columns used w = some s ∧
      s.toNat = Grid.startOf columns.toNat used.toNat w.toNat := by
  obtain ⟨sum, hsum, hnat⟩ := exists_byteSum? h
  refine ⟨_, by rw [startOf?, hsum]; rfl, ?_⟩
  rw [Grid.startOf, ← hnat, apply_ite UInt8.toNat]
  simp only [UInt8.lt_iff_toNat_lt]
  rfl

theorem exists_endOf? (columns : UInt8) {start : UInt8} (h : start.toNat + w.toNat < UInt8.size) :
    ∃ e, endOf? columns start w = some e ∧
      e.toNat = Grid.endOf columns.toNat start.toNat w.toNat := by
  obtain ⟨sum, hsum, hnat⟩ := exists_byteSum? h
  refine ⟨_, by rw [endOf?, hsum]; rfl, ?_⟩
  rw [Grid.endOf, ← hnat, apply_ite UInt8.toNat]
  simp only [UInt8.toNat_inj]
  rfl

/-- the sum of two widths in range is a byte -/
theorem add_lt_size {a b n : Nat} (ha : a ≤ n) (hb : b ≤ n) (hn : n ≤ 4) : a + b < UInt8.size :=
  Nat.lt_of_le_of_lt (Nat.add_le_add (Nat.le_trans ha hn) (Nat.le_trans hb hn)) (by decide)

theorem zero_lt_iff {b : UInt8} : 0 < b ↔ 0 < b.toNat :=
  UInt8.lt_iff_toNat_lt

theorem place?_concat (rows : List ByteRow) (row : ByteRow) (i : Nat) (start w : UInt8) :
    place? (rows ++ [row]) i start w
      = if 0 < start then
          (byteSum? row.used w).map fun used => rows ++ [⟨row.widgets ++ [i], used⟩]
        else some (rows ++ [row] ++ [⟨[i], w⟩]) := by
  rw [place?, List.getLast?_concat, List.dropLast_concat]
  dsimp only
  split
  · cases byteSum? row.used w <;> rfl
  · rfl

theorem exists_place? {rows : List ByteRow} (i : Nat) (start : UInt8)
    (h : ∀ row ∈ rows, row.used.toNat + w.toNat < UInt8.size) :
    ∃ rows', place? rows i start w = some rows' ∧
      rows'.map ByteRow.row = Grid.place (rows.map ByteRow.row) i start.toNat w.toNat := by
  rcases List.eq_nil_or_concat rows with rfl | ⟨front, last, rfl⟩
  · exact ⟨_, rfl, rfl⟩
  · rw [List.concat_eq_append] at h ⊢
    have hlast := h last (List.mem_append_right _ List.mem_cons_self)
    obtain ⟨sum, hsum, hnat⟩ := exists_byteSum? hlast
    rw [List.map_append, List.map_singleton, Grid.place_concat, place?_concat, hsum]
    by_cases hpos : 0 < start
    · refine ⟨_, if_pos hpos, ?_⟩
      rw [if_pos (zero_lt_iff.1 hpos), List.map_append, ByteRow.row, ← hnat]
      rfl
    · refine ⟨_, if_neg hpos, ?_⟩
      rw [if_neg (mt zero_lt_iff.2 hpos), List.map_append, List.map_append]
      rfl

theorem exists_roomFrom? (h : used.toNat ≤ columns.toNat) :
    ∃ room, roomFrom? columns used = some room ∧
      room.toNat = max (columns.toNat - used.toNat) 1 := by
  obtain ⟨diff, hdiff, hnat⟩ := exists_byteDiff? h
  refine ⟨_, by rw [roomFrom?, hdiff]; rfl, ?_⟩
  rw [UInt8.toNat_max, hnat]
  rfl

/-! ## runs -/

theorem exists_starts? {ws : List UInt8} (h4 : columns.toNat ≤ 4) (hu : used.toNat ≤ columns.toNat)
    (hws : ∀ w ∈ ws, w.toNat ≤ columns.toNat) :
    ∃ ss, starts? columns used ws = some ss ∧ (∀ s ∈ ss, s.toNat ≤ columns.toNat) ∧
      ss.map UInt8.toNat = Grid.starts columns.toNat used.toNat (ws.map UInt8.toNat) := by
  induction ws generalizing used with
  | nil => exact ⟨[], rfl, List.forall_mem_nil _, rfl⟩
  | cons w ws ih =>
    have hw := hws w List.mem_cons_self
    obtain ⟨start, hstart, hsn⟩ := exists_startOf? columns (add_lt_size hu hw h4)
    have hin : start.toNat + w.toNat ≤ columns.toNat := hsn ▸ Grid.startOf_add_le used.toNat hw
    have hle : start.toNat ≤ columns.toNat := Nat.le_trans (Nat.le_add_right _ _) hin
    obtain ⟨behind, hbehind, hbn⟩ := exists_endOf? columns (add_lt_size hle hw h4)
    have hblt : behind.toNat ≤ columns.toNat := by
      rw [hbn, Grid.endOf]
      split <;> omega
    obtain ⟨ss, hss, hbound, hmap⟩ := ih hblt fun v hv => hws v (List.mem_cons_of_mem _ hv)
    refine ⟨start :: ss, ?_, ?_, ?_⟩
    · simp only [starts?, hstart, hbehind, hss, Option.bind_eq_bind, Option.bind_some]
      rfl
    · exact List.forall_mem_cons.2 ⟨hle, hbound⟩
    · rw [List.map_cons, List.map_cons, hmap, hbn, hsn]
      rfl

/-- packing goes on behind rows that were packed, and no row becomes too full for a byte -/
theorem exists_pack? {packed : List Nat} {rows : List ByteRow} {ws : List UInt8}
    (h4 : columns.toNat ≤ 4)
    (hrows : Grid.Packed columns.toNat packed (rows.map ByteRow.row))
    (hu : used.toNat = Grid.taken columns.toNat (rows.map ByteRow.row))
    (hws : ∀ w ∈ ws, 1 ≤ w.toNat ∧ w.toNat ≤ columns.toNat) :
    ∃ rows', pack? columns rows packed.length used ws = some rows' ∧
      rows'.map ByteRow.row = Grid.pack columns.toNat (rows.map ByteRow.row) packed.length
        used.toNat (ws.map UInt8.toNat) := by
  induction ws generalizing packed rows used with
  | nil => exact ⟨rows, rfl, rfl⟩
  | cons w ws ih =>
    obtain ⟨hw1, hw⟩ := hws w List.mem_cons_self
    have hused : ∀ row ∈ rows, row.used.toNat ≤ columns.toNat := fun row hrow =>
      (hrows.used_mem row.row (List.mem_map_of_mem hrow)).2
    have hu4 : used.toNat ≤ columns.toNat := hu ▸ hrows.taken_le
    obtain ⟨start, hstart, hsn⟩ := exists_startOf? columns (add_lt_size hu4 hw h4)
    have hin : start.toNat + w.toNat ≤ columns.toNat := hsn ▸ Grid.startOf_add_le used.toNat hw
    have hle : start.toNat ≤ columns.toNat := Nat.le_trans (Nat.le_add_right _ _) hin
    obtain ⟨behind, hbehind, hbn⟩ := exists_endOf? columns (add_lt_size hle hw h4)
    obtain ⟨placed, hplaced, hpn⟩ := exists_place? packed.length start fun row hrow =>
      add_lt_size (hused row hrow) hw h4
    rw [hsn, hu] at hpn hbn
    have hnext := Grid.next_place columns.toNat packed.length
      (fun row hrow => (hrows.used_mem row hrow).1) hw1
    rw [← hpn] at hnext
    have hbehind' : behind.toNat = Grid.taken columns.toNat (placed.map ByteRow.row) := by
      rw [hbn, hpn, Grid.taken_place]
    obtain ⟨rows', hrows', hmap⟩ := ih (hrows.concat hw1 hw hnext) hbehind' fun v hv =>
      hws v (List.mem_cons_of_mem _ hv)
    rw [List.length_append] at hrows' hmap
    refine ⟨rows', ?_, ?_⟩
    · simp only [pack?, hstart, hplaced, hbehind, Option.bind_eq_bind, Option.bind_some]
      exact hrows'
    · rw [hmap, hpn, hbn, ← hu]
      rfl

theorem exists_mapM_roomFrom? {ss : List UInt8} (h : ∀ s ∈ ss, s.toNat ≤ columns.toNat) :
    ∃ rooms, ss.mapM (roomFrom? columns) = some rooms ∧
      rooms.map UInt8.toNat
        = (ss.map UInt8.toNat).map fun used => max (columns.toNat - used) 1 := by
  induction ss with
  | nil => exact ⟨[], rfl, rfl⟩
  | cons s ss ih =>
    obtain ⟨room, hroom, hrn⟩ := exists_roomFrom? (h s List.mem_cons_self)
    obtain ⟨rooms, hrooms, hmap⟩ := ih fun t ht => h t (List.mem_cons_of_mem _ ht)
    refine ⟨room :: rooms, ?_, ?_⟩
    · rw [List.mapM_cons, hroom, hrooms]
      rfl
    · rw [List.map_cons, hmap, hrn]
      rfl

end

/-! ## nothing is missing -/

variable {b : ByteGrid}

theorem remaining?_of_rows?_nil (h : b.rows? = some []) : b.remaining? = some b.columns := by
  rw [remaining?, h]
  rfl

theorem remaining?_of_rows?_concat {front : List ByteRow} {last : ByteRow}
    (h : b.rows? = some (front ++ [last])) : b.remaining? = byteDiff? b.columns last.used := by
  rw [remaining?, h, Option.bind_eq_bind, Option.bind_some, List.getLast?_concat]

theorem exists_rows? (h : b.grid.Fits) :
    ∃ rows, b.rows? = some rows ∧ rows.map ByteRow.row = b.grid.rows := by
  have hnil : Grid.Packed b.columns.toNat [] (([] : List ByteRow).map ByteRow.row) := .nil
  have hzero : (0 : UInt8).toNat
      = Grid.taken b.columns.toNat (([] : List ByteRow).map ByteRow.row) := rfl
  exact exists_pack? h.columns.2 hnil hzero fun w hw => h.widths w.toNat (List.mem_map_of_mem hw)

theorem exists_usedBefore? (h : b.grid.Fits) :
    ∃ ss, b.usedBefore? = some ss ∧ (∀ s ∈ ss, s.toNat ≤ b.columns.toNat) ∧
      ss.map UInt8.toNat = b.grid.usedBefore := by
  have hzero : (0 : UInt8).toNat ≤ b.columns.toNat := Nat.zero_le _
  exact exists_starts? h.columns.2 hzero fun w hw =>
    (h.widths w.toNat (List.mem_map_of_mem hw)).2

theorem exists_remaining? (h : b.grid.Fits) :
    ∃ room, b.remaining? = some room ∧ room.toNat = b.grid.remaining := by
  obtain ⟨rows, hrows, hmap⟩ := exists_rows? h
  rcases List.eq_nil_or_concat rows with rfl | ⟨front, last, rfl⟩
  · rw [Grid.remaining_of_rows_eq_nil hmap.symm]
    exact ⟨_, remaining?_of_rows?_nil hrows, rfl⟩
  · rw [List.concat_eq_append] at hrows hmap
    rw [List.map_append] at hmap
    have hmem : last.row ∈ b.grid.rows := hmap ▸ List.mem_append_right _ List.mem_cons_self
    obtain ⟨room, hroom, hnat⟩ := exists_byteDiff? ((Grid.packed_rows h).used_mem _ hmem).2
    rw [remaining?_of_rows?_concat hrows, Grid.remaining_of_rows_eq_concat hmap.symm]
    exact ⟨room, hroom, hnat⟩

/-- no sum and no difference is missing where all widths are in range -/
theorem computes_grid (h : b.grid.Fits) : b.Computes b.grid := by
  obtain ⟨ss, hss, hbound, hsmap⟩ := exists_usedBefore? h
  obtain ⟨rows, hrows, hrmap⟩ := exists_rows? h
  obtain ⟨room, hroom, hnat⟩ := exists_remaining? h
  obtain ⟨rooms, hrooms, hmmap⟩ := exists_mapM_roomFrom? hbound
  refine ⟨?_, ?_, ?_, ?_⟩
  · rw [hss, Option.map_some, hsmap]
  · rw [hrows, Option.map_some, hrmap]
  · rw [hroom, Option.map_some, hnat]
  · rw [maxWidths?, hss, Option.bind_eq_bind, Option.bind_some, hrooms, Option.map_some, hmmap,
      hsmap]
    rfl

theorem toNat_clampByte (n : UInt8) : (clampByte n).toNat = clampColumns n.toNat := by
  rw [clampByte, UInt8.toNat_max, UInt8.toNat_min]
  rfl

theorem grid_ofDeclared (columns : UInt8) (declared : List UInt8) :
    (ofDeclared columns declared).grid
      = .ofDeclared columns.toNat (declared.map UInt8.toNat) := by
  have hwidth (w : UInt8) : (min (clampByte w) (clampByte columns)).toNat
      = effectiveWidth w.toNat columns.toNat := by
    rw [UInt8.toNat_min, toNat_clampByte, toNat_clampByte]
    rfl
  rw [grid, ofDeclared, Grid.ofDeclared, toNat_clampByte, List.map_map, List.map_map]
  exact congrArg _ (List.map_congr_left fun w _ => hwidth w)

/-- **No sum leaves the bytes and no difference falls below zero**, whatever columns and widths are
declared. -/
theorem computes_ofDeclared (columns : UInt8) (declared : List UInt8) :
    (ofDeclared columns declared).Computes
      (.ofDeclared columns.toNat (declared.map UInt8.toNat)) := by
  rw [← grid_ofDeclared]
  refine computes_grid ?_
  rw [grid_ofDeclared]
  exact Grid.fits_ofDeclared _ _

/-- nothing is missing, and the rows are the greedy ones, and as few as can be -/
structure PacksGreedily (b : ByteGrid) (g : Grid) : Prop where
  computes : b.Computes g
  greedy : ∀ rows, g.IsGreedy rows ↔ rows = g.rows
  fewest : ∀ runs, g.Divides runs → g.rows.length ≤ runs.length

/-- **Packing is greedy, and no division into runs that fit does with fewer rows**, whatever bytes
are declared as columns and widths. -/
theorem packsGreedily_ofDeclared (columns : UInt8) (declared : List UInt8) :
    (ofDeclared columns declared).PacksGreedily
      (.ofDeclared columns.toNat (declared.map UInt8.toNat)) := by
  have hfits := Grid.fits_ofDeclared columns.toNat (declared.map UInt8.toNat)
  refine ⟨computes_ofDeclared columns declared, fun rows => Grid.isGreedy_iff hfits, ?_⟩
  intro runs hruns
  have hgreedy := (Grid.isGreedy_iff hfits).2 rfl
  exact hgreedy.length_le hruns

end ByteGrid

end WidgetBoard
