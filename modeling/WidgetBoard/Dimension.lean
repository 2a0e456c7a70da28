/-!
# Grouping dimensions

A chart groups by the values of a column, or by buckets of time over one.  A bucket is written as
the text `__time_<granularity>__:<column>`; any other text is the name of a plain column.

* `splitAt?`          a text in front of and behind the first occurrence of a mark;
* `Dimension.parse`   the dimension a text stands for;
* `Dimension.encode`  the text of a dimension.

Main statement: `encode_parse` (no text is lost by reading it as a dimension).
-/

namespace WidgetBoard

inductive BucketGranularity where
  | month
  | week
  | weekday
  | hour
  deriving DecidableEq, Repr

namespace BucketGranularity

def all : List BucketGranularity := [.month, .week, .weekday, .hour]

def name : BucketGranularity → String
  | .month => "month"
  | .week => "week"
  | .weekday => "weekday"
  | .hour => "hour"

def parse? (cs : List Char) : Option BucketGranularity :=
  all.find? fun g => g.name.toList == cs

end BucketGranularity

/-! ## Splitting -/

/-- what is left behind a text that begins with `mark` -/
def dropMark? (mark : List Char) (cs : List Char) : Option (List Char) :=
  match mark, cs with
  | [], cs => some cs
  | _ :: _, [] => none
  | m :: mark, c :: cs => if m = c then dropMark? mark cs else none

/-- the parts in front of and behind the first occurrence of `mark` -/
def splitAt? (mark : List Char) : List Char → Option (List Char × List Char)
  | [] => (dropMark? mark []).map fun r => ([], r)
  | c :: cs =>
    match dropMark? mark (c :: cs) with
    | some r => some ([], r)
    | none => (splitAt? mark cs).map fun p => (c :: p.1, p.2)

theorem dropMark?_eq_some_iff {mark cs r : List Char} :
    dropMark? mark cs = some r ↔ cs = mark ++ r := by
  fun_induction dropMark? mark cs with
  | case1 => simp [eq_comm]
  | case2 => simp
  | case3 m mark cs ih => simp [ih]
  | case4 m mark c cs h => simp [Ne.symm h]

theorem eq_append_of_splitAt? {mark cs : List Char} {p : List Char × List Char}
    (h : splitAt? mark cs = some p) : cs = p.1 ++ mark ++ p.2 := by
  induction cs generalizing p with
  | nil =>
    simp only [splitAt?, Option.map_eq_some_iff] at h
    obtain ⟨r, hr, rfl⟩ := h
    simpa using dropMark?_eq_some_iff.1 hr
  | cons c cs ih =>
    simp only [splitAt?] at h
    split at h
    · next r hr =>
      cases h
      simpa using dropMark?_eq_some_iff.1 hr
    · simp only [Option.map_eq_some_iff] at h
      obtain ⟨q, hq, rfl⟩ := h
      simp [ih hq]

/-! ## Dimensions -/

inductive Dimension where
  | plain (name : String)
  | bucket (granularity : BucketGranularity) (column : String)
  deriving DecidableEq, Repr

namespace Dimension

/-- in front of the granularity -/
def bucketMark : List Char := ['_', '_', 't', 'i', 'm', 'e', '_']

/-- between granularity and column -/
def columnMark : List Char := ['_', '_', ':']

/-- the granularity and the column of a bucket; the column is not empty -/
def parseBucket? (cs : List Char) : Option (BucketGranularity × List Char) := do
  let r ← dropMark? bucketMark cs
  let (g, column) ← splitAt? columnMark r
  let g ← BucketGranularity.parse? g
  if column.isEmpty then none else some (g, column)

def parse (s : String) : Dimension :=
  match parseBucket? s.toList with
  | some (g, column) => .bucket g (String.ofList column)
  | none => .plain s

def encode : Dimension → String
  | .plain name => name
  | .bucket g column =>
    String.ofList (bucketMark ++ g.name.toList ++ columnMark ++ column.toList)

/-- the column of the view that is grouped by -/
def columnName : Dimension → String
  | .plain name => name
  | .bucket _ column => column

def granularity? : Dimension → Option BucketGranularity
  | .plain _ => none
  | .bucket g _ => some g

/-- the same grouping over another column -/
def withColumn (d : Dimension) (column : String) : Dimension :=
  match d with
  | .plain _ => .plain column
  | .bucket g _ => .bucket g column

def isPlain : Dimension → Bool
  | .plain _ => true
  | .bucket .. => false

/-! ### Texts and dimensions -/

theorem name_of_parse? {cs : List Char} {g : BucketGranularity}
    (h : BucketGranularity.parse? cs = some g) : g.name.toList = cs := by
  simpa using List.find?_some h

theorem parseBucket?_eq_append {cs column : List Char} {g : BucketGranularity}
    (h : parseBucket? cs = some (g, column)) :
    cs = bucketMark ++ g.name.toList ++ columnMark ++ column := by
  simp only [parseBucket?, Option.bind_eq_bind, Option.bind_eq_some_iff] at h
  obtain ⟨r, hr, ⟨t, c⟩, ht, g', hg, h⟩ := h
  split at h
  · cases h
  · cases h
    rw [dropMark?_eq_some_iff.1 hr, eq_append_of_splitAt? ht, name_of_parse? hg]
    simp

theorem encode_parse (s : String) : encode (parse s) = s := by
  unfold parse
  split
  · next g column h =>
    rw [encode, String.toList_ofList, ← parseBucket?_eq_append h, String.ofList_toList]
  · rfl

end Dimension

end WidgetBoard
