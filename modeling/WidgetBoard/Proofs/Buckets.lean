import WidgetBoard.Dimension

/-!
# The texts of buckets

A dimension is written as one text, and by that text alone a bucket is told from a plain column.
The column of a bucket may hold the marks once more, and may itself be the text of a bucket.  But
the names of granularities hold no underscore, so the first mark behind one is the one that was put
there.

* `splitAt?_append`        a text is split at the first mark, whatever stands behind it;
* `Dimension.sentinel`     the text of a bucket, put together from its granularity and its column;
* `Dimension.IsSentinel`   the texts of buckets over a column that is not empty;
* `Dimension.ReadsBack`    what a dimension has to be for its text to be read as that dimension.

Main statement: `Dimension.exact_parse_encode` (what each text is read as, and which dimensions are
read back).
-/

namespace WidgetBoard

/-! ## the first mark -/

theorem splitAt?_append {m : Char} {mark front : List Char} (h : m ∉ front) (cs : List Char) :
    splitAt? (m :: mark) (front ++ (m :: mark ++ cs)) = some (front, cs) := by
  induction front with
  | nil =>
    have hd : dropMark? (m :: mark) (m :: (mark ++ cs)) = some cs := dropMark?_eq_some_iff.2 rfl
    show splitAt? (m :: mark) (m :: (mark ++ cs)) = _
    rw [splitAt?, hd]
  | cons c front ih =>
    -- no mark begins at `c`, which is not the first character of one
    have hd : dropMark? (m :: mark) (c :: (front ++ (m :: mark ++ cs))) = none :=
      if_neg (List.ne_of_not_mem_cons h)
    rw [List.cons_append, splitAt?, hd, ih (List.not_mem_of_not_mem_cons h)]
    rfl

namespace BucketGranularity

theorem underscore_notMem_name (g : BucketGranularity) : '_' ∉ g.name.toList := by
  cases g <;> decide

theorem parse?_name (g : BucketGranularity) : parse? g.name.toList = some g := by
  cases g <;> rfl

theorem name_inj {g g' : BucketGranularity} : g.name.toList = g'.name.toList ↔ g = g' := by
  constructor
  · intro h
    have hg := parse?_name g
    rw [h, parse?_name] at hg
    exact (Option.some.inj hg).symm
  · exact fun h => congrArg (fun g => g.name.toList) h

end BucketGranularity

/-! ## texts that are buckets -/

namespace Dimension

open BucketGranularity

theorem splitAt?_granularity (g : BucketGranularity) (cs : List Char) :
    splitAt? columnMark (g.name.toList ++ (columnMark ++ cs)) = some (g.name.toList, cs) :=
  splitAt?_append (underscore_notMem_name g) cs

theorem parseBucket?_append (g : BucketGranularity) {cs : List Char} (h : cs ≠ []) :
    parseBucket? (bucketMark ++ (g.name.toList ++ (columnMark ++ cs))) = some (g, cs) := by
  have hd : dropMark? bucketMark (bucketMark ++ (g.name.toList ++ (columnMark ++ cs)))
      = some (g.name.toList ++ (columnMark ++ cs)) := dropMark?_eq_some_iff.2 rfl
  simp [parseBucket?, hd, splitAt?_granularity, parse?_name, h]

theorem ne_nil_of_parseBucket? {cs column : List Char} {g : BucketGranularity}
    (h : parseBucket? cs = some (g, column)) : column ≠ [] := by
  simp only [parseBucket?, Option.bind_eq_bind, Option.bind_eq_some_iff] at h
  obtain ⟨_, _, ⟨_, c⟩, _, _, _, h⟩ := h
  split at h
  · cases h
  · next hc =>
    cases h
    simpa using hc

theorem parse_encode_bucket (g : BucketGranularity) {column : String} (h : column ≠ "") :
    parse (encode (.bucket g column)) = .bucket g column := by
  have hne : column.toList ≠ [] := fun hc => h (String.toList_eq_nil_iff.1 hc)
  have hp := parseBucket?_append g hne
  rw [parse, encode, String.toList_ofList, List.append_assoc, List.append_assoc, hp]
  exact congrArg (Dimension.bucket g) String.ofList_toList

/-- a text is a bucket exactly when it is written as one, over a column that is not empty -/
theorem parse_eq_bucket_iff {s : String} {g : BucketGranularity} {column : String} :
    parse s = .bucket g column ↔ column ≠ "" ∧ s = encode (.bucket g column) := by
  constructor
  · intro h
    refine ⟨?_, by rw [← h, encode_parse]⟩
    rintro rfl
    unfold parse at h
    split at h
    · next g' cs hp =>
      injection h with _ hcs
      exact ne_nil_of_parseBucket? hp (by simpa using hcs)
    · exact nomatch h
  · rintro ⟨hne, rfl⟩
    exact parse_encode_bucket g hne

example : parse "__time_week__:__time_hour__:at" = .bucket .week "__time_hour__:at" := by
  decide +kernel

/-! ## the text of a bucket -/

def sentinel (g : BucketGranularity) (column : String) : String :=
  "__time_" ++ g.name ++ "__:" ++ column

theorem encode_bucket (g : BucketGranularity) (column : String) :
    encode (.bucket g column) = sentinel g column := by
  have hbucket : String.ofList bucketMark = "__time_" := by decide +kernel
  have hcolumn : String.ofList columnMark = "__:" := by decide +kernel
  rw [encode, String.ofList_append, String.ofList_append, String.ofList_append, hbucket, hcolumn,
    String.ofList_toList, String.ofList_toList, sentinel]

/-- a text is put together from one granularity and one column at most, empty or not -/
theorem sentinel_inj {g g' : BucketGranularity} {column column' : String} :
    sentinel g column = sentinel g' column' ↔ g = g' ∧ column = column' := by
  constructor
  · intro h
    rw [← encode_bucket, ← encode_bucket, encode, encode, String.ofList_inj] at h
    simp only [List.append_assoc, List.append_cancel_left_eq] at h
    have hsplit := splitAt?_granularity g column.toList
    rw [h, splitAt?_granularity] at hsplit
    obtain ⟨hname, hcolumn⟩ := Prod.mk.inj (Option.some.inj hsplit)
    exact ⟨name_inj.1 hname.symm, String.toList_inj.1 hcolumn.symm⟩
  · rintro ⟨rfl, rfl⟩
    rfl

def IsSentinel (s : String) : Prop := ∃ g column, column ≠ "" ∧ s = sentinel g column

/-- a text that is no bucket is the name of a plain column, and of none but itself -/
theorem parse_eq_plain_iff {s : String} : parse s = .plain s ↔ ¬ IsSentinel s := by
  constructor
  · rintro hp ⟨g, column, hs⟩
    rw [← encode_bucket, ← parse_eq_bucket_iff, hp] at hs
    exact nomatch hs
  · intro hs
    cases hp : parse s with
    | bucket g column =>
      rw [parse_eq_bucket_iff, encode_bucket] at hp
      exact absurd ⟨g, column, hp⟩ hs
    | plain t =>
      have ht := encode_parse s
      rw [hp] at ht
      exact congrArg Dimension.plain ht

/-! ## dimensions that are read back -/

/-- a bucket has a column, and a plain column is not named like a bucket -/
def ReadsBack : Dimension → Prop
  | .plain name => ¬ IsSentinel name
  | .bucket _ column => column ≠ ""

theorem parse_encode_eq_self_iff {d : Dimension} : parse (encode d) = d ↔ d.ReadsBack := by
  cases d with
  | plain name => exact parse_eq_plain_iff
  | bucket g column =>
    rw [parse_eq_bucket_iff]
    exact and_iff_left rfl

/-- **Texts and dimensions.**  A text is read as the bucket it is put together from, of which there
is one at most, or else as the plain column of that name; no text is lost by reading it; and just the
dimensions that read back are not lost by writing them. -/
theorem exact_parse_encode (s : String) (d : Dimension) :
    (∀ g column, parse s = .bucket g column ↔ column ≠ "" ∧ s = sentinel g column) ∧
    (∀ g column g' column', sentinel g column = sentinel g' column' ↔ g = g' ∧ column = column') ∧
    (parse s = .plain s ↔ ¬ IsSentinel s) ∧
    encode (parse s) = s ∧
    (parse (encode d) = d ↔ d.ReadsBack) := by
  refine ⟨?_, ?_, parse_eq_plain_iff, encode_parse s, parse_encode_eq_self_iff⟩
  · intro g column
    rw [parse_eq_bucket_iff, encode_bucket]
  · intro g column g' column'
    exact sentinel_inj

end Dimension

end WidgetBoard
