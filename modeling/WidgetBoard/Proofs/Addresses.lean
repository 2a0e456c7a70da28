import Mathlib.Data.List.Basic
import WidgetBoard.Store.Remote

/-!
# Addresses of requests

A request to another service goes to the base address with a slash and a percent-encoded part for
each segment behind it.  The parts can be told apart again, whatever the ids are.  But a client
resolves the dots of a path before it sends a request, and dots are not encoded.

* `Text.Percent.decode?_encode`   an encoded text is decoded to itself;
* `Http.Path.split_join`          the parts of a path, none with a slash in it;
* `DotSegments.climb`             one part of a path further, from the parts so far: `.` is the same
                                  place, `..` the place above, and each dot may be written `%2e`;
* `DotSegments.resolved`          a path with its dots resolved, one part after the other: where
                                  they come last, an empty part is left;
* `Remote.Addresses`              what is to be known of the address of a request.

Main statement: `Remote.addresses_url` (a path is resolved to something else exactly when one of the
segments is `.` or `..`).
-/

namespace WidgetBoard

/-! ## encoded texts -/

namespace Text.Percent

theorem toNat_hexDigit_lt {n : Nat} (h : n < 16) :
    (hexDigit n).toNat < 128 ∧ (hexDigit n).toNat ≠ 47 := by
  have hall : ∀ n : Fin 16, (hexDigit n.val).toNat < 128 ∧ (hexDigit n.val).toNat ≠ 47 := by decide
  exact hall ⟨n, h⟩

/-- what is written is ASCII, and no slash -/
theorem of_mem_encodeByte {b c : UInt8} (h : c ∈ encodeByte b) : c.toNat < 128 ∧ c.toNat ≠ 47 := by
  unfold encodeByte at h
  split at h
  · next hb =>
    obtain rfl := List.mem_singleton.1 h
    simp only [isUnreserved, Bool.or_eq_true, Bool.and_eq_true, decide_eq_true_eq,
      beq_iff_eq] at hb
    omega
  · have hb := b.toNat_lt
    rcases List.mem_cons.1 h with rfl | h
    · decide
    · rcases List.mem_cons.1 h with rfl | h
      · exact toNat_hexDigit_lt (by omega)
      · exact List.mem_singleton.1 h ▸ toNat_hexDigit_lt (by omega)

theorem of_mem_encodeBytes {bs : List UInt8} {c : UInt8} (h : c ∈ encodeBytes bs) :
    c.toNat < 128 ∧ c.toNat ≠ 47 := by
  obtain ⟨b, _, hc⟩ := List.mem_flatMap.1 h
  exact of_mem_encodeByte hc

theorem toNat_ofNat_of_lt {n : Nat} (h : n < 128) : (Char.ofNat n).toNat = n := by
  have hall : ∀ n : Fin 128, (Char.ofNat n.val).toNat = n.val := by decide
  exact hall ⟨n, h⟩

theorem utf8EncodeChar_ofNat {b : UInt8} (h : b.toNat < 128) :
    String.utf8EncodeChar (Char.ofNat b.toNat) = [b] := by
  have hval : (Char.ofNat b.toNat).val.toNat = b.toNat := toNat_ofNat_of_lt h
  rw [String.utf8EncodeChar, hval, if_pos (by omega), UInt8.ofNat_toNat]

/-- the bytes of a text of ASCII characters are those characters -/
theorem bytes_ofList {bs : List UInt8} (h : ∀ b ∈ bs, b.toNat < 128) :
    bytes (String.ofList (bs.map fun b => Char.ofNat b.toNat)) = bs := by
  have hflat : (bs.map fun b => Char.ofNat b.toNat).flatMap String.utf8EncodeChar = bs := by
    induction bs with
    | nil => rfl
    | cons b bs ih =>
      rw [List.map_cons, List.flatMap_cons, utf8EncodeChar_ofNat (h b List.mem_cons_self),
        ih fun c hc => h c (List.mem_cons_of_mem _ hc)]
      rfl
  rw [bytes, String.toUTF8, String.toByteArray_ofList, List.utf8Encode, hflat,
    List.data_toByteArray]

theorem bytes_encode (s : String) : bytes (encode s) = encodeBytes (bytes s) :=
  bytes_ofList fun _ h => (of_mem_encodeBytes h).1

theorem decode?_encode (s : String) : decode? (encode s) = some s := by
  have hbytes : (⟨(bytes s).toArray⟩ : ByteArray) = s.toByteArray := by
    rw [bytes, Array.toArray_toList, String.toUTF8_eq_toByteArray]
  rw [decode?, bytes_encode, decodeBytes_encodeBytes, hbytes, String.fromUTF8?,
    dif_pos s.isValidUTF8]
  rfl

theorem mapM_decode?_encode (ss : List String) : (ss.map encode).mapM decode? = some ss := by
  induction ss with
  | nil => rfl
  | cons s ss ih =>
    rw [List.map_cons, List.mapM_cons, decode?_encode, ih]
    rfl

theorem slash_notMem_encode (s : String) : '/' ∉ (encode s).toList := by
  rw [encode, String.toList_ofList]
  intro h
  obtain ⟨b, hb, hslash⟩ := List.mem_map.1 h
  obtain ⟨hlt, hne⟩ := of_mem_encodeBytes hb
  exact hne ((toNat_ofNat_of_lt hlt).symm.trans (congrArg Char.toNat hslash))

end Text.Percent

/-! ## parts of a path -/

namespace Http.Path

/-- a slash and a part, for each of the parts -/
def join (parts : List String) : String :=
  String.join (parts.map ("/" ++ ·))

theorem write_eq_join (segments : List String) :
    write segments = join (segments.map Text.Percent.encode) := by
  rw [write, join, List.map_map]
  rfl

theorem join_append (ps qs : List String) : join (ps ++ qs) = join ps ++ join qs := by
  rw [join, List.map_append, String.join_append]
  rfl

theorem toList_join_cons (p : String) (ps : List String) :
    (join (p :: ps)).toList = '/' :: (p.toList ++ (join ps).toList) := by
  simp [join]

theorem split_append {cs ds : List Char} {rest : List (List Char)} (hcs : '/' ∉ cs)
    (hds : split ds = [] :: rest) : split (cs ++ ds) = cs :: rest := by
  induction cs with
  | nil => exact hds
  | cons c cs ih =>
    obtain ⟨hc, hcs⟩ := not_or.1 (mt List.mem_cons.2 hcs)
    rw [List.cons_append, split, if_neg (Ne.symm hc), ih hcs]

/-- in front of the first slash stands nothing -/
theorem split_join {ps : List String} (h : ∀ p ∈ ps, '/' ∉ p.toList) :
    split (join ps).toList = [] :: ps.map String.toList := by
  induction ps with
  | nil => rfl
  | cons p ps ih =>
    have hrest := ih fun q hq => h q (List.mem_cons_of_mem _ hq)
    rw [toList_join_cons, split, if_pos rfl, split_append (h p List.mem_cons_self) hrest]
    rfl

theorem segments?_join {ps : List String} (h : ∀ p ∈ ps, '/' ∉ p.toList) (hne : ps ≠ []) :
    segments? (join ps) = some ps := by
  obtain ⟨p, qs, rfl⟩ := List.exists_cons_of_ne_nil hne
  have hsplit : [] :: split (p.toList ++ (join qs).toList) = [] :: (p :: qs).map String.toList := by
    rw [← split_join h, toList_join_cons, split, if_pos rfl]
  have hparts : ((p :: qs).map String.toList).map String.ofList = p :: qs := by
    simp
  rw [segments?, toList_join_cons]
  exact congrArg some ((congrArg (List.map String.ofList) (List.cons.inj hsplit).2).trans hparts)

end Http.Path

/-! ## dots -/

namespace DotSegments

/-- a dot, as it may be written -/
def dot : List String := [".", "%2e", "%2E"]

def dots : List String := dot.flatMap fun p => dot.map (p ++ ·)

/-- from the parts so far, the last one first, to the place that the next part names -/
def climb (kept : List String) (p : String) : List String :=
  if p ∈ dots then kept.tail else if p ∈ dot then kept else p :: kept

/-- the same; the last part of a path leaves an empty one where it names a place by dots -/
def next (kept : List String) (p : String) (last : Bool) : List String :=
  if last ∧ p ∈ dot ++ dots then "" :: climb kept p else climb kept p

/-- the parts behind those in `kept`, the last one first, with their dots resolved -/
def resolve (kept : List String) : List String → List String
  | [] => kept.reverse
  | p :: ps => resolve (next kept p ps.isEmpty) ps

/-- a path with its dots resolved -/
def resolved (path : String) : String :=
  match Http.Path.segments? path with
  | some ps => Http.Path.join (resolve [] ps)
  | none => path

example : resolved "/a/b/c/./../../g" = "/a/g" ∧ resolved "/a/%2E." = "/" := by decide +kernel

section

variable {kept ps qs : List String} {p : String}

/-- parts with more behind them are climbed one by one -/
theorem resolve_append (ps : List String) (h : qs ≠ []) :
    resolve kept (ps ++ qs) = resolve (ps.foldl climb kept) qs := by
  induction ps generalizing kept with
  | nil => rfl
  | cons p ps ih =>
    have hmore : (ps ++ qs).isEmpty = false := by simp [h]
    rw [List.cons_append, resolve, hmore]
    exact ih

theorem next_of_not_mem (h : p ∉ dot ++ dots) (last : Bool) : next kept p last = p :: kept := by
  obtain ⟨hdot, hdots⟩ := not_or.1 (mt List.mem_append.2 h)
  rw [next, if_neg fun hlast => h hlast.2, climb, if_neg hdots, if_neg hdot]

theorem resolve_of_forall_not_mem (h : ∀ p ∈ ps, p ∉ dot ++ dots) :
    resolve kept ps = kept.reverse ++ ps := by
  induction ps generalizing kept with
  | nil => exact (List.append_nil _).symm
  | cons p ps ih =>
    rw [resolve, next_of_not_mem (h p List.mem_cons_self),
      ih fun q hq => h q (List.mem_cons_of_mem _ hq), List.reverse_cons, List.append_assoc]
    rfl

/-! ### a path with dots gets shorter -/

/-- the length of the path with these parts -/
def size (ps : List String) : Nat :=
  (Http.Path.join ps).length

theorem size_append (ps qs : List String) : size (ps ++ qs) = size ps + size qs := by
  rw [size, Http.Path.join_append, String.length_append]
  rfl

theorem size_cons (p : String) (ps : List String) : size (p :: ps) = p.length + 1 + size ps := by
  have hjoin : Http.Path.join [p] = "/" ++ p := by
    simp [Http.Path.join]
  rw [← List.singleton_append, size_append, size, hjoin, String.length_append, Nat.add_comm p.length]
  rfl

theorem size_reverse (ps : List String) : size ps.reverse = size ps := by
  induction ps with
  | nil => rfl
  | cons p ps ih =>
    rw [List.reverse_cons, size_append, ih, Nat.add_comm, ← size_append]
    rfl

theorem size_tail_le (ps : List String) : size ps.tail ≤ size ps := by
  cases ps with
  | nil => exact Nat.le_refl _
  | cons p ps =>
    rw [size_cons]
    exact Nat.le_add_left _ _

theorem size_climb_le (kept : List String) (h : p ∈ dot ++ dots) :
    size (climb kept p) ≤ size kept := by
  rw [climb]
  split
  · exact size_tail_le kept
  · next hdots =>
    have hdot : p ∈ dot := (List.mem_append.1 h).resolve_right hdots
    exact Nat.le_of_eq (congrArg size (if_pos hdot))

/-- an empty part is less than any dots -/
theorem size_next_lt (kept : List String) (h : p ∈ dot ++ dots) (last : Bool) :
    size (next kept p last) < size kept + (p.length + 1) := by
  have hlength : ∀ q ∈ dot ++ dots, 0 < q.length := by decide +kernel
  have hp : 0 < p.length := hlength p h
  have hempty : "".length = 0 := rfl
  have hclimb := size_climb_le kept h
  rw [next]
  split
  · rw [size_cons]
    omega
  · omega

theorem size_next_le (kept : List String) (p : String) (last : Bool) :
    size (next kept p last) ≤ size kept + (p.length + 1) := by
  by_cases h : p ∈ dot ++ dots
  · exact Nat.le_of_lt (size_next_lt kept h last)
  · rw [next_of_not_mem h, size_cons]
    exact Nat.le_of_eq (Nat.add_comm ..)

theorem size_resolve_le (kept ps : List String) : size (resolve kept ps) ≤ size kept + size ps := by
  induction ps generalizing kept with
  | nil => exact Nat.le_of_eq (size_reverse kept)
  | cons p ps ih =>
    have hrest := ih (next kept p ps.isEmpty)
    have hnext := size_next_le kept p ps.isEmpty
    rw [resolve, size_cons]
    omega

theorem size_resolve_lt (kept : List String) (hp : p ∈ ps) (h : p ∈ dot ++ dots) :
    size (resolve kept ps) < size kept + size ps := by
  induction ps generalizing kept with
  | nil => exact nomatch hp
  | cons q ps ih =>
    rw [resolve, size_cons]
    rcases List.mem_cons.1 hp with rfl | hp
    · have hrest := size_resolve_le (next kept p ps.isEmpty) ps
      have hnext := size_next_lt kept h ps.isEmpty
      omega
    · have hrest := ih (next kept q ps.isEmpty) hp
      have hnext := size_next_le kept q ps.isEmpty
      omega

end

/-! ### encoded parts -/

section

open Text.Percent Http.Path

variable {segments : List String} {s : String}

/-- no other text is encoded to a dot, since a dot is not escaped -/
theorem encode_mem_iff : encode s ∈ dot ++ dots ↔ s = "." ∨ s = ".." := by
  have hread : ∀ p ∈ dot ++ dots, decode? p = some "." ∨ decode? p = some ".." := by
    decide +kernel
  have hwritten : encode "." ∈ dot ++ dots ∧ encode ".." ∈ dot ++ dots := by decide +kernel
  constructor
  · intro h
    have hs := hread (encode s) h
    rwa [decode?_encode, Option.some.injEq, Option.some.injEq] at hs
  · rintro (rfl | rfl)
    · exact hwritten.1
    · exact hwritten.2

theorem forall_encode_not_mem_iff : (∀ p ∈ segments.map encode, p ∉ dot ++ dots) ↔
    ∀ s ∈ segments, s ≠ "." ∧ s ≠ ".." := by
  rw [List.forall_mem_map]
  exact forall₂_congr fun s _ => (not_congr encode_mem_iff).trans not_or

/-- behind a path of any parts, the encoded ones are left as they are unless there are dots -/
theorem resolved_join_iff {front : List String} (hfront : ∀ p ∈ front, '/' ∉ p.toList)
    (hne : segments ≠ []) :
    resolved (join front ++ join (segments.map encode))
        = join (front.foldl climb []).reverse ++ join (segments.map encode)
      ↔ ∀ s ∈ segments, s ≠ "." ∧ s ≠ ".." := by
  have hparts : segments.map encode ≠ [] := by simpa using hne
  have hslash : ∀ p ∈ front ++ segments.map encode, '/' ∉ p.toList := by
    refine List.forall_mem_append.2 ⟨hfront, List.forall_mem_map.2 fun s _ => ?_⟩
    exact slash_notMem_encode s
  have hresolved : resolved (join front ++ join (segments.map encode))
      = join (resolve (front.foldl climb []) (segments.map encode)) := by
    have happend : front ++ segments.map encode ≠ [] := List.append_ne_nil_of_right_ne_nil _ hparts
    rw [← join_append, resolved, segments?_join hslash happend]
    exact congrArg join (resolve_append front hparts)
  rw [hresolved, ← join_append, ← forall_encode_not_mem_iff]
  constructor
  · intro h p hp hdot
    have hlt := size_resolve_lt (front.foldl climb []) hp hdot
    have hlength : size (resolve (front.foldl climb []) (segments.map encode))
        = size (front.foldl climb []) + size (segments.map encode) := by
      rw [← size_reverse (front.foldl climb []), ← size_append]
      exact congrArg String.length h
    omega
  · intro h
    rw [resolve_of_forall_not_mem h]

end

end DotSegments

/-! ## addresses -/

namespace Remote

open Text.Percent Http.Path DotSegments

/-- all that is cut off are slashes, and none is left -/
theorem exists_slashes (base : String) :
    ∃ n, base = withoutSlashes base ++ String.ofList (List.replicate n '/') ∧
      (withoutSlashes base).toList.getLast? ≠ some '/' := by
  let p (c : Char) : Bool := c == '/'
  let cs := base.toList.reverse
  have hslashes : cs.takeWhile p = List.replicate (cs.takeWhile p).length '/' := by
    refine List.eq_replicate_iff.2 ⟨rfl, fun c hc => ?_⟩
    exact beq_iff_eq.1 (List.all_eq_true.1 List.all_takeWhile c hc)
  have hchars : base.toList = (cs.dropWhile p).reverse ++ (cs.takeWhile p).reverse := by
    rw [← List.reverse_append, List.takeWhile_append_dropWhile, List.reverse_reverse]
  refine ⟨(cs.takeWhile p).length, ?_, ?_⟩
  · rw [← List.reverse_replicate, ← hslashes, withoutSlashes, ← String.ofList_append, ← hchars,
      String.ofList_toList]
  · rw [withoutSlashes, String.toList_ofList, List.getLast?_reverse]
    intro hlast
    have hhead := List.head?_dropWhile_not p cs
    rw [hlast] at hhead
    exact Bool.noConfusion hhead

/-- what is to be known of an address that is made of `root` and `path`: `kept` says when the path
is resolved to itself, and `behind` the same of the path behind the parts of another one -/
structure Addresses (base : String) (segments : List String) (root path : String) : Prop where
  cut : ∃ n, base = root ++ String.ofList (List.replicate n '/')
  uncut : root.toList.getLast? ≠ some '/'
  written : path = join (segments.map encode)
  read : ∃ parts, (split path.toList).map String.ofList = "" :: parts ∧
    parts.mapM decode? = some segments
  kept : resolved path = path ↔ ∀ s ∈ segments, s ≠ "." ∧ s ≠ ".."
  behind : segments ≠ [] → ∀ front, (∀ p ∈ front, '/' ∉ p.toList) →
    (resolved (join front ++ path) = join (front.foldl climb []).reverse ++ path
      ↔ ∀ s ∈ segments, s ≠ "." ∧ s ≠ "..")

/-- **The address of a request names its segments**, whatever they are; but where one of them is a
dot or two, and only there, the address is resolved to another one. -/
theorem addresses_url (base : String) (segments : List String) :
    ∃ root path, url base segments = root ++ path ∧ Addresses base segments root path := by
  obtain ⟨n, hbase, hroot⟩ := exists_slashes base
  refine ⟨withoutSlashes base, join (segments.map encode), ?_, ⟨n, hbase⟩, hroot, rfl, ?_, ?_, ?_⟩
  · rw [url, write_eq_join]
  · have hslash : ∀ p ∈ segments.map encode, '/' ∉ p.toList :=
      List.forall_mem_map.2 fun s _ => slash_notMem_encode s
    refine ⟨segments.map encode, ?_, mapM_decode?_encode segments⟩
    rw [split_join hslash]
    simp
  · cases segments with
    | nil =>
      have hempty : resolved "" = "" := by decide +kernel
      exact iff_of_true hempty fun s hs => nomatch hs
    | cons s ss =>
      have hfront : ∀ p ∈ ([] : List String), '/' ∉ p.toList := fun p hp => nomatch hp
      have hiff := resolved_join_iff hfront (List.cons_ne_nil s ss)
      rwa [show join [] = "" from rfl, String.empty_append] at hiff
  · exact fun hne front hfront => resolved_join_iff hfront hne

/-- a request to delete a widget is sent to the widgets of the dashboard -/
theorem not_resolved_deleteWidget :
    let settings : ApiSettings := { baseUrl := "http://api.local/v1/" }
    (request settings (.deleteWidget "sales" "..")).url
      = "http://api.local/v1/dashboards/sales/widgets/.." ∧
    resolved "/dashboards/sales/widgets/.." = "/dashboards/sales/" ∧
    resolved "/v1/dashboards/sales/widgets/.." = "/v1/dashboards/sales/" := by
  decide +kernel

end Remote

end WidgetBoard
