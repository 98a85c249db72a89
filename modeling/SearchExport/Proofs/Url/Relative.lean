import SearchExport.Url.Parser

/-!
# Relative addresses of plain segments

A text of segments, none of which has a meaning of its own in an address, read relative to a base: the
segments are appended to the path of the base, in place of its last one.

* `Url.isPlainSegment` — the segments without a meaning of their own.
* `Url.splitSlashes_intercalate`, `Url.walk_of_plain` — they are found again, and appended as they are.
* `Url.join_of_plain` — the path of the joined address.
* `percentEncode_ne_nil` — encoding leaves something.
-/

set_option autoImplicit false

namespace SearchExport

/-- What holds of all items of some lists and of those between them holds of all items of the joined list. -/
theorem forall_mem_intercalate {α : Type} {P : α → Prop} {separator : List α} {xss : List (List α)}
    (hseparator : ∀ x ∈ separator, P x) (h : ∀ xs ∈ xss, ∀ x ∈ xs, P x) :
    ∀ x ∈ List.intercalate separator xss, P x := by
  induction xss with
  | nil => simp
  | cons xs xss ih =>
    obtain ⟨hxs, hxss⟩ := List.forall_mem_cons.1 h
    cases xss with
    | nil => rwa [List.intercalate_singleton]
    | cons ys xss =>
      rw [List.intercalate_cons_cons]
      simp only [List.forall_mem_append]
      exact ⟨⟨hxs, hseparator⟩, ih hxss⟩

/-! ## Encoded texts -/

theorem percentEncodeChar_ne_nil (c : Char) : percentEncodeChar c ≠ [] := by
  -- the loop drops nothing of what it has gathered
  have hloop : ∀ (bs : ByteArray) (i : Nat) (r : List UInt8), r ≠ [] →
      ByteArray.toList.loop bs i r ≠ [] := by
    intro bs i r h
    fun_induction ByteArray.toList.loop bs i r with
    | case1 i r _ ih => exact ih (by simp)
    | case2 i r _ => simpa using h
  have hsize : 0 < (String.singleton c).toUTF8.size := by
    show 0 < (String.singleton c).utf8ByteSize
    simp [c.utf8Size_pos]
  have hbytes : (String.singleton c).toUTF8.toList ≠ [] := by
    rw [ByteArray.toList, ByteArray.toList.loop, if_pos hsize]
    exact hloop _ _ _ (by simp)
  obtain ⟨b, bs, hcons⟩ := List.exists_cons_of_ne_nil hbytes
  rw [percentEncodeChar, hcons]
  simp

theorem percentEncode_ne_nil (special : List Char) {cs : List Char} (h : cs ≠ []) :
    percentEncode special cs ≠ [] := by
  obtain ⟨c, cs, rfl⟩ := List.exists_cons_of_ne_nil h
  rw [percentEncode, List.flatMap_cons]
  refine List.append_ne_nil_of_left_ne_nil ?_ _
  split
  · exact percentEncodeChar_ne_nil c
  · exact List.cons_ne_nil _ _

namespace Url

/-! ## Plain segments -/

/-- Whether a character is no margin, and marks neither a scheme, a query nor a fragment.  A backslash may
stand for a slash. -/
def isPathChar (c : Char) : Bool := 0x20 < c.toNat && c ≠ '\\' && c ≠ '?' && c ≠ '#' && c ≠ ':'

/-- Whether a segment has no meaning of its own in an address: it is not empty, has only such characters and
no slash, and does not stand for a place. -/
def isPlainSegment (cs : List Char) : Bool :=
  !cs.isEmpty && cs.all (fun c => isPathChar c && c ≠ '/') && !isDot cs && !isDoubleDot cs

theorem isPlainSegment_iff {cs : List Char} :
    isPlainSegment cs = true ↔
      cs ≠ [] ∧ (∀ c ∈ cs, isPathChar c = true ∧ c ≠ '/') ∧ isDot cs = false ∧ isDoubleDot cs = false := by
  simp [isPlainSegment, and_assoc]

theorem isPathChar_iff {c : Char} :
    isPathChar c = true ↔ 0x20 < c.toNat ∧ c ≠ '\\' ∧ c ≠ '?' ∧ c ≠ '#' ∧ c ≠ ':' := by
  simp [isPathChar, and_assoc]

theorem isSlash_of_isPathChar {c : Char} (h : isPathChar c = true) (hslash : c ≠ '/') (special : Bool) :
    isSlash special c = false := by
  obtain ⟨_, hback, _⟩ := isPathChar_iff.1 h
  simp [isSlash, hslash, hback]

/-! ## Reading -/

theorem clean_of_pathChars {s : String} (h : ∀ c ∈ s.toList, isPathChar c = true) :
    clean s = s.toList := by
  have hdrop : ∀ cs : List Char, (∀ c ∈ cs, isPathChar c = true) → cs.dropWhile isMargin = cs := by
    intro cs hcs
    cases cs with
    | nil => rfl
    | cons c cs =>
      obtain ⟨hmargin, _⟩ := isPathChar_iff.1 (hcs c List.mem_cons_self)
      exact List.dropWhile_cons_of_neg (by simp [isMargin]; omega)
  have hkept : ∀ c ∈ s.toList, (!(c = '\t' || c = '\n' || c = '\r')) = true := by
    intro c hc
    obtain ⟨hmargin, _⟩ := isPathChar_iff.1 (h c hc)
    have hne : ∀ d : Char, d.toNat ≤ 0x20 → c ≠ d := fun d hd hcd => by rw [hcd] at hmargin; omega
    simp [hne '\t' (by decide), hne '\n' (by decide), hne '\r' (by decide)]
  unfold clean
  rw [hdrop _ h, hdrop _ (by simpa using h), List.reverse_reverse]
  exact List.filter_eq_self.2 hkept

theorem scheme?_of_no_colon {cs : List Char} (h : ':' ∉ cs) : scheme? cs = none := by
  unfold scheme?
  split
  · split
    · dsimp only
      split
      · rename_i hdrop
        exact absurd (List.mem_of_mem_drop (hdrop ▸ List.mem_cons_self)) h
      · rfl
    · rfl
  · rfl

theorem cutPath_of_no_tail {cs : List Char} (hquery : '?' ∉ cs) (hfragment : '#' ∉ cs) :
    cutPath cs = (cs, []) := by
  have hall : ∀ c ∈ cs, (decide (c ≠ '?') && decide (c ≠ '#')) = true := by
    intro c hc
    simp [ne_of_mem_of_not_mem hc hquery, ne_of_mem_of_not_mem hc hfragment]
  have htake : (cs ++ []).takeWhile (fun c => decide (c ≠ '?') && decide (c ≠ '#')) = cs ++ [] :=
    List.takeWhile_append_of_pos hall
  rw [List.append_nil] at htake
  rw [cutPath, htake, List.drop_length]

/-- What is in front of the first slash belongs to the first piece. -/
theorem splitSlashes_append (special : Bool) {s : List Char} (h : ∀ c ∈ s, isSlash special c = false)
    {cs p : List Char} {ps : List (List Char)} (hcs : splitSlashes special cs = p :: ps) :
    splitSlashes special (s ++ cs) = (s ++ p) :: ps := by
  induction s with
  | nil => exact hcs
  | cons c s ih =>
    obtain ⟨hc, hs⟩ := List.forall_mem_cons.1 h
    simp [splitSlashes, hc, ih hs]

/-- The pieces of segments with slashes between them are the segments. -/
theorem splitSlashes_intercalate (special : Bool) {segments : List (List Char)} (hne : segments ≠ [])
    (h : ∀ s ∈ segments, ∀ c ∈ s, isSlash special c = false) :
    splitSlashes special (List.intercalate ['/'] segments) = segments := by
  induction segments with
  | nil => exact absurd rfl hne
  | cons s segments ih =>
    obtain ⟨hs, hsegments⟩ := List.forall_mem_cons.1 h
    cases segments with
    | nil =>
      have hnone : splitSlashes special [] = [[]] := rfl
      rw [List.intercalate_singleton]
      simpa using splitSlashes_append special hs hnone
    | cons t segments =>
      have hslash : isSlash special '/' = true := rfl
      have hrest : splitSlashes special ('/' :: List.intercalate ['/'] (t :: segments)) =
          [] :: t :: segments := by
        rw [splitSlashes, if_pos hslash, ih (List.cons_ne_nil _ _) hsegments]
      rw [List.intercalate_cons_cons, List.append_assoc, List.singleton_append,
        splitSlashes_append special hs hrest, List.append_nil]

/-- Segments that stand for no place are appended, encoded. -/
theorem walk_of_plain (path : List (List Char)) {segments : List (List Char)}
    (h : ∀ s ∈ segments, isDot s = false ∧ isDoubleDot s = false) :
    walk path segments = path ++ segments.map (percentEncode pathSet) := by
  induction segments generalizing path with
  | nil => simp [walk]
  | cons s segments ih =>
    obtain ⟨⟨hdot, hdouble⟩, hsegments⟩ := List.forall_mem_cons.1 h
    cases segments with
    | nil => simp [walk, hdot, hdouble]
    | cons t segments =>
      rw [walk]
      simp only [hdot, hdouble, Bool.false_eq_true, if_false]
      rw [ih _ hsegments, List.append_assoc]
      rfl

/-- A text that starts with a path, relative to a base with segments. -/
theorem relativeTo_of_head (base : Url) (parts : List (List Char)) {c : Char} (cs : List Char)
    (hslash : isSlash (isSpecial base.scheme) c = false) (hquery : c ≠ '?') (hfragment : c ≠ '#') :
    relativeTo base parts (c :: cs) = .ok (base.withPathFrom parts.dropLast (c :: cs)) := by
  have hslashes : (c :: cs).takeWhile (isSlash (isSpecial base.scheme)) = [] :=
    List.takeWhile_cons_of_neg (by simp [hslash])
  have hfew : ¬ 2 ≤ ([] : List Char).length := by decide
  -- by `hquery` and `hfragment` only the last case of the match is left
  simp only [relativeTo, hslashes, if_neg hfew, hslash, Bool.false_eq_true, if_false]

theorem exists_head_of_plain {segments : List (List Char)} (hne : segments ≠ [])
    (h : ∀ s ∈ segments, s ≠ [] ∧ ∀ c ∈ s, isPathChar c = true ∧ c ≠ '/') :
    ∃ c cs, List.intercalate ['/'] segments = c :: cs ∧ c ≠ '/' := by
  obtain ⟨s, segments, rfl⟩ := List.exists_cons_of_ne_nil hne
  obtain ⟨hs, hplain⟩ := h s List.mem_cons_self
  obtain ⟨c, s, rfl⟩ := List.exists_cons_of_ne_nil hs
  have hslash := (hplain c List.mem_cons_self).2
  cases segments with
  | nil => exact ⟨c, s, List.intercalate_singleton, hslash⟩
  | cons t segments =>
    rw [List.intercalate_cons_cons]
    exact ⟨c, _, rfl, hslash⟩

/-- **The path of a joined address**: plain segments take the place of the last segment of the base. -/
theorem join_of_plain {base : Url} {segments : List (List Char)} (hne : segments ≠ [])
    (h : ∀ s ∈ segments, isPlainSegment s = true) {u : Url}
    (hjoin : base.join (String.ofList (List.intercalate ['/'] segments)) = .ok u) :
    ∃ parts, base.path = .segments parts ∧
      u.path = .segments (parts.dropLast ++ segments.map (percentEncode pathSet)) := by
  have hplain : ∀ s ∈ segments, s ≠ [] ∧ (∀ c ∈ s, isPathChar c = true ∧ c ≠ '/') ∧
      isDot s = false ∧ isDoubleDot s = false := fun s hs => isPlainSegment_iff.1 (h s hs)
  obtain ⟨c, cs, hcs, hslash⟩ := exists_head_of_plain hne fun s hs => ⟨(hplain s hs).1, (hplain s hs).2.1⟩
  have hchars : ∀ d ∈ c :: cs, isPathChar d = true := by
    rw [← hcs]
    have hslash' : ∀ d ∈ ['/'], isPathChar d = true := List.forall_mem_singleton.2 (by decide)
    exact forall_mem_intercalate hslash' fun s hs d hd => ((hplain s hs).2.1 d hd).1
  have hcolon : ':' ∉ c :: cs := fun hmem => absurd (hchars ':' hmem) (by decide)
  have hpieces : splitSlashes (isSpecial base.scheme) (c :: cs) = segments := by
    rw [← hcs]
    exact splitSlashes_intercalate _ hne fun s hs d hd =>
      isSlash_of_isPathChar ((hplain s hs).2.1 d hd).1 ((hplain s hs).2.1 d hd).2 _
  obtain ⟨_, _, hquery, hfragment, _⟩ := isPathChar_iff.1 (hchars c List.mem_cons_self)
  rw [join, read, clean_of_pathChars (by simpa [hcs] using hchars), String.toList_ofList, hcs,
    scheme?_of_no_colon hcolon] at hjoin
  dsimp only at hjoin
  split at hjoin
  · rename_i parts hparts
    rw [relativeTo_of_head base parts cs (isSlash_of_isPathChar (hchars c List.mem_cons_self) hslash _) hquery
      hfragment] at hjoin
    cases hjoin
    refine ⟨parts, hparts, ?_⟩
    have hwalk := walk_of_plain parts.dropLast fun s hs => (hplain s hs).2.2
    have hnot : ∀ d, isPathChar d = false → d ∉ c :: cs := fun d hd hmem => by
      rw [hchars d hmem] at hd
      cases hd
    rw [withPathFrom, cutPath_of_no_tail (hnot '?' (by decide)) (hnot '#' (by decide))]
    simp only [hpieces, hwalk]
  · -- a base without segments can only be given a fragment
    simp [hfragment] at hjoin

end Url

end SearchExport
