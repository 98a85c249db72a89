import SearchExport.Proofs.Url.Relative

/-!
# Addresses below a base

Where a text leads that is read relative to a base of the web.  A foreign scheme or two slashes in front lead to
an address that has nothing of the base; any other text keeps scheme, host and port.  The path starts with the
one of the base when the text goes down from there and never above it.

* `Url.relativeText?` — what of a text is read relative to a base.
* `Url.exists_join_of_relativeText`, `Url.join_eq_of_no_relativeText` — the two cases.
* `Url.StaysBelow`, `Url.exists_join_of_staysBelow` — when the path starts with the one of the base.
* `Url.exists_directory_of_parse` — the path of an address that is written with a slash at its end.
-/

set_option autoImplicit false

namespace SearchExport

/-- A sequence of two steps succeeds only when both of them do. -/
theorem ok_of_bind {ε α β : Type} {x : Except ε α} {f : α → Except ε β} {b : β} (h : (x >>= f) = .ok b) :
    ∃ a, x = .ok a ∧ f a = .ok b := by
  cases x with
  | error e => cases h
  | ok a => exact ⟨a, rfl, h⟩

/-- An end of a list that starts with an item outside `back` has all of `back` behind it. -/
theorem suffix_of_cons_suffix_append {α : Type} {x : α} {xs front back : List α} (hx : x ∉ back)
    (h : x :: xs <:+ front ++ back) : back <:+ xs := by
  rcases List.suffix_or_suffix_of_suffix h (List.suffix_append front back) with hshort | hlong
  · exact absurd (hshort.subset List.mem_cons_self) hx
  · rcases List.suffix_cons_iff.1 hlong with heq | hxs
    · exact absurd (heq ▸ List.mem_cons_self) hx
    · exact hxs

namespace Url

/-! ## Schemes -/

/-- Whether a scheme is one of the web. -/
def isWeb (scheme : List Char) : Bool := scheme = "http".toList || scheme = "https".toList

theorem isSpecial_of_isWeb {scheme : List Char} (h : isWeb scheme = true) : isSpecial scheme = true := by
  simp only [isWeb, Bool.or_eq_true, decide_eq_true_eq] at h
  rcases h with rfl | rfl <;> decide

theorem ne_fileScheme_of_isWeb {scheme : List Char} (h : isWeb scheme = true) : scheme ≠ fileScheme := by
  simp only [isWeb, Bool.or_eq_true, decide_eq_true_eq] at h
  rcases h with rfl | rfl <;> decide

/-- What follows a scheme and its colon ends the text. -/
theorem suffix_of_scheme? {cs scheme rest : List Char} (h : scheme? cs = some (scheme, rest)) :
    ':' :: rest <:+ cs := by
  unfold scheme? at h
  split at h
  · split at h
    · dsimp only at h
      split at h
      · rename_i hdrop
        cases h
        rw [← hdrop]
        exact List.drop_suffix _ _
      · cases h
    · cases h
  · cases h

theorem scheme_withPath (u : Url) (cs : List Char) : (u.withPath cs).scheme = u.scheme := by
  unfold withPath
  dsimp only
  split
  · split
    · rfl
    · split <;> rfl
  · split <;> rfl

/-- What follows two slashes is an authority, and a path that is read from the end of the authority on. -/
theorem exists_withPath_of_afterSlashes {scheme cs : List Char} {u : Url} (h : afterSlashes scheme cs = .ok u) :
    ∃ (v : Url) (rest : List Char), v.scheme = scheme ∧ rest <:+ cs ∧ u = v.withPath rest := by
  unfold afterSlashes at h
  obtain ⟨⟨⟨username, password⟩, address⟩, -, h⟩ := ok_of_bind h
  dsimp only at h
  split at h
  · cases h
  · -- both kinds of hosts go on alike
    split at h <;>
    · obtain ⟨host, -, h⟩ := ok_of_bind h
      split at h
      · cases h
      · obtain ⟨port, -, h⟩ := ok_of_bind h
        cases h
        exact ⟨_, _, rfl, List.drop_suffix _ _, rfl⟩

theorem scheme_afterSlashes {scheme cs : List Char} {u : Url} (h : afterSlashes scheme cs = .ok u) :
    u.scheme = scheme := by
  obtain ⟨v, rest, hv, -, rfl⟩ := exists_withPath_of_afterSlashes h
  rw [scheme_withPath, hv]

theorem scheme_ofFile {cs : List Char} {u : Url} (h : ofFile cs = .ok u) : u.scheme = fileScheme := by
  unfold ofFile at h
  dsimp only at h
  split at h
  · split at h
    · cases h
      rw [scheme_withPath]
    · obtain ⟨parsed, -, h⟩ := ok_of_bind h
      cases h
      rw [scheme_withPath]
  · split at h <;>
    · cases h
      rw [scheme_withPath]

/-- Without a base, the scheme in front is the one of the address. -/
theorem scheme_afterScheme {scheme cs : List Char} {u : Url} (h : afterScheme none scheme cs = .ok u) :
    u.scheme = scheme := by
  unfold afterScheme at h
  dsimp only at h
  split at h
  · rename_i hfile
    rw [scheme_ofFile h, hfile]
  · split at h
    · exact scheme_afterSlashes h
    · split at h
      · exact scheme_afterSlashes h
      · cases h
        rfl
      · cases h
        rfl

/-! ## Relative texts -/

/-- The slashes in front of a text that is read relative to a base of the web. -/
def leadingSlashes (cs : List Char) : List Char := cs.takeWhile (isSlash true)

/-- What of a text is read relative to a base of the web with that scheme: all of it, or what follows the scheme
when it has the same one.  Nothing is when it has another scheme, or a host after two slashes. -/
def relativeText? (scheme cs : List Char) : Option (List Char) :=
  match scheme? cs with
  | none => if (leadingSlashes cs).length < 2 then some cs else none
  | some (own, rest) => if own = scheme ∧ (leadingSlashes rest).length < 2 then some rest else none

/-- Two addresses agree in scheme, host and port. -/
structure SameOrigin (u v : Url) : Prop where
  scheme : u.scheme = v.scheme
  host : u.host = v.host
  port : u.port = v.port

section Base

variable {base : Url} {parts : List (List Char)} {s : String} {cs : List Char}

/-- A relative text has at most one slash in front, and it is the whole text, or follows the scheme. -/
theorem cases_of_relativeText {scheme text : List Char} (h : relativeText? scheme text = some cs) :
    (leadingSlashes cs).length < 2 ∧
      (scheme? text = none ∧ text = cs ∨ scheme? text = some (scheme, cs)) := by
  unfold relativeText? at h
  split at h
  · rename_i hnone
    split at h
    · rename_i hfew
      cases h
      exact ⟨hfew, .inl ⟨hnone, rfl⟩⟩
    · cases h
  · rename_i own rest hsome
    split at h
    · rename_i hsame
      cases h
      exact ⟨hsame.2, .inr (hsame.1 ▸ hsome)⟩
    · cases h

/-- The relative text ends like the text itself. -/
theorem suffix_of_relativeText {scheme front back : List Char} (hcolon : ':' ∉ back)
    (h : relativeText? scheme (front ++ back) = some cs) : back <:+ cs := by
  rcases (cases_of_relativeText h).2 with ⟨-, rfl⟩ | hsome
  · exact List.suffix_append front back
  · exact suffix_of_cons_suffix_append hcolon (suffix_of_scheme? hsome)

theorem join_of_relativeText (hweb : isWeb base.scheme = true) (hparts : base.path = .segments parts)
    (h : relativeText? base.scheme (clean s) = some cs) : base.join s = relativeTo base parts cs := by
  obtain ⟨hfew, ⟨hnone, rfl⟩ | hsome⟩ := cases_of_relativeText h
  · simp only [join, read, hnone, hparts]
  · have hslashes : (cs.takeWhile (isSlash true)).length < 2 := hfew
    simp only [join, read, hsome, afterScheme, if_neg (ne_fileScheme_of_isWeb hweb), isSpecial_of_isWeb hweb,
      if_true, hparts, decide_true, hslashes, Bool.and_self]

/-- With at most one slash in front only path, query and fragment are changed. -/
theorem exists_relativeTo_of_few_slashes (hweb : isWeb base.scheme = true)
    (h : (leadingSlashes cs).length < 2) :
    ∃ u, relativeTo base parts cs = .ok u ∧ u.SameOrigin base := by
  have hfew : ¬ 2 ≤ (cs.takeWhile (isSlash true)).length := Nat.not_le.2 h
  unfold relativeTo
  simp only [isSpecial_of_isWeb hweb, if_neg hfew]
  split
  · exact ⟨_, rfl, rfl, rfl, rfl⟩
  · exact ⟨_, rfl, rfl, rfl, rfl⟩
  · exact ⟨_, rfl, rfl, rfl, rfl⟩
  · split <;> exact ⟨_, rfl, rfl, rfl, rfl⟩

/-- **A relative text keeps the origin**: it leads to an address with scheme, host and port of the base. -/
theorem exists_join_of_relativeText (hweb : isWeb base.scheme = true) (hparts : base.path = .segments parts)
    (h : relativeText? base.scheme (clean s) = some cs) :
    ∃ u, base.join s = .ok u ∧ u.SameOrigin base := by
  rw [join_of_relativeText hweb hparts h]
  exact exists_relativeTo_of_few_slashes hweb (cases_of_relativeText h).1

/-- **Any other text leads away**: all bases with the same scheme lead to the same address. -/
theorem join_eq_of_no_relativeText {other : Url} {otherParts : List (List Char)}
    (hweb : isWeb base.scheme = true) (hparts : base.path = .segments parts)
    (hscheme : other.scheme = base.scheme) (hotherParts : other.path = .segments otherParts)
    (h : relativeText? base.scheme (clean s) = none) : other.join s = base.join s := by
  have hspecial := isSpecial_of_isWeb hweb
  have hfile := ne_fileScheme_of_isWeb hweb
  unfold relativeText? at h
  rw [join, join, read, read]
  split at h
  · rename_i hnone
    split at h
    · cases h
    · rename_i hmany
      have hslashes : 2 ≤ ((clean s).takeWhile (isSlash true)).length := Nat.not_lt.1 hmany
      simp only [hnone, hparts, hotherParts, relativeTo, hscheme, hspecial, hslashes, if_true, if_neg hfile]
  · rename_i own rest hsome
    split at h
    · cases h
    · rename_i hleaves
      simp only [hsome, afterScheme, hparts, hotherParts, hscheme]
      split
      · rfl
      · split
        · have hcond : (decide (base.scheme = own) &&
              decide ((rest.takeWhile (isSlash (isSpecial own))).length < 2)) = false := by
            rw [Bool.eq_false_iff]
            intro hboth
            simp only [Bool.and_eq_true, decide_eq_true_eq] at hboth
            obtain ⟨rfl, hfew⟩ := hboth
            exact hleaves ⟨rfl, by simpa [leadingSlashes, hspecial] using hfew⟩
          simp only [hcond, Bool.false_eq_true, if_false]
        · rfl

end Base

/-! ## Paths -/

theorem splitSlashes_ne_nil (special : Bool) (cs : List Char) : splitSlashes special cs ≠ [] := by
  cases cs with
  | nil => exact List.cons_ne_nil _ _
  | cons c cs =>
    rw [splitSlashes]
    split
    · exact List.cons_ne_nil _ _
    · split <;> exact List.cons_ne_nil _ _

/-- The pieces on both sides of a slash are found apart. -/
theorem splitSlashes_of_slash {special : Bool} {c : Char} (hc : isSlash special c = true) (front back : List Char) :
    splitSlashes special (front ++ c :: back) = splitSlashes special front ++ splitSlashes special back := by
  induction front with
  | nil => simp [splitSlashes, hc]
  | cons d front ih =>
    obtain ⟨p, ps, hfront⟩ := List.exists_cons_of_ne_nil (splitSlashes_ne_nil special front)
    cases hd : isSlash special d with
    | true => simp [splitSlashes, hd, ih]
    | false => simp [splitSlashes, hd, ih, hfront]

theorem splitSlashes_of_plain {name : List Char} (h : isPlainSegment name = true) :
    splitSlashes true name = [name] := by
  obtain ⟨-, hchars, -⟩ := isPlainSegment_iff.1 h
  have hpieces := splitSlashes_intercalate true (List.cons_ne_nil name [])
    (List.forall_mem_singleton.2 fun c hc => isSlash_of_isPathChar (hchars c hc).1 (hchars c hc).2 true)
  rwa [List.intercalate_singleton] at hpieces

theorem splitSlashes_concat {name : List Char} (h : isPlainSegment name = true) (front : List Char) :
    splitSlashes true (front ++ '/' :: name) = splitSlashes true front ++ [name] := by
  rw [splitSlashes_of_slash (by rfl), splitSlashes_of_plain h]

/-- The place that a segment, followed by others, leads to. -/
def enter (path : List (List Char)) (segment : List Char) : List (List Char) :=
  if isDoubleDot segment then path.dropLast
  else if isDot segment then path
  else path ++ [percentEncode pathSet segment]

/-- A last segment that stands for no place is appended to where those in front of it lead. -/
theorem walk_concat {name : List Char} (hdot : isDot name = false) (hdouble : isDoubleDot name = false)
    (path segments : List (List Char)) :
    walk path (segments ++ [name]) = segments.foldl enter path ++ [percentEncode pathSet name] := by
  induction segments generalizing path with
  | nil => simp [walk, hdot, hdouble]
  | cons t segments ih =>
    obtain ⟨x, xs, hrest⟩ := List.exists_cons_of_ne_nil
      (List.append_ne_nil_of_right_ne_nil segments (List.cons_ne_nil name []))
    rw [List.cons_append, hrest, walk, ← hrest, ih, List.foldl_cons]
    rfl

/-- Whether the segments never lead above the place that they start from, `depth` places below it. -/
def descends : Nat → List (List Char) → Bool
  | _, [] => true
  | depth, t :: segments =>
    if isDoubleDot t then 0 < depth && descends (depth - 1) segments
    else descends (if isDot t then depth else depth + 1) segments

theorem descends_of_append {depth : Nat} {segments more : List (List Char)}
    (h : descends depth (segments ++ more) = true) : descends depth segments = true := by
  induction segments generalizing depth with
  | nil => rfl
  | cons t segments ih =>
    simp only [List.cons_append, descends] at h ⊢
    split
    · rename_i hdouble
      rw [if_pos hdouble, Bool.and_eq_true] at h
      rw [h.1, ih h.2, Bool.and_self]
    · rename_i hdouble
      rw [if_neg hdouble] at h
      exact ih h

/-- Segments that do not lead above a place lead to places below it. -/
theorem prefix_foldl_enter {segments path below : List (List Char)}
    (h : descends below.length segments = true) : path <+: segments.foldl enter (path ++ below) := by
  induction segments generalizing below with
  | nil => exact List.prefix_append path below
  | cons t segments ih =>
    rw [descends] at h
    rw [List.foldl_cons, enter]
    split
    · rename_i hdouble
      rw [if_pos hdouble, Bool.and_eq_true, decide_eq_true_eq] at h
      rw [List.dropLast_append_of_ne_nil (List.ne_nil_of_length_pos h.1)]
      exact ih (by simpa using h.2)
    · rename_i hdouble
      rw [if_neg hdouble] at h
      split
      · rename_i hdot
        exact ih (by simpa [hdot] using h)
      · rename_i hdot
        rw [List.append_assoc]
        exact ih (by simpa [hdot] using h)

/-- Places below a directory are written with the directory in front. -/
theorem pathText_prefix {u base : Url} {directory front : List (List Char)} {name : List Char}
    (hbase : base.path = .segments (directory ++ [[]])) (hu : u.path = .segments (front ++ [name]))
    (h : directory <+: front) : base.pathText <+: u.pathText := by
  obtain ⟨below, rfl⟩ := h
  have hslash : ['/'] <+: (below ++ [name]).flatMap fun p => '/' :: p := by
    cases below with
    | nil => exact ⟨name, by simp⟩
    | cons p below => exact ⟨p ++ (below ++ [name]).flatMap fun p => '/' :: p, by simp⟩
  simp only [pathText, hbase, hu]
  rw [List.append_assoc, List.flatMap_append, List.flatMap_append]
  exact (List.prefix_append_right_inj _).2 hslash

theorem suffix_pathText {u : Url} {front : List (List Char)} {name : List Char}
    (hu : u.path = .segments (front ++ [name])) : '/' :: name <:+ u.pathText := by
  simp only [pathText, hu, List.flatMap_append, List.flatMap_singleton]
  exact List.suffix_append _ _

/-- The path of an address that is read from a text without query and fragment. -/
theorem path_withPathFrom {u : Url} (hspecial : isSpecial u.scheme = true) {cs : List Char} (hquery : '?' ∉ cs)
    (hfragment : '#' ∉ cs) (start : List (List Char)) :
    (u.withPathFrom start cs).path = .segments (walk start (splitSlashes true cs)) := by
  rw [withPathFrom, cutPath_of_no_tail hquery hfragment, hspecial]

/-- A relative text goes on with the path of the base: it has neither query nor fragment, and it starts with no
slash and never leads above the directory of the base, unless that is the root. -/
structure StaysBelow (base : Url) (cs : List Char) : Prop where
  no_query : '?' ∉ cs
  no_fragment : '#' ∉ cs
  down : base.path = .segments [[]] ∨ leadingSlashes cs = [] ∧ descends 0 (splitSlashes true cs) = true

/-- One slash in front leads to the root. -/
theorem relativeTo_of_slash (base : Url) (parts : List (List Char)) {c : Char} {cs : List Char}
    (hc : isSlash (isSpecial base.scheme) c = true) (hquery : c ≠ '?') (hfragment : c ≠ '#')
    (hfew : ((c :: cs).takeWhile (isSlash (isSpecial base.scheme))).length < 2) :
    relativeTo base parts (c :: cs) = .ok (base.withPathFrom [] cs) := by
  -- by `hquery` and `hfragment` only the last case of the match is left
  simp only [relativeTo, if_neg (Nat.not_le.2 hfew), hc, if_true]

/-- Where a relative text is read from: the root for one with a slash in front, else the directory of the base. -/
theorem exists_withPathFrom_of_few_slashes {base : Url} (parts : List (List Char)) {c : Char} {cs : List Char}
    (hweb : isWeb base.scheme = true) (hquery : c ≠ '?') (hfragment : c ≠ '#')
    (hfew : (leadingSlashes (c :: cs)).length < 2) :
    relativeTo base parts (c :: cs) = .ok (base.withPathFrom [] cs) ∧ leadingSlashes (c :: cs) ≠ [] ∨
      relativeTo base parts (c :: cs) = .ok (base.withPathFrom parts.dropLast (c :: cs)) := by
  have hspecial := isSpecial_of_isWeb hweb
  cases hslash : isSlash true c with
  | true =>
    refine .inl ⟨relativeTo_of_slash base parts ?_ hquery hfragment ?_, ?_⟩
    · rw [hspecial, hslash]
    · rw [hspecial]
      exact hfew
    · simp [leadingSlashes, hslash]
  | false => exact .inr (relativeTo_of_head base parts cs (by rw [hspecial, hslash]) hquery hfragment)

/-- **A text that goes down stays below the base**: the path starts with the one of the base and ends with the
name at the end of the text. -/
theorem exists_join_of_staysBelow {base : Url} {directory : List (List Char)} {s : String}
    {cs front name : List Char} (hweb : isWeb base.scheme = true)
    (hdirectory : base.path = .segments (directory ++ [[]]))
    (hrelative : relativeText? base.scheme (clean s) = some cs) (hbelow : StaysBelow base cs)
    (hname : isPlainSegment name = true) (hcs : cs = front ++ '/' :: name) :
    ∃ u, base.join s = .ok u ∧ base.pathText <+: u.pathText ∧
      '/' :: percentEncode pathSet name <:+ u.pathText := by
  obtain ⟨-, -, hdot, hdouble⟩ := isPlainSegment_iff.1 hname
  have hroot : base.path = .segments [[]] → directory = [] := fun h => by
    simpa using hdirectory.symm.trans h
  -- it is enough to know the place from which the segments in front of the name are followed
  suffices ∃ start rest segments, relativeTo base (directory ++ [[]]) cs = .ok (base.withPathFrom start rest) ∧
      '?' ∉ rest ∧ '#' ∉ rest ∧ splitSlashes true rest = segments ++ [name] ∧
      directory <+: segments.foldl enter start by
    obtain ⟨start, rest, segments, hu, hquery, hfragment, hpieces, hplace⟩ := this
    have hpath := path_withPathFrom (isSpecial_of_isWeb hweb) hquery hfragment start
    rw [hpieces, walk_concat hdot hdouble] at hpath
    exact ⟨_, (join_of_relativeText hweb hdirectory hrelative).trans hu,
      pathText_prefix hdirectory hpath hplace, suffix_pathText hpath⟩
  obtain ⟨hquery, hfragment, hdown⟩ := hbelow
  obtain ⟨c, rest, hcons⟩ := List.exists_cons_of_ne_nil (l := cs) (by simp [hcs])
  subst hcons
  rcases exists_withPathFrom_of_few_slashes (directory ++ [[]]) hweb
    (fun h => hquery (h ▸ List.mem_cons_self)) (fun h => hfragment (h ▸ List.mem_cons_self))
    (cases_of_relativeText hrelative).1 with ⟨hu, hslash⟩ | hu
  · -- only below a root
    obtain rfl := hroot (hdown.resolve_right fun h => hslash h.1)
    obtain ⟨segments, hpieces⟩ : ∃ segments, splitSlashes true rest = segments ++ [name] := by
      cases front with
      | nil =>
        obtain rfl := (List.cons.inj hcs).2
        exact ⟨[], splitSlashes_of_plain hname⟩
      | cons d front =>
        obtain rfl := (List.cons.inj hcs).2
        exact ⟨_, splitSlashes_concat hname front⟩
    exact ⟨[], rest, segments, hu, fun h => hquery (List.mem_cons_of_mem _ h),
      fun h => hfragment (List.mem_cons_of_mem _ h), hpieces, List.nil_prefix⟩
  · rw [List.dropLast_concat] at hu
    have hpieces : splitSlashes true (c :: rest) = splitSlashes true front ++ [name] := by
      rw [hcs, splitSlashes_concat hname]
    refine ⟨directory, c :: rest, _, hu, hquery, hfragment, hpieces, ?_⟩
    rcases hdown with h | h
    · rw [hroot h]
      exact List.nil_prefix
    · have hdescends : descends ([] : List (List Char)).length (splitSlashes true front) = true :=
        descends_of_append (hpieces ▸ h.2)
      have hplace : directory <+: (splitSlashes true front).foldl enter (directory ++ []) :=
        prefix_foldl_enter hdescends
      rwa [List.append_nil] at hplace

/-! ## Directories -/

theorem suffix_dropWhile {α : Type} {p : α → Bool} {x : α} {xs ys : List α} (hx : p x = false)
    (h : x :: xs <:+ ys) : x :: xs <:+ ys.dropWhile p := by
  induction ys with
  | nil => cases List.suffix_nil.1 h
  | cons y ys ih =>
    rcases List.suffix_cons_iff.1 h with heq | hys
    · obtain ⟨rfl, rfl⟩ := List.cons.inj heq
      have hstop : (x :: xs).dropWhile p = x :: xs := List.dropWhile_cons_of_neg (by simp [hx])
      exact ⟨[], hstop.symm⟩
    · cases hy : p y with
      | true =>
        rw [List.dropWhile_cons_of_pos hy]
        exact ih hys
      | false => rwa [List.dropWhile_cons_of_neg (by simp [hy])]

/-- An end of the text without margins stays its end. -/
theorem suffix_clean {s : String} {cs : List Char} (hne : cs ≠ [])
    (hmargins : cs.all (fun c => !isMargin c) = true) (hend : cs <:+ s.toList) : cs <:+ clean s := by
  have h : ∀ c ∈ cs, isMargin c = false := by simpa using hmargins
  have hkept : ∀ c ∈ cs, (!(c = '\t' || c = '\n' || c = '\r')) = true := by
    intro c hc
    have hnot : ∀ d, isMargin d = true → c ≠ d := fun d hd hcd => by
      rw [← hcd, h c hc] at hd
      cases hd
    simp [hnot '\t' (by decide), hnot '\n' (by decide), hnot '\r' (by decide)]
  obtain ⟨front, hfront⟩ : cs <:+ s.toList.dropWhile isMargin := by
    obtain ⟨c, cs, rfl⟩ := List.exists_cons_of_ne_nil hne
    exact suffix_dropWhile (h c List.mem_cons_self) hend
  have hlast : (cs.reverse ++ front.reverse).dropWhile isMargin = cs.reverse ++ front.reverse := by
    obtain ⟨c, rest, hcs⟩ := List.exists_cons_of_ne_nil (List.reverse_ne_nil_iff.2 hne)
    have hc : isMargin c = false := h c (List.mem_reverse.1 (hcs ▸ List.mem_cons_self))
    rw [hcs]
    exact List.dropWhile_cons_of_neg (by simp [hc])
  unfold clean
  rw [← hfront, List.reverse_append, hlast, ← List.reverse_append, List.reverse_reverse]
  dsimp only
  rw [List.filter_append, List.filter_eq_self.2 hkept]
  exact List.suffix_append _ _

/-- A text that is empty or ends with a slash. -/
def EndsInSlash (cs : List Char) : Prop := cs = [] ∨ ['/'] <:+ cs

theorem EndsInSlash.suffix {cs rest : List Char} (h : EndsInSlash cs) (hrest : rest <:+ cs) : EndsInSlash rest := by
  rcases h with rfl | hslash
  · exact .inl (List.suffix_nil.1 hrest)
  · rcases List.suffix_or_suffix_of_suffix hrest hslash with hshort | hlong
    · rcases List.suffix_cons_iff.1 hshort with rfl | hnil
      · exact .inr (List.suffix_refl _)
      · exact .inl (List.suffix_nil.1 hnil)
    · exact .inr hlong

theorem EndsInSlash.exists_splitSlashes {cs : List Char} (h : EndsInSlash cs) :
    ∃ segments, splitSlashes true cs = segments ++ [[]] := by
  rcases h with rfl | ⟨front, rfl⟩
  · exact ⟨[], rfl⟩
  · exact ⟨_, splitSlashes_of_slash (by rfl) front []⟩

/-- After an authority of the web the path is read from the root on. -/
theorem exists_withPathFrom_of_withPath {u : Url} (hspecial : isSpecial u.scheme = true) (cs : List Char) :
    ∃ rest, rest <:+ cs ∧ u.withPath cs = u.withPathFrom [] rest := by
  unfold withPath
  simp only [hspecial, if_true]
  split
  · split
    · exact ⟨_, List.suffix_cons _ _, rfl⟩
    · exact ⟨_, List.suffix_refl _, rfl⟩
  · exact ⟨_, List.suffix_refl _, rfl⟩

theorem cutPath_cons_snd (c : Char) (cs : List Char) :
    (cutPath (c :: cs)).2 = if c = '?' ∨ c = '#' then c :: cs else (cutPath cs).2 := by
  by_cases hmark : c = '?' ∨ c = '#'
  · rw [if_pos hmark, cutPath, List.takeWhile_cons_of_neg (by rcases hmark with rfl | rfl <;> decide)]
    rfl
  · rw [if_neg hmark, cutPath, List.takeWhile_cons_of_pos (by simpa using hmark)]
    rfl

/-- A text that starts with the mark of a query or a fragment has one of them. -/
theorem queryAndFragment_of_mark {special : Bool} {c : Char} (hmark : c = '?' ∨ c = '#') (cs : List Char)
    (hquery : (queryAndFragment special (c :: cs)).1 = none) :
    (queryAndFragment special (c :: cs)).2 ≠ none := by
  unfold queryAndFragment at hquery ⊢
  rcases hmark with rfl | rfl
  · cases hcut : Text.cutFirst '#' ('?' :: cs) with
    | some parts => simp
    | none => simp [hcut] at hquery
  · simp [Text.cutFirst]

/-- A text whose end is neither a query nor a fragment does not have their marks. -/
theorem no_mark_of_no_tail {special : Bool} {cs : List Char}
    (hquery : (queryAndFragment special (cutPath cs).2).1 = none)
    (hfragment : (queryAndFragment special (cutPath cs).2).2 = none) : '?' ∉ cs ∧ '#' ∉ cs := by
  induction cs with
  | nil => simp
  | cons c cs ih =>
    rw [cutPath_cons_snd] at hquery hfragment
    split at hquery
    · rename_i hmark
      rw [if_pos hmark] at hfragment
      exact absurd hfragment (queryAndFragment_of_mark hmark cs hquery)
    · rename_i hmark
      rw [if_neg hmark] at hfragment
      obtain ⟨hno_query, hno_fragment⟩ := ih hquery hfragment
      obtain ⟨hc, hc'⟩ := not_or.1 hmark
      simp [hno_query, hno_fragment, Ne.symm hc, Ne.symm hc']

/-- An address of the web that is read on its own has a path that is read from the root on. -/
theorem exists_withPathFrom_of_parse {s : String} {base : Url} (h : parse s = .ok base)
    (hweb : isWeb base.scheme = true) :
    ∃ (u : Url) (cs : List Char), isSpecial u.scheme = true ∧ cs <:+ clean s ∧ base = u.withPathFrom [] cs := by
  rw [parse, read] at h
  split at h
  · rename_i scheme rest hscheme
    obtain rfl := scheme_afterScheme h
    have hspecial := isSpecial_of_isWeb hweb
    simp only [afterScheme, if_neg (ne_fileScheme_of_isWeb hweb), hspecial, if_true] at h
    obtain ⟨u, address, hu, haddress, hbase⟩ := exists_withPath_of_afterSlashes h
    rw [← hu] at hspecial
    obtain ⟨cs, hcs, hfrom⟩ := exists_withPathFrom_of_withPath hspecial address
    have hrest : rest <:+ clean s := (List.suffix_cons _ _).trans (suffix_of_scheme? hscheme)
    exact ⟨u, cs, hspecial, hcs.trans (haddress.trans ((List.drop_suffix _ _).trans hrest)), hbase.trans hfrom⟩
  · cases h

theorem exists_segments_of_parse {s : String} {base : Url} (h : parse s = .ok base)
    (hweb : isWeb base.scheme = true) : ∃ parts, base.path = .segments parts := by
  obtain ⟨u, cs, -, -, rfl⟩ := exists_withPathFrom_of_parse h hweb
  exact ⟨_, rfl⟩

/-- **The path of a written address**: it is the one of a directory when a slash ends the text and neither query
nor fragment follows the path. -/
theorem exists_directory_of_parse {s : String} {base : Url} (hslash : ['/'] <:+ s.toList)
    (h : parse s = .ok base) (hweb : isWeb base.scheme = true) (hquery : base.query = none)
    (hfragment : base.fragment = none) : ∃ directory, base.path = .segments (directory ++ [[]]) := by
  obtain ⟨u, cs, hspecial, hcs, rfl⟩ := exists_withPathFrom_of_parse h hweb
  have hclean : ['/'] <:+ clean s := suffix_clean (List.cons_ne_nil _ _) (by decide) hslash
  obtain ⟨hno_query, hno_fragment⟩ := no_mark_of_no_tail hquery hfragment
  obtain ⟨segments, hsegments⟩ := EndsInSlash.exists_splitSlashes (.suffix (.inr hclean) hcs)
  rw [path_withPathFrom hspecial hno_query hno_fragment, hsegments, walk_concat (by decide) (by decide)]
  exact ⟨_, rfl⟩

end Url

end SearchExport
