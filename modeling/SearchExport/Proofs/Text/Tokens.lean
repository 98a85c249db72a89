import SearchExport.Proofs.Text.Pieces

/-!
# Tokens of one spelling

A pass over a text that knows a token by how it is written.

* `Text.Spelling` — a token stands at the head of a text exactly when the text starts with its spelling.
* `Text.scan_char`, `Text.Spelling.scan_token` — one step of the pass; `Text.Spelling.induction` — a text from
  the left.
* `Text.Spelling.render_scan` — the segments of a text, as they are written, make the text.
* `Text.Spelling.Reads` — what it means to read a text from the left; `Text.Spelling.reads_iff` — there is one
  reading, and the pass finds it.
* `Text.Spelling.scan_append` — two texts that no token joins are passed over apart.
-/

set_option autoImplicit false

namespace SearchExport.Text

variable {α : Type} {token? : List Char → Option (α × Nat)}

theorem scan_char {c : Char} {cs : List Char} (h : token? (c :: cs) = none) :
    scan token? 0 (c :: cs) = .char c :: scan token? 0 cs := by
  rw [scan, h]

/-- Tokens of one spelling: the names they may have, and how a name is written. -/
structure Spelling (token? : List Char → Option (α × Nat)) where
  IsName : α → Prop
  write : α → List Char
  write_ne_nil (name : α) : write name ≠ []
  /-- A token at the head of a text, with the number of its characters after the first one. -/
  found_iff {cs : List Char} {name : α} {more : Nat} :
    token? cs = some (name, more) ↔
      IsName name ∧ (write name).length = more + 1 ∧ write name <+: cs

namespace Spelling

variable {spelling : Spelling token?}

theorem scan_token {name : α} (h : spelling.IsName name) (rest : List Char) :
    scan token? 0 (spelling.write name ++ rest) = .token name :: scan token? 0 rest := by
  obtain ⟨c, cs, hwrite⟩ := List.exists_cons_of_ne_nil (spelling.write_ne_nil name)
  have hfound : token? (spelling.write name ++ rest) = some (name, cs.length) :=
    spelling.found_iff.2 ⟨h, by rw [hwrite, List.length_cons], List.prefix_append _ _⟩
  rw [hwrite, List.cons_append] at hfound ⊢
  rw [scan, hfound]
  dsimp only
  rw [scan_skip, List.drop_left]

/-- A text from the left: it is empty, or a character that starts no token comes first, or a token does. -/
theorem induction (spelling : Spelling token?) {motive : List Char → Prop} (nil : motive [])
    (char : ∀ c cs, token? (c :: cs) = none → motive cs → motive (c :: cs))
    (token : ∀ name rest, spelling.IsName name → motive rest → motive (spelling.write name ++ rest))
    (cs : List Char) : motive cs := by
  induction hlength : cs.length using Nat.strongRecOn generalizing cs with
  | ind length ih =>
    subst hlength
    cases cs with
    | nil => exact nil
    | cons c cs =>
      cases hfound : token? (c :: cs) with
      | none => exact char c cs hfound (ih cs.length (Nat.lt_succ_self _) cs rfl)
      | some found =>
        obtain ⟨name, more⟩ := found
        obtain ⟨hname, hmore, rest, hrest⟩ := spelling.found_iff.1 hfound
        have hshorter : rest.length < (c :: cs).length := by
          rw [← hrest, List.length_append]
          omega
        rw [← hrest]
        exact token name rest hname (ih rest.length hshorter rest rfl)

/-- **The segments of a text make the text** when every token is written as it was. -/
theorem render_scan (spelling : Spelling token?) (cs : List Char) :
    render spelling.write (scan token? 0 cs) = cs := by
  induction cs using spelling.induction with
  | nil => rfl
  | char c cs h ih => rw [scan_char h, render_char, ih]
  | token name rest h ih => rw [scan_token h, render_token, ih]

/-- A reading of a text from the left: a token is taken as a whole wherever one starts, and every other
character stands for itself. -/
inductive Reads (spelling : Spelling token?) : List Char → List (Segment α) → Prop
  | nil : Reads spelling [] []
  | char (c : Char) {cs : List Char} {segments : List (Segment α)}
      (h : ∀ name, spelling.IsName name → ¬ spelling.write name <+: c :: cs)
      (rest : Reads spelling cs segments) : Reads spelling (c :: cs) (.char c :: segments)
  | token {name : α} {cs : List Char} {segments : List (Segment α)} (h : spelling.IsName name)
      (rest : Reads spelling cs segments) :
      Reads spelling (spelling.write name ++ cs) (.token name :: segments)

theorem eq_none_iff {cs : List Char} :
    token? cs = none ↔ ∀ name, spelling.IsName name → ¬ spelling.write name <+: cs := by
  constructor
  · intro hnone name hname hprefix
    have hlength := List.length_pos_iff.2 (spelling.write_ne_nil name)
    have hfound : token? cs = some (name, (spelling.write name).length - 1) :=
      spelling.found_iff.2 ⟨hname, by omega, hprefix⟩
    rw [hnone] at hfound
    cases hfound
  · intro hno
    cases hfound : token? cs with
    | none => rfl
    | some found =>
      obtain ⟨hname, -, hprefix⟩ := spelling.found_iff.1 hfound
      exact absurd hprefix (hno found.1 hname)

/-- **There is one reading of a text**, and the pass finds it. -/
theorem reads_iff {cs : List Char} {segments : List (Segment α)} :
    spelling.Reads cs segments ↔ segments = scan token? 0 cs := by
  constructor
  · intro h
    induction h with
    | nil => rfl
    | char c h _ ih => rw [scan_char (eq_none_iff.2 h), ih]
    | token h _ ih => rw [scan_token h, ih]
  · rintro rfl
    induction cs using spelling.induction with
    | nil => exact .nil
    | char c cs h ih =>
      rw [scan_char h]
      exact .char c (eq_none_iff.1 h) ih
    | token name rest h ih =>
      rw [scan_token h]
      exact .token h ih

/-- The tokens of a text stand somewhere in it. -/
theorem of_mem_tokens (spelling : Spelling token?) {name : α} {cs : List Char}
    (hname : name ∈ tokens (scan token? 0 cs)) : spelling.IsName name ∧ spelling.write name <:+: cs := by
  induction cs using spelling.induction with
  | nil => cases hname
  | char c cs h ih =>
    rw [scan_char h, tokens_char] at hname
    exact ⟨(ih hname).1, (ih hname).2.trans (List.infix_cons (List.infix_refl _))⟩
  | token other rest h ih =>
    rw [scan_token h, tokens_token, List.mem_cons] at hname
    obtain rfl | hname := hname
    · exact ⟨h, (List.prefix_append _ _).isInfix⟩
    · exact ⟨(ih hname).1, (ih hname).2.trans (List.suffix_append _ _).isInfix⟩

/-- No token is written partly at the end of one text and partly at the start of another. -/
def Parts (spelling : Spelling token?) (before after : List Char) : Prop :=
  ∀ name front back, spelling.IsName name → spelling.write name = front ++ back → front ≠ [] → back ≠ [] →
    front <:+ before → ¬ back <+: after

theorem Parts.of_suffix {before before' after : List Char} (h : spelling.Parts before after)
    (hsuffix : before' <:+ before) : spelling.Parts before' after :=
  fun name front back hname hwrite hfront hback hbefore =>
    h name front back hname hwrite hfront hback (hbefore.trans hsuffix)

/-- A character that no token has after its first one parts what stands before it from the rest. -/
theorem parts_cons {c : Char} (h : ∀ name, spelling.IsName name → c ∉ (spelling.write name).tail)
    (before rest : List Char) : spelling.Parts before (c :: rest) := by
  intro name front back hname hwrite hfront hback _ hafter
  obtain ⟨d, front, rfl⟩ := List.exists_cons_of_ne_nil hfront
  obtain ⟨e, back, rfl⟩ := List.exists_cons_of_ne_nil hback
  obtain ⟨rfl, -⟩ := List.cons_prefix_cons.1 hafter
  exact h name hname (by simp [hwrite])

/-- A character that starts no token starts none when the text goes on. -/
theorem none_append {c : Char} {cs after : List Char} (h : token? (c :: cs) = none)
    (hparts : spelling.Parts (c :: cs) after) : token? (c :: (cs ++ after)) = none := by
  cases hsome : token? (c :: (cs ++ after)) with
  | none => rfl
  | some found =>
    obtain ⟨name, more⟩ := found
    obtain ⟨hname, hmore, rest, hrest⟩ := spelling.found_iff.1 hsome
    have hnot : ¬ spelling.write name <+: c :: cs := by
      intro hprefix
      rw [spelling.found_iff.2 ⟨hname, hmore, hprefix⟩] at h
      cases h
    rw [← List.cons_append, List.append_eq_append_iff] at hrest
    obtain ⟨middle, hcs, -⟩ | ⟨middle, hwrite, hafter⟩ := hrest
    · exact absurd ⟨middle, hcs.symm⟩ hnot
    · -- the token would reach into the rest
      have hmiddle : middle ≠ [] := by
        rintro rfl
        rw [List.append_nil] at hwrite
        exact hnot (hwrite ▸ List.prefix_rfl)
      exact absurd ⟨rest, hafter.symm⟩
        (hparts name (c :: cs) middle hname hwrite (List.cons_ne_nil _ _) hmiddle List.suffix_rfl)

/-- **Texts that no token joins** are passed over apart. -/
theorem scan_append {before after : List Char} (hparts : spelling.Parts before after) :
    scan token? 0 (before ++ after) = scan token? 0 before ++ scan token? 0 after := by
  induction before using spelling.induction with
  | nil => rfl
  | char c cs h ih =>
    rw [List.cons_append, scan_char (none_append h hparts), ih (hparts.of_suffix (List.suffix_cons c cs)),
      scan_char h, List.cons_append]
  | token name rest h ih =>
    rw [List.append_assoc, scan_token h, ih (hparts.of_suffix (List.suffix_append _ rest)), scan_token h,
      List.cons_append]

end Spelling

end SearchExport.Text
