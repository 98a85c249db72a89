import SearchExport.Text.Scan
import SearchExport.Text.Split

/-!
# Texts in pieces

* `Text.cutAt_eq_none_iff`, `Text.eq_of_cutAt` — where a text is found in another, and when it is not.
* `Text.replaceFrom_of_absent`, `Text.replaceFrom_of_cutAt` — one exchange after the other.
* `Text.render_append`, `Text.tokens_append` — segments one behind the other; `Text.render_congr` — what is
  written for the tokens among the segments decides their text.
-/

set_option autoImplicit false

namespace SearchExport.Text

/-! ## Finding -/

theorem dropLeading_eq_some_iff {p cs rest : List Char} :
    dropLeading p cs = some rest ↔ cs = p ++ rest := by
  induction p generalizing cs with
  | nil => simp [dropLeading]
  | cons d ds ih =>
    cases cs with
    | nil => simp [dropLeading]
    | cons c cs =>
      rw [dropLeading, List.cons_append, List.cons.injEq]
      split
      next hdc => rw [ih, eq_comm (a := c), and_iff_right hdc]
      next hdc => exact iff_of_false nofun fun h => hdc h.1.symm

theorem dropLeading_eq_none_iff {p cs : List Char} : dropLeading p cs = none ↔ ¬ p <+: cs := by
  rw [← Option.not_isSome_iff_eq_none, Option.isSome_iff_exists]
  simp only [dropLeading_eq_some_iff]
  exact not_congr (exists_congr fun rest => eq_comm)

theorem cutAt_eq_none_iff {p cs : List Char} : cutAt p cs = none ↔ ¬ p <:+: cs := by
  induction cs with
  | nil => cases p <;> simp [cutAt]
  | cons c cs ih =>
    rw [cutAt, List.infix_cons_iff]
    cases hdrop : dropLeading p (c :: cs) with
    | some rest =>
      have hfirst : p <+: c :: cs := ⟨rest, (dropLeading_eq_some_iff.1 hdrop).symm⟩
      exact iff_of_false nofun (not_not_intro (.inl hfirst))
    | none => simpa [dropLeading_eq_none_iff.1 hdrop] using ih

/-- **The first place of a text**: what stands before and after it, and that it is not found before. -/
theorem eq_of_cutAt {p cs before after : List Char} (hp : p ≠ [])
    (h : cutAt p cs = some (before, after)) : cs = before ++ p ++ after ∧ ¬ p <:+: before := by
  induction cs generalizing before with
  | nil => simp [cutAt, hp] at h
  | cons c cs ih =>
    rw [cutAt] at h
    cases hdrop : dropLeading p (c :: cs) with
    | some rest =>
      rw [hdrop] at h
      cases h
      exact ⟨dropLeading_eq_some_iff.1 hdrop, by simpa using hp⟩
    | none =>
      rw [hdrop] at h
      obtain ⟨⟨before, after⟩, hcut, hpair⟩ := Option.map_eq_some_iff.1 h
      cases hpair
      obtain ⟨rfl, hbefore⟩ := ih hcut
      refine ⟨rfl, fun hfound => ?_⟩
      obtain hfirst | hfound := List.infix_cons_iff.1 hfound
      · refine dropLeading_eq_none_iff.1 hdrop (hfirst.trans ?_)
        rw [List.append_assoc]
        exact List.prefix_append (c :: before) (p ++ after)
      · exact hbefore hfound

/-! ## Exchanging -/

theorem replaceFrom_of_absent {p cs : List Char} (q : List Char) (n : Nat) (h : ¬ p <:+: cs) :
    replaceFrom p q n cs = cs := by
  cases n with
  | zero => rfl
  | succ n => rw [replaceFrom, cutAt_eq_none_iff.2 h]

theorem replaceFrom_of_cutAt {p cs before after : List Char} (q : List Char) (n : Nat)
    (h : cutAt p cs = some (before, after)) :
    replaceFrom p q (n + 1) cs = before ++ q ++ replaceFrom p q n after := by
  rw [replaceFrom, h]

/-! ## Segments -/

section

variable {α : Type}

theorem render_append (write : α → List Char) (segments segments' : List (Segment α)) :
    render write (segments ++ segments') = render write segments ++ render write segments' :=
  List.flatMap_append

theorem render_char (write : α → List Char) (c : Char) (segments : List (Segment α)) :
    render write (.char c :: segments) = c :: render write segments := rfl

theorem render_token (write : α → List Char) (name : α) (segments : List (Segment α)) :
    render write (.token name :: segments) = write name ++ render write segments := rfl

theorem tokens_append (segments segments' : List (Segment α)) :
    tokens (segments ++ segments') = tokens segments ++ tokens segments' :=
  List.filterMap_append

theorem tokens_char (c : Char) (segments : List (Segment α)) :
    tokens (.char c :: segments) = tokens segments := rfl

theorem tokens_token (name : α) (segments : List (Segment α)) :
    tokens (.token name :: segments) = name :: tokens segments := rfl

theorem render_chars (write : α → List Char) (cs : List Char) : render write (cs.map .char) = cs := by
  induction cs with
  | nil => rfl
  | cons c cs ih => rw [List.map_cons, render_char, ih]

theorem tokens_chars (cs : List Char) : tokens (α := α) (cs.map .char) = [] := by
  induction cs with
  | nil => rfl
  | cons c cs ih => rw [List.map_cons, tokens_char, ih]

theorem render_congr {write write' : α → List Char} {segments : List (Segment α)}
    (h : ∀ t ∈ tokens segments, write t = write' t) : render write segments = render write' segments := by
  induction segments with
  | nil => rfl
  | cons segment segments ih =>
    cases segment with
    | char c => exact congrArg (c :: ·) (ih h)
    | token t =>
      rw [tokens_token, List.forall_mem_cons] at h
      rw [render_token, render_token, h.1, ih h.2]

end

end SearchExport.Text
