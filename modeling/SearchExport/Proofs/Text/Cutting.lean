import SearchExport.Text.Split

/-!
# Cutting at a character

A list is cut at the first or at the last place where a character stands; the one part then has no further
place of it.

* `cutFirst_eq_none`, `cutFirst_append` — the first place.
* `cutLast_eq_none`, `cutLast_append` — the last place; `exists_last_cut` — there is one in every list that has
  the character.
-/

set_option autoImplicit false

namespace SearchExport.Text

variable {c : Char} {cs : List Char}

theorem cutFirst_eq_none (h : c ∉ cs) : cutFirst c cs = none := by
  induction cs with
  | nil => rfl
  | cons d ds ih =>
    have hd : d ≠ c := fun hd => h (hd ▸ List.mem_cons_self)
    simp [cutFirst, hd, ih fun hc => h (List.mem_cons_of_mem d hc)]

theorem cutFirst_append (h : c ∉ cs) (ds : List Char) : cutFirst c (cs ++ c :: ds) = some (cs, ds) := by
  induction cs with
  | nil => simp [cutFirst]
  | cons d cs ih =>
    have hd : d ≠ c := fun hd => h (hd ▸ List.mem_cons_self)
    simp [cutFirst, hd, ih fun hc => h (List.mem_cons_of_mem d hc)]

theorem cutLast_eq_none (h : c ∉ cs) : cutLast c cs = none := by
  rw [cutLast, cutFirst_eq_none (mt List.mem_reverse.1 h)]
  rfl

theorem cutLast_append (before : List Char) (h : c ∉ cs) :
    cutLast c (before ++ c :: cs) = some (before, cs) := by
  rw [cutLast, List.reverse_append, List.reverse_cons, List.append_assoc, List.singleton_append,
    cutFirst_append (mt List.mem_reverse.1 h), Option.map_some, List.reverse_reverse, List.reverse_reverse]

theorem exists_last_cut (h : c ∈ cs) : ∃ before after, cs = before ++ c :: after ∧ c ∉ after := by
  obtain ⟨front, back, hcs, hfront⟩ := List.eq_append_cons_of_mem (List.mem_reverse.2 h)
  refine ⟨back.reverse, front.reverse, ?_, mt List.mem_reverse.1 hfront⟩
  calc
    cs = cs.reverse.reverse := cs.reverse_reverse.symm
    _ = (front ++ c :: back).reverse := by rw [hcs]
    _ = back.reverse ++ c :: front.reverse := by
      rw [List.reverse_append, List.reverse_cons, List.append_assoc, List.singleton_append]

end SearchExport.Text
