import SearchExport.Json.Printer
import SearchExport.Proofs.Text.Digits

/-!
# The text of a value is a single line

Every character that would end a line is escaped inside strings, and nothing between them is white space.

* `newline_not_mem_quoted` — strings, of whatever characters.
* `Number.newline_not_mem_render` — numbers.
* `Value.newline_not_mem_render` — all values.
* `Value.render_object` — an object is its members, with nothing but commas between them.
-/

set_option autoImplicit false

namespace SearchExport

/-! ## Strings -/

theorem hexDigit_ne_newline {n : Nat} (h : n < 16) : '\n' ≠ hexDigit n := by
  have hall : ∀ d < 16, '\n' ≠ hexDigit d := by decide
  exact hall n h

theorem newline_not_mem_escapeChar (c : Char) : '\n' ∉ escapeChar c := by
  have hcode (hsmall : c.toNat < 32) :
      '\n' ∉ ['\\', 'u', '0', '0', hexDigit (c.toNat / 16), hexDigit (c.toNat % 16)] := by
    have hhigh := hexDigit_ne_newline (n := c.toNat / 16) (by omega)
    have hlow := hexDigit_ne_newline (n := c.toNat % 16) (by omega)
    simp [hhigh, hlow]
  unfold escapeChar
  split
  · decide
  split
  · decide
  split
  · decide
  next hnewline =>
  split
  · decide
  split
  · decide
  split
  · decide
  split
  · decide
  split
  · next hsmall => exact hcode hsmall
  · rw [List.mem_singleton]
    exact fun h => hnewline h.symm

/-- **A quoted text** has no newline, whatever characters it has. -/
theorem newline_not_mem_quoted (cs : List Char) : '\n' ∉ quoted cs := by
  have hbody : '\n' ∉ cs.flatMap escapeChar := by
    rw [List.mem_flatMap]
    rintro ⟨c, -, hc⟩
    exact newline_not_mem_escapeChar c hc
  simp [quoted, hbody]

/-! ## Numbers -/

theorem newline_not_mem_digits (n : Nat) : '\n' ∉ Text.digits n := by
  intro h
  have hdigit := Text.isDigit_of_mem_digits h
  revert hdigit
  decide

theorem newline_not_mem_integer (i : Int) : '\n' ∉ Text.integer i := by
  unfold Text.integer
  split <;> simp [newline_not_mem_digits]

namespace Binary64.ScientificText

variable {layout : ScientificText} (hpositive : '\n' ∉ layout.positive)
  (hnegative : '\n' ∉ layout.negative)

include hpositive hnegative

theorem newline_not_mem_lay {ds : List Char} (hds : '\n' ∉ ds) (e : Int) :
    '\n' ∉ layout.lay ds e := by
  have hzeros : ∀ n, '\n' ∉ List.replicate n '0' := by
    intro n h
    exact absurd (List.eq_of_mem_replicate h) (by decide)
  have htake : ∀ n, '\n' ∉ ds.take n := fun n h => hds (List.mem_of_mem_take h)
  have hdrop : ∀ n, '\n' ∉ ds.drop n := fun n h => hds (List.mem_of_mem_drop h)
  unfold lay
  split
  · split
    · simp [hzeros, hds]
    · dsimp only
      split
      · simp [hzeros, hds]
      · simp [htake, hdrop]
  · have hmark : '\n' ∉ if e < 0 then layout.negative else layout.positive := by
      split <;> assumption
    have hexponent := newline_not_mem_digits e.natAbs
    -- a point follows the first digit when there are more
    rcases ds with _ | ⟨d, _ | ⟨d', ds⟩⟩
    · simp [hmark, hexponent]
    · simp only [List.mem_append, not_or]
      exact ⟨⟨hds, hmark⟩, hexponent⟩
    · have hfirst : '\n' ≠ d := fun h => hds (h ▸ List.mem_cons_self)
      have hrest : '\n' ∉ d' :: ds := fun h => hds (List.mem_cons_of_mem _ h)
      simp only [List.mem_append, List.mem_cons, not_or] at hrest ⊢
      exact ⟨⟨⟨hfirst, by decide, hrest⟩, hmark⟩, hexponent⟩

theorem newline_not_mem_write (x : Binary64) : '\n' ∉ layout.write x := by
  have hsign : '\n' ∉ if x.negative then ['-'] else [] := by split <;> decide
  have hdigits := newline_not_mem_lay hpositive hnegative (newline_not_mem_digits x.shortest.1)
  unfold write
  dsimp only
  split
  · simp [hsign]
  · simp [hsign, hdigits]

end Binary64.ScientificText

theorem Number.newline_not_mem_render (n : Number) : '\n' ∉ n.render := by
  cases n with
  | int i => exact newline_not_mem_integer i
  | double x =>
    have hpositive : '\n' ∉ layout.positive := by decide
    have hnegative : '\n' ∉ layout.negative := by decide
    have hfinite := Binary64.ScientificText.newline_not_mem_write hpositive hnegative x
    rw [render]
    split
    · exact hfinite
    · simp

/-! ## Values -/

namespace Value

mutual

/-- **The text of a value** has no newline. -/
theorem newline_not_mem_render : ∀ v : Value, '\n' ∉ v.render
  | .null => by simp [render]
  | .bool true => by simp [render]
  | .bool false => by simp [render]
  | .number n => by
    rw [render]
    exact n.newline_not_mem_render
  | .string s => by
    rw [render]
    exact newline_not_mem_quoted s.toList
  | .array [] => by simp [render]
  | .array (v :: vs) => by
    simp [render, newline_not_mem_render v, newline_not_mem_renderItems vs]
  | .object [] => by simp [render]
  | .object ((k, v) :: ms) => by
    simp [render, newline_not_mem_quoted, newline_not_mem_render v, newline_not_mem_renderMembers ms]

theorem newline_not_mem_renderItems : ∀ vs : List Value, '\n' ∉ renderItems vs
  | [] => by simp [renderItems]
  | v :: vs => by
    simp [renderItems, newline_not_mem_render v, newline_not_mem_renderItems vs]

theorem newline_not_mem_renderMembers : ∀ ms : List (String × Value), '\n' ∉ renderMembers ms
  | [] => by simp [renderMembers]
  | (k, v) :: ms => by
    simp [renderMembers, newline_not_mem_quoted, newline_not_mem_render v,
      newline_not_mem_renderMembers ms]

end

end Value

/-! ## Members -/

/-- A member of an object as text: its name as a string, a colon and its value. -/
def memberText (name : String) (v : Value) : List Char := quoted name.toList ++ ':' :: v.render

theorem intercalate_cons (separator first : List Char) (rest : List (List Char)) :
    separator.intercalate (first :: rest) = first ++ rest.flatMap (separator ++ ·) := by
  induction rest generalizing first with
  | nil => simp
  | cons second rest ih =>
    rw [List.intercalate_cons_cons, ih, List.flatMap_cons, List.append_assoc, List.append_assoc]

theorem Value.renderMembers_eq (ms : List (String × Value)) :
    renderMembers ms = (ms.map fun e => memberText e.1 e.2).flatMap ([','] ++ ·) ++ ['\x7d'] := by
  induction ms with
  | nil => rfl
  | cons e ms ih =>
    obtain ⟨name, v⟩ := e
    rw [renderMembers, ih, List.map_cons, List.flatMap_cons, memberText]
    simp

/-- **The text of an object** is its members in order, with commas between them. -/
theorem Value.render_object (ms : List (String × Value)) :
    (Value.object ms).render =
      '\x7b' :: ([','].intercalate (ms.map fun e => memberText e.1 e.2) ++ ['\x7d']) := by
  cases ms with
  | nil => rfl
  | cons e ms =>
    obtain ⟨name, v⟩ := e
    rw [render, renderMembers_eq, List.map_cons, intercalate_cons, memberText]
    simp

end SearchExport
