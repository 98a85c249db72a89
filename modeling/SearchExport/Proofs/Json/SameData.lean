import Mathlib.Data.List.Forall2
import Mathlib.Data.Option.Basic
import SearchExport.Json.Value

/-!
# Values of the same data

Values that are compared as data may list the members of their objects in another order, and zero may carry
another sign.  Two values that are equal hold the same data; the converse holds for texts, lists of texts and
whatever else has no members and no doubles.

* `Value.SameData` — the relation; `Value.SameData.refl` — equal values hold the same data.
* `Value.sameData_string_iff`, `Value.sameData_ofNat_iff`, `Value.sameData_ofTexts_iff` — values that leave no
  choice.
* `Value.sameData_array_iff`, `Value.SameData.lookup` — items by their places, members by their names.
-/

set_option autoImplicit false

namespace SearchExport

/-- Numbers that compare as equal: the two zeros do, and otherwise only a number with itself. -/
inductive Number.SameValue : Number → Number → Prop
  | same (n : Number) : SameValue n n
  | zeros {x y : Binary64} (hx : x.isZero = true) (hy : y.isZero = true) :
    SameValue (.double x) (.double y)

namespace Value

/-- Values that compare as equal: the order of members does not count. -/
inductive SameData : Value → Value → Prop
  | null : SameData .null .null
  | bool (b : Bool) : SameData (.bool b) (.bool b)
  | number {m n : Number} (h : m.SameValue n) : SameData (.number m) (.number n)
  | string (s : String) : SameData (.string s) (.string s)
  | array {vs ws : List Value} (h : List.Forall₂ SameData vs ws) : SameData (.array vs) (.array ws)
  | object {ms ns : List (String × Value)}
    (h : ∀ name, Option.Rel SameData (lookupEntry name ms) (lookupEntry name ns)) :
    SameData (.object ms) (.object ns)

/-! ## Equal values -/

mutual

/-- **Equal values** hold the same data. -/
theorem SameData.refl : ∀ v : Value, v.SameData v
  | .null => .null
  | .bool b => .bool b
  | .number n => .number (.same n)
  | .string s => .string s
  | .array vs => .array (SameData.refl_items vs)
  | .object ms => .object (SameData.refl_members ms)

theorem SameData.refl_items : ∀ vs : List Value, List.Forall₂ SameData vs vs
  | [] => .nil
  | v :: vs => .cons (SameData.refl v) (SameData.refl_items vs)

theorem SameData.refl_members : ∀ (ms : List (String × Value)) (name : String),
    Option.Rel SameData (lookupEntry name ms) (lookupEntry name ms)
  | [], _ => .none
  | (k, v) :: ms, name => by
    rw [lookupEntry]
    split
    · exact .some (SameData.refl v)
    · exact SameData.refl_members ms name

end

/-! ## Parts -/

theorem sameData_string_iff {s t : String} : SameData (.string s) (.string t) ↔ s = t := by
  constructor
  · rintro ⟨⟩
    rfl
  · rintro rfl
    exact .string s

theorem sameData_bool_iff {a b : Bool} : SameData (.bool a) (.bool b) ↔ a = b := by
  constructor
  · rintro ⟨⟩
    rfl
  · rintro rfl
    exact .bool a

theorem sameData_ofNat_iff {m n : Nat} : SameData (.ofNat m) (.ofNat n) ↔ m = n := by
  constructor
  · rintro (_ | _ | ⟨⟨⟩⟩)
    rfl
  · rintro rfl
    exact SameData.refl _

theorem sameData_array_iff {vs ws : List Value} :
    SameData (.array vs) (.array ws) ↔ List.Forall₂ SameData vs ws := by
  constructor
  · rintro (_ | _ | _ | _ | h)
    exact h
  · exact .array

theorem sameData_ofTexts_iff {xs ys : List String} : SameData (.ofTexts xs) (.ofTexts ys) ↔ xs = ys := by
  rw [ofTexts, ofTexts, sameData_array_iff, List.forall₂_map_left_iff, List.forall₂_map_right_iff]
  simp only [sameData_string_iff, List.forall₂_eq_eq_eq]

/-- Members of one name hold the same data. -/
theorem SameData.lookup {ms ns : List (String × Value)} (h : SameData (.object ms) (.object ns))
    (name : String) : Option.Rel SameData (lookupEntry name ms) (lookupEntry name ns) := by
  cases h with
  | object h => exact h name

/-- Members in front that are equal leave the others as they are. -/
theorem SameData.of_append (front : List (String × Value)) {ms ns : List (String × Value)}
    (h : SameData (.object ms) (.object ns)) : SameData (.object (front ++ ms)) (.object (front ++ ns)) := by
  induction front with
  | nil => exact h
  | cons e front ih =>
    obtain ⟨k, v⟩ := e
    refine .object fun name => ?_
    simp only [List.cons_append, lookupEntry]
    split
    · exact .some (SameData.refl v)
    · exact ih.lookup name

end Value

end SearchExport
