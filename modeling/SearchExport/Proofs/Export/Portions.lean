import SearchExport.Export.Sink

/-!
# Writing in portions

A device may take bytes in portions of any size, and what is written may come in pieces.  Neither changes
what the device has in the end and whether it refused: both follow from all the bytes together.

* `ByteTarget.Portioned` — pieces written to a device in portions.
* `ByteTarget.write_append` — writing in two parts.
* `ByteTarget.portioned_iff` — portions and pieces do not matter.
-/

set_option autoImplicit false

namespace SearchExport.ByteTarget

/-- There is room for so many more bytes. -/
def HasRoom (t : ByteTarget) (count : Nat) : Prop := ∀ n ∈ t.capacity, t.taken.length + count ≤ n

/-- The device has taken a few more bytes. -/
def took (t : ByteTarget) (bytes : List UInt8) : ByteTarget := { t with taken := t.taken ++ bytes }

/-- Pieces are written one after the other to a device that takes some bytes at a time, as many as it
likes but at least one, until there is no room for another one. -/
inductive Portioned : ByteTarget → List (List UInt8) → ByteTarget → Except String Unit → Prop where
  | done (t : ByteTarget) : Portioned t [] t (.ok ())
  /-- A piece is written, and the next one follows. -/
  | next {t t' : ByteTarget} {pieces : List (List UInt8)} {outcome : Except String Unit}
      (later : Portioned t pieces t' outcome) : Portioned t ([] :: pieces) t' outcome
  /-- The device takes the front of a piece. -/
  | portion {t t' : ByteTarget} {front rest : List UInt8} {pieces : List (List UInt8)}
      {outcome : Except String Unit} (hfront : front ≠ []) (hroom : t.HasRoom front.length)
      (later : Portioned (t.took front) (rest :: pieces) t' outcome) :
      Portioned t ((front ++ rest) :: pieces) t' outcome
  /-- The device is full. -/
  | full {t : ByteTarget} {piece : List UInt8} {pieces : List (List UInt8)} (hpiece : piece ≠ [])
      (hfull : ¬ t.HasRoom 1) : Portioned t (piece :: pieces) t (.error "no space left")

/-! ## Writing at once -/

variable {t t' : ByteTarget} {bytes : List UInt8} {n : Nat}

theorem hasRoom_iff (h : t.capacity = some n) (count : Nat) :
    t.HasRoom count ↔ t.taken.length + count ≤ n := by
  rw [HasRoom, h]
  constructor
  · intro hall
    exact hall n rfl
  · intro hle m hm
    rw [← Option.some.inj hm]
    exact hle

theorem write_unbounded (h : t.capacity = none) (bytes : List UInt8) :
    t.write bytes = (t.took bytes, .ok ()) := by
  obtain ⟨taken, capacity, flushFails⟩ := t
  cases h
  rfl

theorem write_bounded (h : t.capacity = some n) (bytes : List UInt8) :
    t.write bytes = (t.took (bytes.take (n - t.taken.length)),
      if bytes.length ≤ n - t.taken.length then .ok () else .error "no space left") := by
  obtain ⟨taken, capacity, flushFails⟩ := t
  cases h
  rfl

theorem write_nil : t.write [] = (t, .ok ()) := by
  have htook : t.took [] = t := by rw [took, List.append_nil]
  cases hcapacity : t.capacity with
  | none => rw [write_unbounded hcapacity, htook]
  | some n =>
    rw [write_bounded hcapacity, List.take_nil, htook, List.length_nil, if_pos (Nat.zero_le _)]

theorem write_of_hasRoom (h : t.HasRoom bytes.length) : t.write bytes = (t.took bytes, .ok ()) := by
  cases hcapacity : t.capacity with
  | none => exact write_unbounded hcapacity bytes
  | some n =>
    rw [hasRoom_iff hcapacity] at h
    have hfits : bytes.length ≤ n - t.taken.length := by omega
    rw [write_bounded hcapacity, List.take_of_length_le hfits, if_pos hfits]

theorem write_of_full (hbytes : bytes ≠ []) (h : ¬ t.HasRoom 1) :
    t.write bytes = (t, .error "no space left") := by
  have hpos : 0 < bytes.length := List.length_pos_iff.2 hbytes
  have htook : t.took [] = t := by rw [took, List.append_nil]
  cases hcapacity : t.capacity with
  | none =>
    refine absurd ?_ h
    intro n hn
    rw [hcapacity] at hn
    cases hn
  | some n =>
    rw [hasRoom_iff hcapacity] at h
    have hroom : n - t.taken.length = 0 := by omega
    rw [write_bounded hcapacity, hroom, List.take_zero, htook, if_neg (by omega)]

/-- Bytes are written in two parts as they are written at once. -/
theorem write_append (a b : List UInt8) :
    t.write (a ++ b) =
      match t.write a with
      | (t', .ok ()) => t'.write b
      | (t', .error e) => (t', .error e) := by
  have htook : ∀ c, (t.took a).took c = t.took (a ++ c) := fun c => by
    simp [took, List.append_assoc]
  cases hcapacity : t.capacity with
  | none =>
    have hlater : (t.took a).capacity = none := hcapacity
    rw [write_unbounded hcapacity a, write_unbounded hcapacity (a ++ b)]
    show _ = (t.took a).write b
    rw [write_unbounded hlater, htook]
  | some n =>
    have hlater : (t.took a).capacity = some n := hcapacity
    have hlength : (t.took a).taken.length = t.taken.length + a.length := List.length_append
    rw [write_bounded hcapacity a, write_bounded hcapacity (a ++ b)]
    by_cases hfits : a.length ≤ n - t.taken.length
    · rw [if_pos hfits, List.take_of_length_le hfits]
      show _ = (t.took a).write b
      rw [write_bounded hlater, htook, hlength, List.take_append, List.take_of_length_le hfits,
        List.length_append, Nat.sub_add_eq]
      by_cases hrest : b.length ≤ n - t.taken.length - a.length
      · rw [if_pos hrest, if_pos (by omega)]
      · rw [if_neg hrest, if_neg (by omega)]
    · rw [if_neg hfits, List.take_append_of_le_length (by omega), List.length_append,
        if_neg (by omega)]

/-! ## Portions -/

theorem Portioned.write_eq {pieces : List (List UInt8)} {outcome : Except String Unit}
    (h : t.Portioned pieces t' outcome) : t.write pieces.flatten = (t', outcome) := by
  induction h with
  | done t => exact write_nil
  | next later ih => exact ih
  | portion hfront hroom later ih =>
    rw [List.flatten_cons, List.append_assoc, write_append, write_of_hasRoom hroom]
    exact ih
  | full hpiece hfull =>
    refine write_of_full ?_ hfull
    rw [List.flatten_cons]
    exact List.append_ne_nil_of_left_ne_nil hpiece _

/-- Writing ends: a device that takes one byte at a time is one of those. -/
theorem exists_portioned (pieces : List (List UInt8)) :
    ∀ t : ByteTarget, ∃ t' outcome, t.Portioned pieces t' outcome := by
  induction pieces with
  | nil => exact fun t => ⟨t, _, .done t⟩
  | cons piece pieces ih =>
    induction piece with
    | nil =>
      intro t
      obtain ⟨t', outcome, h⟩ := ih t
      exact ⟨t', outcome, .next h⟩
    | cons b piece ihb =>
      intro t
      by_cases hroom : t.HasRoom 1
      · obtain ⟨t', outcome, h⟩ := ihb (t.took [b])
        exact ⟨t', outcome, .portion (List.cons_ne_nil b []) hroom h⟩
      · exact ⟨t, _, .full (List.cons_ne_nil _ _) hroom⟩

/-- **Portions and pieces do not matter**: however a device takes what it is given, it ends as if all
pieces had been written at once. -/
theorem portioned_iff {pieces : List (List UInt8)} {outcome : Except String Unit} :
    t.Portioned pieces t' outcome ↔ t.write pieces.flatten = (t', outcome) := by
  constructor
  · exact fun h => h.write_eq
  · intro h
    obtain ⟨t₁, outcome₁, hend⟩ := exists_portioned pieces t
    have heq := hend.write_eq.symm.trans h
    cases heq
    exact hend

end SearchExport.ByteTarget
