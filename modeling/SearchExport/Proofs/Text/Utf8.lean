import SearchExport.Export.Sink

/-!
# The bytes of a text

A text is written character by character, and only a newline is written with the byte 10.

* `utf8Bytes_append` — the bytes of a text in two parts.
* `newline_mem_utf8Bytes` — where the byte 10 comes from.
-/

set_option autoImplicit false

namespace SearchExport

theorem toList_loop_eq (bytes : ByteArray) (i : Nat) (acc : List UInt8) :
    ByteArray.toList.loop bytes i acc = acc.reverse ++ bytes.data.toList.drop i := by
  fun_induction ByteArray.toList.loop bytes i acc with
  | case1 i acc hi ih =>
    have hlength : i < bytes.data.toList.length := by simpa using hi
    rw [ih, List.drop_eq_getElem_cons hlength]
    simp [ByteArray.get!, hi]
  | case2 i acc hi =>
    rw [List.drop_eq_nil_of_le (by simpa using Nat.le_of_not_lt hi), List.append_nil]

theorem utf8Bytes_eq_flatMap (cs : List Char) : utf8Bytes cs = cs.flatMap String.utf8EncodeChar := by
  have hlist : (String.ofList cs).toUTF8.toList = (String.ofList cs).toUTF8.data.toList := by
    rw [ByteArray.toList, toList_loop_eq, List.reverse_nil, List.nil_append, List.drop_zero]
  rw [utf8Bytes, hlist, String.toUTF8_eq_toByteArray, String.toByteArray_ofList, List.utf8Encode,
    List.toList_data_toByteArray]

theorem utf8Bytes_append (cs ds : List Char) : utf8Bytes (cs ++ ds) = utf8Bytes cs ++ utf8Bytes ds := by
  simp only [utf8Bytes_eq_flatMap, List.flatMap_append]

theorem utf8Bytes_newline : utf8Bytes ['\n'] = [10] := by
  rw [utf8Bytes_eq_flatMap]
  rfl

theorem ofNat_ne_newline {n : Nat} (hlow : 128 ≤ n) (hhigh : n < 256) : (10 : UInt8) ≠ UInt8.ofNat n := by
  intro h
  have hvalue : (10 : UInt8).toNat = (UInt8.ofNat n).toNat := by rw [← h]
  rw [UInt8.toNat_ofNat', Nat.mod_eq_of_lt hhigh] at hvalue
  have hten : (10 : UInt8).toNat = 10 := rfl
  omega

/-- The bytes of a character outside of ASCII are all above those of ASCII. -/
theorem eq_newline_of_mem_utf8EncodeChar {c : Char} (h : 10 ∈ String.utf8EncodeChar c) : c = '\n' := by
  -- every byte but the first carries six bits above 128, and the first one more than that
  have htail : ∀ n, (10 : UInt8) ≠ UInt8.ofNat (n % 64 + 128) := fun n =>
    ofNat_ne_newline (by omega) (by omega)
  unfold String.utf8EncodeChar at h
  dsimp only at h
  split at h
  · next hascii =>
    have hvalue : (10 : UInt8).toNat = (UInt8.ofNat c.val.toNat).toNat := by
      rw [← List.mem_singleton.1 h]
    rw [UInt8.toNat_ofNat', Nat.mod_eq_of_lt (by omega)] at hvalue
    exact Char.ext (UInt32.toNat_inj.1 hvalue.symm)
  split at h
  · have hlead := ofNat_ne_newline (n := c.val.toNat / 64 % 32 + 192) (by omega) (by omega)
    simp only [List.mem_cons, hlead, htail, List.not_mem_nil, or_self] at h
  split at h
  · have hlead := ofNat_ne_newline (n := c.val.toNat / 4096 % 16 + 224) (by omega) (by omega)
    simp only [List.mem_cons, hlead, htail, List.not_mem_nil, or_self] at h
  · have hlead := ofNat_ne_newline (n := c.val.toNat / 262144 % 8 + 240) (by omega) (by omega)
    simp only [List.mem_cons, hlead, htail, List.not_mem_nil, or_self] at h

theorem newline_mem_utf8Bytes {cs : List Char} : 10 ∈ utf8Bytes cs ↔ '\n' ∈ cs := by
  rw [utf8Bytes_eq_flatMap, List.mem_flatMap]
  constructor
  · rintro ⟨c, hc, hmem⟩
    exact eq_newline_of_mem_utf8EncodeChar hmem ▸ hc
  · intro h
    exact ⟨'\n', h, by decide⟩

end SearchExport
