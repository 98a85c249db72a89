import SearchExport.Proofs.Export.Lines
import SearchExport.Proofs.Export.Portions
import SearchExport.Proofs.Export.Sinks
import SearchExport.Proofs.Fields.Collecting
import SearchExport.Proofs.Json.SingleLine
import SearchExport.Proofs.Text.Utf8

/-!
# Lines on a device that fills up

A device with room for `n` bytes ends with the first `n` bytes of all lines, wherever that cuts them, and
the number of lines that the writer counts is the number of newlines on the device.

* `Message.rowText` — an object with the names as its keys; `Message.render_row` — it is what is written of a
  message.
* `Message.newline_not_mem_rowBytes`, `splitOn_framed` — the newlines are those at the ends of the rows.
* `LineWriter.Cut` — the writer has put on the device what fits; `Cut.writeAll`, `Cut.accept`,
  `Cut.of_takes` — it stays so for one message after the other, for a chunk and for many.
* `LineWriter.cut_at_capacity` — a whole run.
-/

set_option autoImplicit false

namespace SearchExport

/-! ## Rows -/

/-- The text of a row: an object with each of the names once, where it came first, and the value of the message
or null. -/
def Message.rowText (names : List String) (m : Message) : List Char :=
  '\x7b' :: ([','].intercalate
    (names.eraseDups.map fun name => memberText name ((m.get? name).getD .null)) ++ ['\x7d'])

/-- What is written of a message is the text of its row. -/
theorem Message.render_row (names : List String) (m : Message) :
    (m.row names).toValue.render = m.rowText names := by
  rw [Fields.toValue, m.entries_row, Value.render_object, List.map_map]
  rfl

/-! ## Framing -/

/-- The bytes of the row of a message. -/
def Message.rowBytes (fields : List String) (m : Message) : List UInt8 := utf8Bytes (m.rowText fields)

/-- The rows of a chunk. -/
def Chunk.rows (c : Chunk) : List (List UInt8) := c.messages.map (Message.rowBytes c.fields)

/-- Every row with a newline behind it. -/
def framed (rows : List (List UInt8)) : List UInt8 := rows.flatMap fun row => row ++ [10]

theorem Message.utf8Bytes_line (fields : List String) (m : Message) :
    utf8Bytes (m.line fields) = m.rowBytes fields ++ [10] := by
  rw [line, utf8Bytes_append, utf8Bytes_newline, m.render_row, rowBytes]

theorem Message.newline_not_mem_rowBytes (fields : List String) (m : Message) :
    10 ∉ m.rowBytes fields := by
  rw [rowBytes, newline_mem_utf8Bytes, ← m.render_row]
  exact Value.newline_not_mem_render _

theorem Chunk.newline_not_mem_rows {c : Chunk} {row : List UInt8} (h : row ∈ c.rows) : 10 ∉ row := by
  obtain ⟨m, -, rfl⟩ := List.mem_map.1 h
  exact m.newline_not_mem_rowBytes c.fields

theorem framed_cons (row : List UInt8) (rows : List (List UInt8)) :
    framed (row :: rows) = row ++ [10] ++ framed rows := List.flatMap_cons

theorem framed_append (rows rows' : List (List UInt8)) :
    framed (rows ++ rows') = framed rows ++ framed rows' := List.flatMap_append

/-- **Lines are told apart by their newlines** when no row has one. -/
theorem splitOn_framed {rows : List (List UInt8)} (h : ∀ row ∈ rows, 10 ∉ row) :
    (framed rows).splitOn 10 = rows ++ [[]] := by
  induction rows with
  | nil => rfl
  | cons row rows ih =>
    obtain ⟨hrow, hrows⟩ := List.forall_mem_cons.1 h
    rw [framed_cons, List.append_assoc, List.singleton_append,
      List.splitOn_append_cons_self_of_not_mem hrow, ih hrows, List.cons_append]

theorem count_take_line {before row : List UInt8} {n : Nat} (hrow : 10 ∉ row)
    (hbefore : before.length ≤ n) (hlong : n < (before ++ (row ++ [10])).length) :
    ((before ++ (row ++ [10])).take n).count 10 = before.count 10 := by
  simp only [List.length_append, List.length_singleton] at hlong
  -- the newline of a line comes last, so that it is cut off first
  have hcut : (row ++ [10]).take (n - before.length) = row.take (n - before.length) :=
    List.take_append_of_le_length (by omega)
  have hnone : (row.take (n - before.length)).count 10 = 0 :=
    List.count_eq_zero.2 fun h => hrow (List.mem_of_mem_take h)
  rw [List.take_append, List.take_of_length_le hbefore, hcut, List.count_append, hnone, Nat.add_zero]

/-! ## A device that fills up -/

namespace LineWriter

/-- The device of a writer has room for `n` bytes and has what fits of `full`, and the writer has counted
the newlines on it. -/
structure Cut (n : Nat) (full : List UInt8) (w : LineWriter) : Prop where
  capacity : w.target.capacity = some n
  flushes : w.target.flushFails = false
  taken : w.target.taken = full.take n
  written : w.written = w.target.taken.count 10

variable {n : Nat} {full : List UInt8} {w : LineWriter}

theorem Cut.start (n : Nat) : Cut n [] { target := { capacity := some n } } where
  capacity := rfl
  flushes := rfl
  taken := List.take_nil.symm
  written := rfl

/-- A full device takes nothing more. -/
theorem Cut.append (h : Cut n full w) (hfull : n ≤ full.length) (more : List UInt8) :
    Cut n (full ++ more) w :=
  { h with taken := by rw [h.taken, List.take_append_of_le_length hfull] }

/-- **One line**: it is written as far as there is room, and counts when that is the whole of it. -/
theorem Cut.write_line (h : Cut n full w) (hfull : full.length ≤ n) {row : List UInt8}
    (hrow : 10 ∉ row) :
    ∃ target,
      ((full ++ (row ++ [10])).length ≤ n ∧ w.target.write (row ++ [10]) = (target, .ok ()) ∧
        Cut n (full ++ (row ++ [10])) ⟨target, w.written + 1⟩) ∨
      (n < (full ++ (row ++ [10])).length ∧
        w.target.write (row ++ [10]) = (target, .error "no space left") ∧
        Cut n (full ++ (row ++ [10])) { w with target := target }) := by
  obtain ⟨target, htarget⟩ :
      ∃ target, target = w.target.took ((row ++ [10]).take (n - full.length)) := ⟨_, rfl⟩
  have htaken : w.target.taken = full := by rw [h.taken, List.take_of_length_le hfull]
  have hwritten : w.written = full.count 10 := by rw [h.written, htaken]
  have htook : target.taken = (full ++ (row ++ [10])).take n := by
    rw [List.take_append, List.take_of_length_le hfull, htarget, ← htaken]
    rfl
  have hcapacity : target.capacity = some n := htarget ▸ h.capacity
  have hflushes : target.flushFails = false := htarget ▸ h.flushes
  have hwrite := ByteTarget.write_bounded h.capacity (row ++ [10])
  rw [htaken, ← htarget] at hwrite
  have hlength : (full ++ (row ++ [10])).length = full.length + (row ++ [10]).length :=
    List.length_append
  refine ⟨target, ?_⟩
  rcases Nat.lt_or_ge n (full ++ (row ++ [10])).length with hlong | hfits
  · rw [if_neg (by omega)] at hwrite
    have hcount : w.written = target.taken.count 10 := by
      rw [htook, count_take_line hrow hfull hlong, hwritten]
    exact .inr ⟨hlong, hwrite, ⟨hcapacity, hflushes, htook, hcount⟩⟩
  · rw [if_pos (by omega)] at hwrite
    have hnone : row.count 10 = 0 := List.count_eq_zero.2 hrow
    have hcount : w.written + 1 = target.taken.count 10 := by
      rw [htook, List.take_of_length_le hfits, List.count_append, List.count_append, hnone, hwritten]
      rfl
    exact .inl ⟨hfits, hwrite, ⟨hcapacity, hflushes, htook, hcount⟩⟩

/-- **Many messages**: their lines are written as far as there is room. -/
theorem Cut.writeAll (fields : List String) (ms : List Message) (h : Cut n full w)
    (hfull : full.length ≤ n) :
    Cut n (full ++ framed (ms.map (Message.rowBytes fields))) (writeAll fields w ms).1 ∧
      (LineWriter.writeAll fields w ms).2 =
        if (full ++ framed (ms.map (Message.rowBytes fields))).length ≤ n then .ok ()
        else .error "no space left" := by
  induction ms generalizing full w with
  | nil =>
    have hnothing : full ++ framed ([].map (Message.rowBytes fields)) = full := List.append_nil full
    rw [hnothing, if_pos hfull]
    exact ⟨h, rfl⟩
  | cons m ms ih =>
    rw [List.map_cons, framed_cons, ← List.append_assoc, writeAll_cons, m.utf8Bytes_line]
    obtain ⟨target, ⟨hfits, hwrite, hcut⟩ | ⟨hlong, hwrite, hcut⟩⟩ :=
      h.write_line hfull (m.newline_not_mem_rowBytes fields)
    · rw [hwrite]
      exact ih hcut hfits
    · have hall : ¬ (full ++ (m.rowBytes fields ++ [10]) ++
          framed (ms.map (Message.rowBytes fields))).length ≤ n := by
        rw [List.length_append]
        omega
      rw [hwrite, if_neg hall]
      exact ⟨hcut.append (Nat.le_of_lt hlong) _, rfl⟩

/-- **A chunk** is accepted when there is room for all its lines. -/
theorem Cut.accept (c : Chunk) (h : Cut n full w) (hfull : full.length ≤ n) :
    Cut n (full ++ framed c.rows) (Sink.ndjson.accept w c).1 ∧
      (Sink.ndjson.accept w c).2 =
        if (full ++ framed c.rows).length ≤ n then .ok ()
        else .error (.sink "Failed to write message: no space left") := by
  obtain ⟨hcut, houtcome⟩ := h.writeAll c.fields c.messages hfull
  obtain ⟨w', outcome, hwrite⟩ :
      ∃ w' outcome, LineWriter.writeAll c.fields w c.messages = (w', outcome) := ⟨_, _, rfl⟩
  rw [hwrite] at hcut houtcome
  by_cases hfits : (full ++ framed c.rows).length ≤ n
  · have haccept : Sink.ndjson.accept w c = (w', .ok ()) := by
      rw [Chunk.rows] at hfits
      have hflushes : w'.target.flushFails = false := hcut.flushes
      rw [if_pos hfits] at houtcome
      cases houtcome
      simp only [Sink.ndjson, LineWriter.accept, hwrite, ByteTarget.flush, hflushes]
      rfl
    rw [haccept, if_pos hfits]
    exact ⟨hcut, rfl⟩
  · have haccept : Sink.ndjson.accept w c =
        (w', .error (.sink "Failed to write message: no space left")) := by
      rw [Chunk.rows] at hfits
      rw [if_neg hfits] at houtcome
      cases houtcome
      simp only [Sink.ndjson, LineWriter.accept, hwrite]
      rfl
    rw [haccept, if_neg hfits]
    exact ⟨hcut, rfl⟩

/-- **Many chunks** that were all accepted. -/
theorem Cut.of_takes {cs : List Chunk} {w' : LineWriter} (h : Cut n full w)
    (htakes : Sink.ndjson.Takes w cs w') (hfull : full.length ≤ n) :
    Cut n (full ++ framed (cs.flatMap Chunk.rows)) w' ∧
      (full ++ framed (cs.flatMap Chunk.rows)).length ≤ n := by
  induction htakes generalizing full with
  | nil w =>
    have hnothing : full ++ framed ([].flatMap Chunk.rows) = full := List.append_nil full
    rw [hnothing]
    exact ⟨h, hfull⟩
  | @cons w w₁ w₂ c cs haccept later ih =>
    obtain ⟨hcut, houtcome⟩ := h.accept c hfull
    rw [haccept] at hcut houtcome
    have hfits : (full ++ framed c.rows).length ≤ n := by
      by_contra hlong
      rw [if_neg hlong] at houtcome
      cases houtcome
    rw [List.flatMap_cons, framed_append, ← List.append_assoc]
    exact ih hcut hfits

/-- **Many chunks** up to one that was refused: the device is full. -/
theorem Cut.of_refuses {cs : List Chunk} {k : Nat} {c : Chunk} {w₁ w' : LineWriter}
    {error : ExportError} (h : Cut n full w) (htakes : Sink.ndjson.Takes w (cs.take k) w₁)
    (hc : cs[k]? = some c) (hrefuse : Sink.ndjson.accept w₁ c = (w', .error error))
    (hfull : full.length ≤ n) :
    Cut n (full ++ framed (cs.flatMap Chunk.rows)) w' ∧
      n < (full ++ framed (cs.flatMap Chunk.rows)).length ∧
      error = .sink "Failed to write message: no space left" := by
  obtain ⟨hk, rfl⟩ := List.getElem?_eq_some_iff.1 hc
  have hall : full ++ framed (cs.flatMap Chunk.rows) =
      full ++ framed ((cs.take k).flatMap Chunk.rows) ++ framed cs[k].rows ++
        framed ((cs.drop (k + 1)).flatMap Chunk.rows) := by
    rw [List.append_assoc, List.append_assoc, ← framed_append, ← List.flatMap_cons,
      List.getElem_cons_drop, ← framed_append, ← List.flatMap_append, List.take_append_drop]
  obtain ⟨hbefore, hfits⟩ := h.of_takes htakes hfull
  obtain ⟨hcut, houtcome⟩ := hbefore.accept cs[k] hfits
  rw [hrefuse] at hcut houtcome
  generalize full ++ framed ((cs.take k).flatMap Chunk.rows) ++ framed cs[k].rows = before at *
  have hlong : ¬ before.length ≤ n := by
    intro hle
    rw [if_pos hle] at houtcome
    cases houtcome
  rw [if_neg hlong] at houtcome
  cases houtcome
  rw [hall]
  refine ⟨hcut.append (by omega) _, ?_, rfl⟩
  rw [List.length_append]
  omega

/-- **A device with room for `n` bytes** that chunks are written to until one is refused ends with the
first `n` bytes of all lines, and the newlines on it are the messages counted.  All chunks are accepted
when there is room for all lines; otherwise the one that is cut is refused by the sink.  The lines are the
rows, which have no newline inside, and the row of a message is the text of an object with the names of its
chunk as keys, each once, and the values of the message or null.  How the device takes what it is given does
not matter. -/
theorem cut_at_capacity (n : Nat) (cs : List Chunk) :
    let full := framed (cs.flatMap Chunk.rows)
    let start : LineWriter := { target := { capacity := some n } }
    let last := Sink.ndjson.offered start cs
    (last.target.taken = full.take n ∧ last.written = last.target.taken.count 10) ∧
      (Sink.ndjson.Takes start cs last ↔ full.length ≤ n) ∧
      (full.length ≤ n ∨ ∃ k c w, cs[k]? = some c ∧ Sink.ndjson.Takes start (cs.take k) w ∧
        Sink.ndjson.accept w c =
          (last, .error (.sink "Failed to write message: no space left"))) ∧
      full.splitOn 10 = cs.flatMap Chunk.rows ++ [[]] ∧
      (∀ c ∈ cs, c.rows = c.messages.map fun m => utf8Bytes ('\x7b' ::
        ([','].intercalate (c.fields.eraseDups.map fun name =>
          quoted name.toList ++ ':' :: ((m.get? name).getD .null).render) ++ ['\x7d']))) ∧
      (∀ (m : Message) (names : List String), (m.row names).entries =
        names.eraseDups.map fun name => (name, (m.get? name).getD .null)) ∧
      (∀ (t t' : ByteTarget) (pieces : List (List UInt8)) (outcome : Except String Unit),
        t.Portioned pieces t' outcome ↔ t.write pieces.flatten = (t', outcome)) := by
  intro full start last
  have hrows : ∀ row ∈ cs.flatMap Chunk.rows, 10 ∉ row := by
    intro row hrow
    obtain ⟨c, -, hc⟩ := List.mem_flatMap.1 hrow
    exact Chunk.newline_not_mem_rows hc
  have hrun : Cut n full last ∧ (Sink.ndjson.Takes start cs last ↔ full.length ≤ n) ∧
      (full.length ≤ n ∨ ∃ k c w, cs[k]? = some c ∧ Sink.ndjson.Takes start (cs.take k) w ∧
        Sink.ndjson.accept w c =
          (last, .error (.sink "Failed to write message: no space left"))) := by
    rcases Sink.ndjson.takes_or_refuses start cs with
      htakes | ⟨k, c, w, error, hc, htakes, hrefuse⟩
    · obtain ⟨hcut, hfits⟩ := (Cut.start n).of_takes htakes (Nat.zero_le n)
      exact ⟨hcut, ⟨fun _ => hfits, fun _ => htakes⟩, .inl hfits⟩
    · obtain ⟨hcut, hlong, rfl⟩ := (Cut.start n).of_refuses htakes hc hrefuse (Nat.zero_le n)
      have hnot : ¬ full.length ≤ n := Nat.not_le.2 hlong
      refine ⟨hcut, ⟨fun hall => ?_, fun hfits => absurd hfits hnot⟩,
        .inr ⟨k, c, w, hc, htakes, hrefuse⟩⟩
      exact ((Cut.start n).of_takes hall (Nat.zero_le n)).2
  obtain ⟨hcut, htakes, hrefused⟩ := hrun
  exact ⟨⟨hcut.taken, hcut.written⟩, htakes, hrefused, splitOn_framed hrows, fun _ _ => rfl,
    fun m names => m.entries_row names, fun _ _ _ _ => ByteTarget.portioned_iff⟩

/-- Two rows with a name asked for twice, a quote and a newline inside a text, and room up to the middle of a
character of the second row. -/
theorem cut_at_capacity_of_two_rows :
    let names := ["b", "a", "b"]
    let cs : List Chunk := [
      ⟨names, [⟨"graylog_0", .ofList [("a", .string "x\n\"y"), ("c", .bool true)]⟩], true⟩,
      ⟨names, [⟨"graylog_1", .ofList [("a", .array [.object [("k", .null)], .bool false]),
        ("b", .string "é")]⟩], false⟩]
    let start : LineWriter := { target := { capacity := some 31 } }
    let last := Sink.ndjson.offered start cs
    framed (cs.flatMap Chunk.rows) =
        ("\x7b\"b\":null,\"a\":\"x\\n\\\"y\"\x7d\n" ++
          "\x7b\"b\":\"é\",\"a\":[\x7b\"k\":null\x7d,false]\x7d\n").toUTF8.toList ∧
      last.target.taken = "\x7b\"b\":null,\"a\":\"x\\n\\\"y\"\x7d\n\x7b\"b\":\"".toUTF8.toList ++ [0xc3] ∧
      last.written = 1 ∧ ¬ Sink.ndjson.Takes start cs last := by
  intro names cs start last
  obtain ⟨⟨htaken, hwritten⟩, htakes, -⟩ := cut_at_capacity 31 cs
  have hfull : framed (cs.flatMap Chunk.rows) =
      ("\x7b\"b\":null,\"a\":\"x\\n\\\"y\"\x7d\n" ++
        "\x7b\"b\":\"é\",\"a\":[\x7b\"k\":null\x7d,false]\x7d\n").toUTF8.toList := by
    decide +kernel
  have hcut : last.target.taken =
      "\x7b\"b\":null,\"a\":\"x\\n\\\"y\"\x7d\n\x7b\"b\":\"".toUTF8.toList ++ [0xc3] := by
    rw [htaken, hfull]
    decide +kernel
  refine ⟨hfull, hcut, ?_, ?_⟩
  · rw [hwritten, hcut]
    decide +kernel
  · rw [htakes, hfull]
    decide +kernel

end LineWriter

end SearchExport
