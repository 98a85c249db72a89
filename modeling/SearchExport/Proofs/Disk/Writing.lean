import SearchExport.Disk
import SearchExport.Proofs.Fields.Lookup

/-!
# Writing files

What writing a file changes on a disk: the file, and nothing else.

* `Disk.node?_put_self`, `Disk.node?_put_of_ne` — what stands where after one node was put down.
* `Disk.locate_put` — a file that is put down is in no path's way.
* `Disk.read_eq_ok_iff`, `Disk.write_eq_ok_iff` — when reading and writing succeed, and with what.
* `Disk.write_spec` — a file that was written has its content, and all other places are as before.
* `Disk.write_write` — writing a content for the second time changes nothing.
-/

set_option autoImplicit false

namespace SearchExport

namespace Disk

variable {d d' : Disk} {p q : Place} {n : Node} {path content : String}

/-! ## Places -/

@[simp] theorem node?_root (d : Disk) : d.node? [] = some .directory := rfl

theorem node?_of_ne_root (hp : p ≠ []) : d.node? p = lookupEntry (pathOf p) d.entries := by
  rw [node?, if_neg hp]

theorem ne_root_of_node? (h : d.node? p ≠ some .directory) : p ≠ [] := by
  rintro rfl
  exact h d.node?_root

theorem node?_put_self (hp : p ≠ []) : (d.put p n).node? p = some n := by
  rw [node?_of_ne_root hp, put, lookupEntry_insertEntry, if_pos rfl]

theorem node?_put_of_ne (hq : pathOf q ≠ pathOf p) : (d.put p n).node? q = d.node? q := by
  by_cases hroot : q = []
  · rw [hroot, node?_root, node?_root]
  · rw [node?_of_ne_root hroot, node?_of_ne_root hroot, put, lookupEntry_insertEntry, if_neg hq]

theorem put_put (d : Disk) (p : Place) (n : Node) : (d.put p n).put p n = d.put p n := by
  simp [put, insertEntry_insertEntry]

/-- A node that is put down where no directory stands leaves all directories. -/
theorem directory_put (hp : d.node? p ≠ some .directory) (hq : d.node? q = some .directory) :
    (d.put p n).node? q = some .directory := by
  by_cases hroot : q = []
  · rw [hroot, node?_root]
  · have hne : pathOf q ≠ pathOf p := by
      intro hsame
      rw [node?_of_ne_root (ne_root_of_node? hp), ← hsame, ← node?_of_ne_root hroot] at hp
      exact hp hq
    rw [node?_put_of_ne hne, hq]

/-! ## Paths -/

theorem requireDirectory_eq_ok_iff :
    d.requireDirectory p = .ok () ↔ d.node? p = some .directory := by
  unfold requireDirectory
  split <;> simp_all

theorem walk_cons_eq_ok_iff {name : String} {names : List String} :
    d.walk p (name :: names) = .ok q ↔
      d.node? p = some .directory ∧ d.walk (stepTo p name) names = .ok q := by
  rw [← requireDirectory_eq_ok_iff, walk]
  cases d.requireDirectory p with
  | error f => simp [bind, Except.bind]
  | ok => simp [bind, Except.bind]

/-- Names lead to the same place when a node was put down where no directory stood. -/
theorem walk_put (hp : d.node? p ≠ some .directory) {names : List String} {start : Place}
    (h : d.walk start names = .ok q) : (d.put p n).walk start names = .ok q := by
  induction names generalizing start with
  | nil => exact h
  | cons name names ih =>
    obtain ⟨hstart, hrest⟩ := walk_cons_eq_ok_iff.1 h
    -- each directory on the way is still one
    exact walk_cons_eq_ok_iff.2 ⟨directory_put hp hstart, ih hrest⟩

theorem locate_put (hp : d.node? p ≠ some .directory) (h : d.locate path = .ok q) :
    (d.put p n).locate path = .ok q := by
  by_cases hempty : path = ""
  · simp [locate, hempty] at h
  · simp only [locate, hempty, if_false] at h ⊢
    exact walk_put hp h

/-! ## Reading and writing -/

theorem read_eq_ok_iff :
    d.read path = .ok content ↔
      ∃ p, d.locate path = .ok p ∧ d.node? p = some (.file content) := by
  unfold read
  cases d.locate path with
  | error f => simp [bind, Except.bind]
  | ok p =>
    simp only [bind, Except.bind, Except.ok.injEq, exists_eq_left']
    cases d.node? p with
    | none => simp [throw, throwThe, MonadExceptOf.throw]
    | some n => cases n <;> simp [throw, throwThe, MonadExceptOf.throw, pure, Except.pure]

theorem write_eq_ok_iff :
    d.write path content = .ok d' ↔
      ∃ p, d.locate path = .ok p ∧ d.node? p ≠ some .directory ∧ d' = d.put p (.file content) := by
  unfold write
  cases d.locate path with
  | error f => simp [bind, Except.bind]
  | ok p =>
    simp only [bind, Except.bind, Except.ok.injEq, exists_eq_left']
    cases d.node? p with
    | none => simp [pure, Except.pure, eq_comm]
    | some n =>
      cases n <;> simp [throw, throwThe, MonadExceptOf.throw, pure, Except.pure, eq_comm]

/-- **A file that was written** has its content, and all other places are as before. -/
theorem write_spec (h : d.write path content = .ok d') :
    ∃ p, d.locate path = .ok p ∧ d'.read path = .ok content ∧
      ∀ q, pathOf q ≠ pathOf p → d'.node? q = d.node? q := by
  obtain ⟨p, hlocate, hp, rfl⟩ := write_eq_ok_iff.1 h
  refine ⟨p, hlocate, read_eq_ok_iff.2 ⟨p, locate_put hp hlocate, ?_⟩, fun q hq => ?_⟩
  · exact node?_put_self (ne_root_of_node? hp)
  · exact node?_put_of_ne hq

/-- Writing a content for the second time changes nothing. -/
theorem write_write (h : d.write path content = .ok d') : d'.write path content = .ok d' := by
  obtain ⟨p, hlocate, hp, rfl⟩ := write_eq_ok_iff.1 h
  refine write_eq_ok_iff.2 ⟨p, locate_put hp hlocate, ?_, (put_put d p _).symm⟩
  rw [node?_put_self (ne_root_of_node? hp)]
  simp

end Disk

end SearchExport
