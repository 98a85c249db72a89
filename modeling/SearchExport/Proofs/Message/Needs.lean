import SearchExport.Proofs.Fields.Lookup
import SearchExport.Proofs.Text.Pieces

/-!
# What decorators need

Which fields of a message have to be known so that some of its fields are known after the decorators.
The answer goes backwards through the decorators: one that sets a field needs what it reads, and the old
value of the field when it may leave it alone.

* `Decoration.needs` — one decorator; `Decoration.apply_agree` — messages that agree on what it needs
  agree afterwards.
* `neededFields` — all decorators; `decorateMessage_agree` — the same for all of them.
* `row_decorateMessage_congr` — the row of a decorated message depends on the needed fields only.
-/

set_option autoImplicit false

namespace SearchExport

/-- The fields that the placeholders of a pattern name. -/
def patternFields (pattern : String) : List String :=
  (Text.tokens (patternSegments pattern)).map placeholderField

/-- The fields that have to be known before a decorator for the fields `live` to be known after it. -/
def Decoration.needs (d : Decoration) (live : List String) : List String :=
  match d with
  | .formatString target pattern requireAll =>
    if target ∈ live then
      patternFields pattern ++ if requireAll then live else live.filter (· ≠ target)
    else live
  | .syslogSeverity source target => if target ∈ live then source :: live else live
  | .fieldRename source target =>
    if source = target then live
    else live.filter (· ≠ source) ++ if target ∈ live then [source] else []

/-- The fields that have to be known before all decorators for the fields `live` to be known after
them. -/
def neededFields (ds : List Decorator) (live : List String) : List String :=
  (inApplicationOrder ds).foldr (fun d live => d.decoration.needs live) live

/-- Both messages have the same values under these names. -/
def Message.AgreeOn (names : List String) (m m' : Message) : Prop :=
  ∀ name ∈ names, m.get? name = m'.get? name

theorem Message.AgreeOn.mono {names names' : List String} {m m' : Message}
    (h : m.AgreeOn names m') (hsub : names' ⊆ names) : m.AgreeOn names' m' :=
  fun name hname => h name (hsub hname)

/-! ## Patterns -/

theorem renderPattern_congr {pattern : String} {m m' : Message}
    (h : m.AgreeOn (patternFields pattern) m') (requireAll : Bool) :
    renderPattern pattern m requireAll = renderPattern pattern m' requireAll := by
  have hfield : ∀ t ∈ Text.tokens (patternSegments pattern),
      m.get? (placeholderField t) = m'.get? (placeholderField t) := fun t ht =>
    h _ (List.mem_map_of_mem ht)
  have htext : Text.render (placeholderText m) (patternSegments pattern) =
      Text.render (placeholderText m') (patternSegments pattern) :=
    Text.render_congr fun t ht => by rw [placeholderText, placeholderText, hfield t ht]
  have hmissing : (Text.tokens (patternSegments pattern)).any (placeholderIsMissing m) =
      (Text.tokens (patternSegments pattern)).any (placeholderIsMissing m') := by
    rw [Bool.eq_iff_iff, List.any_eq_true, List.any_eq_true]
    refine exists_congr fun t => and_congr_right fun ht => ?_
    rw [placeholderIsMissing, placeholderIsMissing, hfield t ht]
  unfold renderPattern
  dsimp only
  rw [htext, hmissing]

/-- A pattern that does not require all fields always has a text. -/
theorem renderPattern_of_not_required (pattern : String) (m : Message) :
    ∃ s, renderPattern pattern m false = some s := ⟨_, rfl⟩

/-! ## Decorators -/

namespace Decoration

section Values

variable (m : Message) (name source target : String)

theorem get?_apply_formatString (pattern : String) (requireAll : Bool) :
    ((formatString target pattern requireAll).apply m).get? name =
      if name = target then
        ((renderPattern pattern m requireAll).map Value.string).or (m.get? target)
      else m.get? name := by
  simp only [apply]
  cases renderPattern pattern m requireAll with
  | some s => rw [Message.get?_set]; rfl
  | none => by_cases h : name = target <;> simp [h]

theorem get?_apply_syslogSeverity :
    ((syslogSeverity source target).apply m).get? name =
      if name = target then
        (((m.get? source).bind severityName?).map Value.string).or (m.get? target)
      else m.get? name := by
  simp only [apply]
  cases (m.get? source).bind severityName? with
  | some s => rw [Message.get?_set]; rfl
  | none => by_cases h : name = target <;> simp [h]

theorem get?_apply_fieldRename :
    ((fieldRename source target).apply m).get? name =
      if source = target then m.get? name
      else if name = source then none
      else if name = target then (m.get? source).or (m.get? target)
      else m.get? name := by
  by_cases h : source = target
  · subst h
    simp [apply, Fields.rename]
  · rw [if_neg h]
    exact m.fields.get?_rename name h

end Values

/-- **One decorator**: messages that agree on what it needs agree after it. -/
theorem apply_agree (d : Decoration) {live : List String} {m m' : Message}
    (h : m.AgreeOn (d.needs live) m') : (d.apply m).AgreeOn live (d.apply m') := by
  intro name hname
  cases d with
  | formatString target pattern requireAll =>
    rw [get?_apply_formatString, get?_apply_formatString]
    simp only [needs] at h
    by_cases htarget : target ∈ live
    · rw [if_pos htarget] at h
      rw [renderPattern_congr (h.mono (List.subset_append_left _ _)) requireAll]
      have hlive := h.mono (List.subset_append_right _ _)
      by_cases heq : name = target
      · subst heq
        -- the old value is only needed when the field may be left alone
        cases requireAll with
        | true => simp [hlive name hname]
        | false =>
          obtain ⟨s, hs⟩ := renderPattern_of_not_required pattern m'
          simp [hs]
      · rw [if_neg heq, if_neg heq]
        cases requireAll with
        | true => exact hlive name hname
        | false => exact hlive name (by simp [hname, heq])
    · rw [if_neg htarget] at h
      have heq : name ≠ target := fun heq => htarget (heq ▸ hname)
      rw [if_neg heq, if_neg heq]
      exact h name hname
  | syslogSeverity source target =>
    rw [get?_apply_syslogSeverity, get?_apply_syslogSeverity]
    simp only [needs] at h
    by_cases htarget : target ∈ live
    · rw [if_pos htarget] at h
      rw [h source List.mem_cons_self, h target (List.mem_cons_of_mem _ htarget),
        h name (List.mem_cons_of_mem _ hname)]
    · rw [if_neg htarget] at h
      have heq : name ≠ target := fun heq => htarget (heq ▸ hname)
      rw [if_neg heq, if_neg heq]
      exact h name hname
  | fieldRename source target =>
    rw [get?_apply_fieldRename, get?_apply_fieldRename]
    simp only [needs] at h
    by_cases hsame : source = target
    · rw [if_pos hsame] at h
      rw [if_pos hsame, if_pos hsame]
      exact h name hname
    · rw [if_neg hsame] at h
      rw [if_neg hsame, if_neg hsame]
      have hlive := h.mono (List.subset_append_left _ _)
      by_cases hsource : name = source
      · rw [if_pos hsource, if_pos hsource]
      · rw [if_neg hsource, if_neg hsource, hlive name (by simp [hname, hsource])]
        by_cases heq : name = target
        · subst heq
          rw [if_pos hname] at h
          rw [h source (by simp), hlive name (by simp [hname, hsource])]
        · rw [if_neg heq, if_neg heq]

end Decoration

theorem decorateMessage_singleton (d : Decorator) (m : Message) :
    decorateMessage [d] m = d.decoration.apply m := by
  simp [decorateMessage, inApplicationOrder]

theorem neededFields_singleton (d : Decorator) (live : List String) :
    neededFields [d] live = d.decoration.needs live := by
  simp [neededFields, inApplicationOrder]

/-- **All decorators**: messages that agree on the needed fields agree after them. -/
theorem decorateMessage_agree (ds : List Decorator) {live : List String} {m m' : Message}
    (h : m.AgreeOn (neededFields ds live) m') :
    (decorateMessage ds m).AgreeOn live (decorateMessage ds m') := by
  unfold neededFields at h
  unfold decorateMessage
  generalize inApplicationOrder ds = order at h ⊢
  induction order generalizing m m' with
  | nil => exact h
  | cons d ds ih => exact ih (d.decoration.apply_agree h)

/-- The row of a decorated message depends on the needed fields only. -/
theorem row_decorateMessage_congr (ds : List Decorator) {names : List String} {m m' : Message}
    (h : m.AgreeOn (neededFields ds names) m') :
    (decorateMessage ds m).row names = (decorateMessage ds m').row names :=
  Message.row_congr (decorateMessage_agree ds h)

end SearchExport
