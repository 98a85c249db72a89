import Mathlib.Data.List.Forall2
import SearchExport.Proofs.Message.Order
import SearchExport.Proofs.Message.Needs

/-!
# What decorators leave alone

A decorator sets or removes the fields that it names as its target, and a rename also the field it takes the
value from.  Where a field stands among the others may change, its value does not.

* `Decoration.touches`, `touchedFields` — the fields that may be set or removed.
* `Message.DiffersWithin` — messages that differ in some fields at most; `Decoration.apply_differsWithin` — one
  decorator, `decorateMessage_differsWithin` — all of them.
* `Message.Moves` — one value moved to another name; `Decoration.apply_fieldRename_moves` — what a rename does.
* `decorateChunk_touches_only` — the same for the messages of a chunk.
-/

set_option autoImplicit false

namespace SearchExport

/-! ## Fields that are touched -/

/-- The fields that a decorator may set or remove. -/
def Decoration.touches : Decoration → List String
  | .formatString target _ _ => [target]
  | .syslogSeverity _ target => [target]
  | .fieldRename source target => [source, target]

/-- The fields that one of the decorators may set or remove. -/
def touchedFields (ds : List Decorator) : List String := ds.flatMap fun d => d.decoration.touches

theorem touches_subset {ds : List Decorator} {d : Decorator} (h : d ∈ ds) :
    d.decoration.touches ⊆ touchedFields ds :=
  fun _ hname => List.mem_flatMap.2 ⟨d, h, hname⟩

/-! ## Messages that differ in some fields -/

/-- The second message differs from the first one in the named fields at most. -/
structure Message.DiffersWithin (names : List String) (m m' : Message) : Prop where
  index : m'.index = m.index
  others : ∀ name, name ∉ names → m'.get? name = m.get? name

namespace Message.DiffersWithin

variable {names names' : List String} {m m' m'' : Message}

theorem refl (names : List String) (m : Message) : m.DiffersWithin names m := ⟨rfl, fun _ _ => rfl⟩

theorem trans (h : m.DiffersWithin names m') (h' : m'.DiffersWithin names m'') :
    m.DiffersWithin names m'' where
  index := h'.index.trans h.index
  others name hname := (h'.others name hname).trans (h.others name hname)

theorem mono (h : m.DiffersWithin names m') (hsub : names ⊆ names') : m.DiffersWithin names' m' :=
  ⟨h.index, fun name hname => h.others name fun hmem => hname (hsub hmem)⟩

end Message.DiffersWithin

theorem Decoration.index_apply (d : Decoration) (m : Message) : (d.apply m).index = m.index := by
  cases d with
  | formatString target pattern requireAll => rw [apply]; split <;> rfl
  | syslogSeverity source target => rw [apply]; split <;> rfl
  | fieldRename source target => rfl

/-- **One decorator** changes no field that it does not name. -/
theorem Decoration.apply_differsWithin (d : Decoration) (m : Message) :
    m.DiffersWithin d.touches (d.apply m) := by
  refine ⟨d.index_apply m, fun name hname => ?_⟩
  cases d with
  | formatString target pattern requireAll =>
    rw [get?_apply_formatString, if_neg (by simpa [touches] using hname)]
  | syslogSeverity source target =>
    rw [get?_apply_syslogSeverity, if_neg (by simpa [touches] using hname)]
  | fieldRename source target =>
    obtain ⟨hsource, htarget⟩ : name ≠ source ∧ name ≠ target := by simpa [touches] using hname
    rw [get?_apply_fieldRename, if_neg hsource, if_neg htarget, ite_self]

/-- One decorator after the other: what none of them names stays. -/
theorem foldl_differsWithin {names : List String} {ds : List Decorator}
    (h : ∀ d ∈ ds, d.decoration.touches ⊆ names) (m : Message) :
    m.DiffersWithin names (ds.foldl (fun m d => d.decoration.apply m) m) := by
  induction ds generalizing m with
  | nil => exact .refl names m
  | cons d ds ih =>
    obtain ⟨hd, hds⟩ := List.forall_mem_cons.1 h
    exact ((d.decoration.apply_differsWithin m).mono hd).trans (ih hds (d.decoration.apply m))

/-- **All decorators** change no field that none of them names. -/
theorem decorateMessage_differsWithin (ds : List Decorator) (m : Message) :
    m.DiffersWithin (touchedFields ds) (decorateMessage ds m) :=
  foldl_differsWithin (fun _ hd => touches_subset ((inApplicationOrder_perm ds).mem_iff.1 hd)) m

/-! ## Renames -/

/-- The second message is the first one with the value of one name moved to another name. -/
structure Message.Moves (source target : String) (m m' : Message) : Prop where
  index : m'.index = m.index
  gone : m'.get? source = none
  arrived : m'.get? target = (m.get? source).or (m.get? target)
  others : ∀ name, name ≠ source → name ≠ target → m'.get? name = m.get? name

/-- **A rename** moves the value of one field and leaves all others. -/
theorem Decoration.apply_fieldRename_moves {source target : String} (h : source ≠ target) (m : Message) :
    m.Moves source target ((fieldRename source target).apply m) where
  index := index_apply _ m
  gone := by rw [get?_apply_fieldRename, if_neg h, if_pos rfl]
  arrived := by rw [get?_apply_fieldRename, if_neg h, if_neg h.symm, if_pos rfl]
  others name hsource htarget := by
    rw [get?_apply_fieldRename, if_neg h, if_neg hsource, if_neg htarget]

/-- A value that is moved to a free name and back is where it was. -/
theorem Message.Moves.back {source target : String} {m m' m'' : Message} (h : m.Moves source target m')
    (h' : m'.Moves target source m'') (hfree : m.get? target = none) (name : String) :
    m''.get? name = m.get? name := by
  by_cases hsource : name = source
  · subst hsource
    rw [h'.arrived, h.arrived, h.gone, hfree, Option.or_none, Option.or_none]
  · by_cases htarget : name = target
    · subst htarget
      rw [h'.gone, hfree]
    · rw [h'.others name htarget hsource, h.others name hsource htarget]

/-! ## Chunks -/

theorem forall₂_decorateChunk {R : Message → Message → Prop} {ds : List Decorator} {c : Chunk}
    (h : ∀ m ∈ c.messages, R m (decorateMessage ds m)) :
    List.Forall₂ R c.messages (decorateChunk ds c).messages :=
  List.forall₂_map_right_iff.2 (List.forall₂_same.2 h)

/-- **Decorators touch only the fields they name**, in every chunk.  They keep the requested fields, the mark of
the first chunk, and the messages with their order and their indices; a field that none of them names has the
value that it had, or is missing as it was, and each message has each of its names once.  A rename moves exactly
one value, over the one that has the new name; and where the new name was free, the rename back restores the
value of every name. -/
theorem decorateChunk_touches_only (c : Chunk) :
    (∀ ds,
      (decorateChunk ds c).fields = c.fields ∧ (decorateChunk ds c).isFirst = c.isFirst ∧
        List.Forall₂ (Message.DiffersWithin (touchedFields ds)) c.messages (decorateChunk ds c).messages ∧
        ∀ m ∈ (decorateChunk ds c).messages, m.fields.names.Nodup) ∧
    ∀ (rename back : Decorator) (source target : String), source ≠ target →
      rename.decoration = .fieldRename source target → back.decoration = .fieldRename target source →
      List.Forall₂ (Message.Moves source target) c.messages (decorateChunk [rename] c).messages ∧
        List.Forall₂ (fun m m' => m.get? target = none → ∀ name, m'.get? name = m.get? name)
          c.messages (decorateChunk [back] (decorateChunk [rename] c)).messages := by
  refine ⟨fun ds => ⟨rfl, rfl, ?_, fun m _ => m.fields.distinct⟩, ?_⟩
  · exact forall₂_decorateChunk fun m _ => decorateMessage_differsWithin ds m
  · intro rename back source target hne hrename hback
    have hthere (m : Message) : m.Moves source target (decorateMessage [rename] m) := by
      rw [decorateMessage_singleton, hrename]
      exact Decoration.apply_fieldRename_moves hne m
    have hagain (m : Message) : m.Moves target source (decorateMessage [back] m) := by
      rw [decorateMessage_singleton, hback]
      exact Decoration.apply_fieldRename_moves hne.symm m
    refine ⟨forall₂_decorateChunk fun m _ => hthere m, ?_⟩
    simp only [decorateChunk, List.map_map, List.forall₂_map_right_iff]
    exact List.forall₂_same.2 fun m _ => (hthere m).back (hagain _)

/-- The first of three fields is renamed: the last one takes its place, and no value is lost. -/
theorem decorateChunk_touches_only_of_rename :
    let rename : Decorator := ⟨none, 0, .fieldRename "level" "severity"⟩
    let back : Decorator := ⟨none, 0, .fieldRename "severity" "level"⟩
    let m : Message :=
      ⟨"graylog_0", .ofList [("level", .ofNat 4), ("message", .string "Ha"), ("source", .string "web")]⟩
    let c : Chunk := ⟨["message"], [m], true⟩
    "level" ≠ "severity" ∧
      (decorateChunk [rename] c).messages.map (fun m => m.fields.names) =
        [["source", "message", "severity"]] ∧
      List.Forall₂ (Message.Moves "level" "severity") c.messages (decorateChunk [rename] c).messages ∧
      m.get? "severity" = none ∧
      List.Forall₂ (fun m m' => m.get? "severity" = none → ∀ name, m'.get? name = m.get? name)
        c.messages (decorateChunk [back] (decorateChunk [rename] c)).messages := by
  intro rename back m c
  have hne : "level" ≠ "severity" := by decide
  obtain ⟨hmoves, hback⟩ := (decorateChunk_touches_only c).2 rename back _ _ hne rfl rfl
  have hnames : (decorateChunk [rename] c).messages.map (fun m => m.fields.names) =
      [["source", "message", "severity"]] := by
    have hdecorated : decorateMessage [rename] m = rename.decoration.apply m := decorateMessage_singleton rename m
    show [(decorateMessage [rename] m).fields.names] = _
    rw [hdecorated]
    decide
  exact ⟨hne, hnames, hmoves, rfl, hback⟩

end SearchExport
