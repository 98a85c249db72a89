import SearchExport.Document.Basic
import SearchExport.Proofs.Fields.Collecting

/-!
# Reading what was written

What a value is written as is a document again, and reading it gives the value back.

* `Document.Rereads` — the law of a reader and a writer.
* `Document.rereads_listOf`, `Document.rereads_optional` — the law for lists and for values that may be
  missing.
* `Document.fields?_ofMembers_append` — a written record has its fields, in their order.
* `Document.variant?_ofValue` — a tagged record has its tag in front of the others.
* `Document.rereads_of_toValue?` — a value that was read from a document is read from its written form.
-/

set_option autoImplicit false

namespace SearchExport.Document

/-- What is written of `a` is read as `a`. -/
def Rereads {α : Type} (read : Document → Option α) (write : α → Value) (a : α) : Prop :=
  read (ofValue (write a)) = some a

/-! ## Written values -/

theorem ofItems_eq_map (vs : List Value) : ofItems vs = vs.map ofValue := by
  induction vs with
  | nil => rfl
  | cons v vs ih => rw [ofItems, ih, List.map_cons]

theorem ofMembers_eq_map (ms : List (String × Value)) :
    ofMembers ms = ms.map fun m => (m.1, ofValue m.2) := by
  induction ms with
  | nil => rfl
  | cons m ms ih => rw [ofMembers, ih, List.map_cons]

theorem forall_name_ofMembers {ms : List (String × Value)} (p : String → Prop)
    (h : ∀ m ∈ ms, p m.1) : ∀ e ∈ ofMembers ms, p e.1 := by
  intro e he
  rw [ofMembers_eq_map] at he
  obtain ⟨m, hm, rfl⟩ := List.mem_map.1 he
  exact h m hm

theorem map_fst_ofMembers (ms : List (String × Value)) :
    (ofMembers ms).map Prod.fst = ms.map Prod.fst := by
  rw [ofMembers_eq_map, List.map_map]
  rfl

mutual

theorem exists_toValue?_ofValue : ∀ v : Value, ∃ w, toValue? (ofValue v) = some w
  | .null => ⟨_, rfl⟩
  | .bool _ => ⟨_, rfl⟩
  | .number _ => ⟨_, rfl⟩
  | .string _ => ⟨_, rfl⟩
  | .array vs => by
    obtain ⟨ws, hws⟩ := exists_toItems?_ofItems vs
    exact ⟨.array ws, by rw [ofValue, toValue?, hws]; rfl⟩
  | .object ms => by
    obtain ⟨ns, hns⟩ := exists_toMembers?_ofMembers ms
    exact ⟨.object (collectEntries ns), by rw [ofValue, toValue?, hns]; rfl⟩

theorem exists_toItems?_ofItems : ∀ vs : List Value, ∃ ws, toItems? (ofItems vs) = some ws
  | [] => ⟨_, rfl⟩
  | v :: vs => by
    obtain ⟨w, hw⟩ := exists_toValue?_ofValue v
    obtain ⟨ws, hws⟩ := exists_toItems?_ofItems vs
    exact ⟨w :: ws, by rw [ofItems, toItems?, hw, hws]; rfl⟩

theorem exists_toMembers?_ofMembers :
    ∀ ms : List (String × Value), ∃ ns, toMembers? (ofMembers ms) = some ns
  | [] => ⟨_, rfl⟩
  | (k, v) :: ms => by
    obtain ⟨w, hw⟩ := exists_toValue?_ofValue v
    obtain ⟨ns, hns⟩ := exists_toMembers?_ofMembers ms
    exact ⟨(k, w) :: ns, by rw [ofMembers, toMembers?, hw, hns]; rfl⟩

end

theorem isReadable_ofValue (v : Value) : (ofValue v).isReadable = true := by
  obtain ⟨w, hw⟩ := exists_toValue?_ofValue v
  rw [isReadable, hw]
  rfl

/-! ## Values that were read -/

theorem toMembers?_ofMembers {ms : List (String × Value)}
    (h : ∀ m ∈ ms, Rereads toValue? id m.2) : toMembers? (ofMembers ms) = some ms := by
  induction ms with
  | nil => rfl
  | cons m ms ih =>
    obtain ⟨k, v⟩ := m
    obtain ⟨hv, hms⟩ := List.forall_mem_cons.1 h
    have hread : toValue? (ofValue v) = some v := hv
    rw [ofMembers, toMembers?, hread, ih hms]
    rfl

mutual

/-- **A value that was read** is read from its written form: its objects have each name once already. -/
theorem rereads_of_toValue? : ∀ {d : Document} {v : Value}, toValue? d = some v → Rereads toValue? id v
  | .null, v, h => by
    cases h
    rfl
  | .flag b, v, h => by
    cases h
    rfl
  | .number n, v, h => by
    cases h
    rfl
  | .text s, v, h => by
    cases h
    rfl
  | .list ds, v, h => by
    rw [toValue?, Option.map_eq_some_iff] at h
    obtain ⟨vs, hvs, rfl⟩ := h
    have hitems := toItems?_ofItems_of_toItems? hvs
    show toValue? (.list (ofItems vs)) = _
    rw [toValue?, hitems]
    rfl
  | .record es, v, h => by
    rw [toValue?, Option.map_eq_some_iff] at h
    obtain ⟨ms, hms, rfl⟩ := h
    have hmembers : toMembers? (ofMembers (collectEntries ms)) = some (collectEntries ms) := by
      refine toMembers?_ofMembers fun m hm => ?_
      exact rereads_of_toMembers? hms m (mem_of_mem_collectEntries hm)
    show toValue? (.record (ofMembers (collectEntries ms))) = _
    rw [toValue?, hmembers]
    show some (Value.object (collectEntries (collectEntries ms))) = _
    rw [collectEntries_of_nodup (nodup_collectEntries ms)]
  | .unreadable, v, h => by cases h

theorem toItems?_ofItems_of_toItems? :
    ∀ {ds : List Document} {vs : List Value}, toItems? ds = some vs → toItems? (ofItems vs) = some vs
  | [], vs, h => by
    cases h
    rfl
  | d :: ds, vs, h => by
    simp only [toItems?, Option.bind_eq_bind, Option.bind_eq_some_iff, Option.pure_def,
      Option.some.injEq] at h
    obtain ⟨w, hw, ws, hws, rfl⟩ := h
    have hhead : toValue? (ofValue w) = some w := rereads_of_toValue? hw
    rw [ofItems, toItems?, hhead, toItems?_ofItems_of_toItems? hws]
    rfl

theorem rereads_of_toMembers? :
    ∀ {es : List (String × Document)} {ms : List (String × Value)}, toMembers? es = some ms →
      ∀ m ∈ ms, Rereads toValue? id m.2
  | [], ms, h => by
    cases h
    intro m hm
    cases hm
  | (k, d) :: es, ms, h => by
    simp only [toMembers?, Option.bind_eq_bind, Option.bind_eq_some_iff, Option.pure_def,
      Option.some.injEq] at h
    obtain ⟨w, hw, ws, hws, rfl⟩ := h
    intro m hm
    rcases List.mem_cons.1 hm with rfl | hm
    · exact rereads_of_toValue? hw
    · exact rereads_of_toMembers? hws m hm

end

theorem eq_null_of_toValue? {d : Document} (h : toValue? d = some .null) : d = .null := by
  cases d with
  | null => rfl
  | list ds =>
    rw [toValue?, Option.map_eq_some_iff] at h
    obtain ⟨vs, -, hvs⟩ := h
    cases hvs
  | record es =>
    rw [toValue?, Option.map_eq_some_iff] at h
    obtain ⟨ms, -, hms⟩ := h
    cases hms
  | _ => cases h

/-! ## Lists and missing values -/

section Combined

variable {α : Type} {read : Document → Option α} {write : α → Value}

theorem rereads_listOf {xs : List α} (h : ∀ x ∈ xs, Rereads read write x) :
    Rereads (listOf? read) (fun xs => .array (xs.map write)) xs := by
  have hitems : ∀ {xs : List α}, (∀ x ∈ xs, Rereads read write x) →
      ((xs.map write).map ofValue).mapM read = some xs := by
    intro xs
    induction xs with
    | nil => intro _; rfl
    | cons x xs ih =>
      intro h
      obtain ⟨hx, hxs⟩ := List.forall_mem_cons.1 h
      have hread : read (ofValue (write x)) = some x := hx
      rw [List.map_cons, List.map_cons, List.mapM_cons, hread, ih hxs]
      rfl
  show (ofItems (xs.map write)).mapM read = some xs
  rw [ofItems_eq_map]
  exact hitems h

theorem optional?_of_ne_null {v : Value} (h : v ≠ .null) :
    optional? read (ofValue v) = (read (ofValue v)).map some := by
  cases v with
  | null => exact absurd rfl h
  | _ => rfl

theorem rereads_optional {o : Option α} (h : ∀ a ∈ o, Rereads read write a ∧ write a ≠ .null) :
    Rereads (optional? read) (fun o => .ofOption (o.map write)) o := by
  cases o with
  | none => rfl
  | some a =>
    obtain ⟨hread, hnull⟩ := h a rfl
    show optional? read (ofValue (write a)) = some (some a)
    rw [optional?_of_ne_null hnull, hread]
    rfl

theorem read_of_optional? {d : Document} {a : α} (h : optional? read d = some (some a)) :
    read d = some a ∧ d ≠ .null := by
  cases d with
  | null => cases h
  | _ =>
    obtain ⟨b, hb, hba⟩ := Option.map_eq_some_iff.1 h
    cases hba
    exact ⟨hb, nofun⟩

theorem exists_read_of_mem_listOf? {d : Document} {xs : List α} (h : listOf? read d = some xs) :
    ∀ x ∈ xs, ∃ d, read d = some x := by
  have hitems : ∀ {ds : List Document} {xs : List α}, ds.mapM read = some xs →
      ∀ x ∈ xs, ∃ d, read d = some x := by
    intro ds
    induction ds with
    | nil =>
      intro xs hxs x hx
      cases hxs
      cases hx
    | cons d ds ih =>
      intro xs hxs x hx
      simp only [List.mapM_cons, Option.bind_eq_bind, Option.bind_eq_some_iff, Option.pure_def,
        Option.some.injEq] at hxs
      obtain ⟨y, hy, ys, hys, rfl⟩ := hxs
      rcases List.mem_cons.1 hx with rfl | hx
      · exact ⟨d, hy⟩
      · exact ih hys x hx
  cases d with
  | list ds => exact hitems h
  | _ => cases h

end Combined

/-! ## Records -/

section Look

variable {α : Type} (k name : String) (d : Document) (es : List (String × Document))
  (read : Document → Option α)

@[simp] theorem required?_cons :
    required? ((k, d) :: es) name read = if k = name then read d else required? es name read := by
  rw [required?, lookupEntry]
  split <;> rfl

@[simp] theorem fieldOr?_cons (default : α) :
    fieldOr? ((k, d) :: es) name default read =
      if k = name then read d else fieldOr? es name default read := by
  rw [fieldOr?, lookupEntry]
  by_cases hk : k = name
  · rw [if_pos hk, if_pos hk]
  · rw [if_neg hk, if_neg hk, fieldOr?]

end Look

theorem eraseDups_of_nodup {names : List String} (h : names.Nodup) : names.eraseDups = names := by
  induction names with
  | nil => rfl
  | cons n names ih =>
    obtain ⟨hn, hnames⟩ := List.nodup_cons.1 h
    have hkeep : (names.filter fun m => !(m == n)) = names := by
      refine List.filter_eq_self.2 fun m hm => ?_
      have : m ≠ n := fun hmn => hn (hmn ▸ hm)
      simpa using this
    rw [List.eraseDups_cons, hkeep, ih hnames]

/-- **A written record** has its fields, in the order in which they were written, whatever other
members follow them. -/
theorem fields?_ofMembers_append (how : Reading) (ms extra : List (String × Value))
    (names : List String) (hnames : ms.map Prod.fst = names) (hdistinct : names.Nodup)
    (hextra : ∀ m ∈ extra, m.1 ∉ names) :
    fields? how names (.record (ofMembers ms ++ ofMembers extra)) = some (ofMembers ms) := by
  have hknown : (ofMembers ms).filter (fun e => names.contains e.1) = ofMembers ms := by
    refine List.filter_eq_self.2 fun e he => ?_
    have hown : ∀ m ∈ ms, m.1 ∈ names := fun m hm => hnames ▸ List.mem_map_of_mem hm
    simpa using forall_name_ofMembers (· ∈ names) hown e he
  have hunknown : (ofMembers extra).filter (fun e => names.contains e.1) = [] := by
    refine List.filter_eq_nil_iff.2 fun e he => ?_
    simpa using forall_name_ofMembers (· ∉ names) hextra e he
  have hlength : (ofMembers ms).length = ((ofMembers ms).map Prod.fst).eraseDups.length := by
    rw [map_fst_ofMembers, hnames, eraseDups_of_nodup hdistinct, ← hnames, ← map_fst_ofMembers,
      List.length_map]
  show (if ((ofMembers ms ++ ofMembers extra).filter fun e => names.contains e.1).length = _
    then _ else _) = _
  rw [List.filter_append, hknown, hunknown, List.append_nil, if_pos hlength]

theorem fields?_ofValue (how : Reading) (ms : List (String × Value)) (names : List String)
    (hnames : ms.map Prod.fst = names) (hdistinct : names.Nodup) :
    fields? how names (ofValue (.object ms)) = some (ofMembers ms) := by
  have hread := fields?_ofMembers_append how ms [] names hnames hdistinct nofun
  rwa [ofMembers, List.append_nil] at hread

/-- **A written tagged record** has its tag, and the rest is the record without it. -/
theorem variant?_ofValue (how : Reading) {key tag : String} {tags : List String} (htag : tag ∈ tags)
    {ms : List (String × Value)} (hkey : key ∉ ms.map Prod.fst) :
    variant? how key tags (ofValue (.object ((key, .string tag) :: ms))) =
      some (tag, ofValue (.object ms)) := by
  have hother : ∀ e ∈ ofMembers ms, e.1 ≠ key :=
    forall_name_ofMembers (· ≠ key) fun m hm hk => hkey (List.mem_map.2 ⟨m, hm, hk⟩)
  have hfound : (ofMembers ((key, .string tag) :: ms)).filter (fun e => e.1 = key) =
      [(key, .text tag)] := by
    rw [ofMembers, List.filter_cons_of_pos (by simp), List.filter_eq_nil_iff.2]
    · rfl
    · intro e he
      simpa using hother e he
  have hrest : (ofMembers ((key, .string tag) :: ms)).filter (fun e => e.1 ≠ key) = ofMembers ms := by
    rw [ofMembers, List.filter_cons_of_neg (by simp), List.filter_eq_self.2]
    intro e he
    simpa using hother e he
  have hread : tag? how tags (.text tag) = some tag := by simp [tag?, htag]
  have hreadable : (Document.record (ofMembers ms)).isReadable = true :=
    isReadable_ofValue (.object ms)
  show variant? how key tags (.record (ofMembers ((key, .string tag) :: ms))) = _
  simp only [variant?, hfound, hrest, hread, hreadable, Option.bind_eq_bind, Option.bind_some, if_true]
  rfl

end SearchExport.Document
