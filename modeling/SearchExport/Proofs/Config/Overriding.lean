import SearchExport.Config.Load
import SearchExport.Proofs.Config.IndexNames
import SearchExport.Proofs.Config.Settings
import SearchExport.Proofs.Disk.Writing

/-!
# Settings of the environment over those of a file

A setting has the value that the text of its variable denotes, whatever the file says, and the value of the
file when its variable is not set or not looked at.

* `Environment.textFor?`, `Environment.Combines` — the text that the environment has for a setting, and the
  combination of such texts with a file; `Environment.textFor?_eq_some_iff` — when there is such a text.
* `Environment.overrideOne_of_no_fault`, `Environment.foldlM_of_no_fault` — what one variable sets, and what
  several variables set in a row.
* `Environment.override_of_fault`, `Environment.override_eq_ok_iff` — what all of them set.
* `Config.load_overridden` — the configuration that is loaded.
-/

set_option autoImplicit false

namespace SearchExport

namespace Environment

variable {env : Environment} {file c : Config} {s : Setting} {ss : List Setting} {f : OverrideFault}

/-! ## Texts of the environment -/

/-- The text that the environment has for a setting. -/
def textFor? (env : Environment) (s : Setting) : Option String :=
  if s.IsRecognised then env.get? s.variableName else none

theorem textFor?_of_recognised (hs : s.IsRecognised) : env.textFor? s = env.get? s.variableName := by
  rw [textFor?, if_pos hs]

theorem get?_of_textFor? {text : String} (h : env.textFor? s = some text) :
    env.get? s.variableName = some text := by
  rw [textFor?, Option.ite_none_right_eq_some] at h
  exact h.2

theorem textFor?_of_not_overridden (hs : s ∉ Setting.overridden) : env.textFor? s = none := by
  rw [textFor?, if_neg (mt s.isRecognised_iff.1 hs)]

/-- **A setting has a text** when one of the variables that are looked at is set for it. -/
theorem textFor?_eq_some_iff {text : String} :
    env.textFor? s = some text ↔
      ∃ name, (name, s) ∈ Setting.recognisedVariables ∧ env.get? name = some text := by
  rw [textFor?, Option.ite_none_right_eq_some]
  constructor
  · rintro ⟨hs, htext⟩
    exact ⟨s.variableName, Setting.mem_recognisedVariables_iff.2 ⟨hs, rfl⟩, htext⟩
  · rintro ⟨name, hname, htext⟩
    obtain ⟨hs, rfl⟩ := Setting.mem_recognisedVariables_iff.1 hname
    exact ⟨hs, htext⟩

/-- The configuration has the values that the texts of the environment denote, and those of a file where the
environment has no text. -/
structure Combines (env : Environment) (file c : Config) : Prop where
  unset : ∀ s, env.textFor? s = none → c.setting s = file.setting s
  set : ∀ s text, env.textFor? s = some text → s.read? text = some (c.setting s)

/-- The value that a setting has in the end, unless the environment has a text for it that denotes none. -/
def chosen? (env : Environment) (file : Config) (s : Setting) : Option s.Content :=
  match env.textFor? s with
  | none => some (file.setting s)
  | some text => s.read? text

theorem chosen?_of_unset (h : env.textFor? s = none) : env.chosen? file s = some (file.setting s) := by
  rw [chosen?, h]

theorem chosen?_of_set {text : String} (h : env.textFor? s = some text) :
    env.chosen? file s = s.read? text := by
  rw [chosen?, h]

/-- What a variable sets does not depend on other settings. -/
theorem chosen?_withSetting_of_ne {t : Setting} (h : t ≠ s) (v : s.Content) :
    env.chosen? (c.withSetting s v) t = env.chosen? c t := by
  rw [chosen?, chosen?, Config.setting_withSetting_of_ne c h]

theorem combines_iff : env.Combines file c ↔ ∀ s, env.chosen? file s = some (c.setting s) := by
  constructor
  · intro h s
    cases htext : env.textFor? s with
    | none => rw [chosen?_of_unset htext, h.unset s htext]
    | some text => rw [chosen?_of_set htext, h.set s text htext]
  · intro h
    refine ⟨fun s htext => ?_, fun s text htext => ?_⟩
    · have hs := h s
      rw [chosen?_of_unset htext] at hs
      exact (Option.some.inj hs).symm
    · rw [← chosen?_of_set htext, h s]

theorem Combines.unique {c' : Config} (h : env.Combines file c) (h' : env.Combines file c') : c = c' :=
  Config.ext_setting fun s => Option.some.inj ((combines_iff.1 h s).symm.trans (combines_iff.1 h' s))

/-- What is wrong with the text of a setting. -/
def fault? (env : Environment) (s : Setting) : Option OverrideFault :=
  (env.textFor? s).bind fun text => if (s.read? text).isNone then some ⟨s.variableName, text⟩ else none

theorem fault?_eq_some_iff :
    env.fault? s = some f ↔
      ∃ text, env.textFor? s = some text ∧ s.read? text = none ∧ f = ⟨s.variableName, text⟩ := by
  rw [fault?]
  cases env.textFor? s with
  | none => simp
  | some text =>
    rw [Option.bind_some, Option.ite_none_right_eq_some, Option.isNone_iff_eq_none, Option.some.injEq]
    simp only [Option.some.injEq, exists_eq_left', eq_comm]

theorem fault?_eq_none_iff :
    env.fault? s = none ↔ ∀ text, env.textFor? s = some text → s.read? text ≠ none := by
  rw [Option.eq_none_iff_forall_ne_some]
  constructor
  · intro h text htext hread
    exact h _ (fault?_eq_some_iff.2 ⟨text, htext, hread, rfl⟩)
  · intro h f hf
    obtain ⟨text, htext, hread, -⟩ := fault?_eq_some_iff.1 hf
    exact h text htext hread

/-! ## One variable -/

theorem overrideOne_of_set {text : String} (h : env.textFor? s = some text) (c : Config) :
    env.overrideOne c s.override =
      match s.read? text with
      | some v => .ok (c.withSetting s v)
      | none => .error ⟨s.variableName, text⟩ := by
  simp only [overrideOne, Setting.variableName_override, get?_of_textFor? h, Setting.set?_override]
  cases s.read? text <;> rfl

theorem overrideOne_of_unset (hs : s.IsRecognised) (h : env.textFor? s = none) (c : Config) :
    env.overrideOne c s.override = .ok c := by
  rw [overrideOne, Setting.variableName_override, ← textFor?_of_recognised hs, h]

theorem overrideOne_of_fault (h : env.fault? s = some f) (c : Config) :
    env.overrideOne c s.override = .error f := by
  obtain ⟨text, htext, hread, rfl⟩ := fault?_eq_some_iff.1 h
  rw [overrideOne_of_set htext, hread]

/-- The variable of a setting changes this setting only. -/
theorem overrideOne_of_no_fault (hs : s.IsRecognised) (h : env.fault? s = none) (c : Config) :
    ∃ v, env.chosen? c s = some v ∧ env.overrideOne c s.override = .ok (c.withSetting s v) := by
  cases htext : env.textFor? s with
  | none =>
    refine ⟨c.setting s, chosen?_of_unset htext, ?_⟩
    rw [overrideOne_of_unset hs htext, Config.withSetting_setting]
  | some text =>
    obtain ⟨v, hv⟩ := Option.ne_none_iff_exists'.1 (fault?_eq_none_iff.1 h text htext)
    refine ⟨v, (chosen?_of_set htext).trans hv, ?_⟩
    rw [overrideOne_of_set htext, hv]

/-! ## Several variables -/

/-- The first fault ends the run, whatever has been set before it. -/
theorem foldlM_of_fault (hss : ∀ s ∈ ss, s.IsRecognised) (h : ss.findSome? env.fault? = some f) (c : Config) :
    (ss.map Setting.override).foldlM env.overrideOne c = .error f := by
  induction ss generalizing c with
  | nil => cases h
  | cons s ss ih =>
    rw [List.forall_mem_cons] at hss
    rw [List.findSome?_cons] at h
    rw [List.map_cons, List.foldlM_cons]
    cases hs : env.fault? s with
    | some g =>
      rw [hs] at h
      rw [overrideOne_of_fault hs, ← Option.some.inj h]
      rfl
    | none =>
      rw [hs] at h
      obtain ⟨v, -, hstep⟩ := overrideOne_of_no_fault hss.1 hs c
      rw [hstep]
      exact ih hss.2 h _

/-- A run without faults sets what its variables denote and leaves the other settings. -/
theorem foldlM_of_no_fault (hnodup : ss.Nodup) (hss : ∀ s ∈ ss, s.IsRecognised)
    (h : ∀ s ∈ ss, env.fault? s = none) (c : Config) :
    ∃ c', (ss.map Setting.override).foldlM env.overrideOne c = .ok c' ∧
      (∀ s ∈ ss, env.chosen? c s = some (c'.setting s)) ∧ ∀ s ∉ ss, c'.setting s = c.setting s := by
  induction ss generalizing c with
  | nil => exact ⟨c, rfl, fun s hs => absurd hs List.not_mem_nil, fun s _ => rfl⟩
  | cons s ss ih =>
    rw [List.forall_mem_cons] at hss h
    rw [List.nodup_cons] at hnodup
    obtain ⟨v, hv, hstep⟩ := overrideOne_of_no_fault hss.1 h.1 c
    obtain ⟨c', hrun, hset, hleft⟩ := ih hnodup.2 hss.2 h.2 (c.withSetting s v)
    refine ⟨c', ?_, List.forall_mem_cons.2 ⟨?_, fun t ht => ?_⟩, fun t ht => ?_⟩
    · rw [List.map_cons, List.foldlM_cons, hstep]
      exact hrun
    · -- No later variable is one of the same setting.
      rw [hleft s hnodup.1, Config.setting_withSetting_self, hv]
    · rw [← hset t ht, chosen?_withSetting_of_ne (ne_of_mem_of_not_mem ht hnodup.1)]
    · rw [List.mem_cons, not_or] at ht
      rw [hleft t ht.2, Config.setting_withSetting_of_ne c ht.1]

/-! ## All variables -/

/-- What is wrong with the first variable whose text denotes no value. -/
def firstFault? (env : Environment) : Option OverrideFault := Setting.overridden.findSome? env.fault?

theorem exists_of_firstFault? (h : env.firstFault? = some f) :
    ∃ s text, env.textFor? s = some text ∧ s.read? text = none ∧ f = ⟨s.variableName, text⟩ := by
  obtain ⟨s, -, hs⟩ := List.exists_of_findSome?_eq_some h
  exact ⟨s, fault?_eq_some_iff.1 hs⟩

theorem firstFault?_eq_none_iff :
    env.firstFault? = none ↔ ∀ s text, env.textFor? s = some text → s.read? text ≠ none := by
  rw [firstFault?, List.findSome?_eq_none_iff]
  constructor
  · intro h s text htext
    by_cases hs : s ∈ Setting.overridden
    · exact fault?_eq_none_iff.1 (h s hs) text htext
    · rw [textFor?_of_not_overridden hs] at htext
      cases htext
  · intro h s _
    exact fault?_eq_none_iff.2 (h s)

theorem override_of_fault (h : env.firstFault? = some f) (c : Config) : env.override c = .error f := by
  rw [override, overrides_eq]
  exact foldlM_of_fault (fun s => s.isRecognised_iff.2) h c

theorem exists_combines (h : env.firstFault? = none) (file : Config) :
    ∃ c, env.override file = .ok c ∧ env.Combines file c := by
  obtain ⟨c, hrun, hset, hleft⟩ := foldlM_of_no_fault Setting.nodup_overridden
    (fun s => s.isRecognised_iff.2) (List.findSome?_eq_none_iff.1 h) file
  refine ⟨c, by rw [override, overrides_eq, hrun], combines_iff.2 fun s => ?_⟩
  by_cases hs : s ∈ Setting.overridden
  · exact hset s hs
  · rw [hleft s hs, chosen?_of_unset (textFor?_of_not_overridden hs)]

/-- **What the environment makes of a file** is the combination of its texts with the file. -/
theorem override_eq_ok_iff : env.override file = .ok c ↔ env.Combines file c := by
  cases hfault : env.firstFault? with
  | some f =>
    rw [override_of_fault hfault]
    obtain ⟨s, text, htext, hread, -⟩ := exists_of_firstFault? hfault
    refine ⟨(nomatch ·), fun h => ?_⟩
    rw [h.set s text htext] at hread
    cases hread
  | none =>
    obtain ⟨c', hrun, hc'⟩ := exists_combines hfault file
    rw [hrun, Except.ok.injEq]
    constructor
    · rintro rfl
      exact hc'
    · intro h
      exact hc'.unique h

/-- The configuration that a file denotes, when its text is read and every variable in it is exchanged. -/
def Reads (env : Environment) (disk : Disk) (path : String) (file : Config) : Prop :=
  ∃ text toml, disk.read path = .ok text ∧ env.substitute text = .ok toml ∧ Config.ofToml? toml = some file

end Environment

/-! ## Loading -/

theorem Disk.holds_of_read {disk : Disk} {path text : String} (h : disk.read path = .ok text) :
    disk.holds path = true := by
  obtain ⟨p, hlocate, hp⟩ := Disk.read_eq_ok_iff.1 h
  rw [holds, hlocate]
  simp only [hp, Option.isSome_some]

namespace Config

variable {env : Environment} {disk disk' : Disk} {path path' : String} {file file' c : Config}

theorem bind_mapError_ok {α β γ δ : Type} (a : α) (f : γ → δ) (after : α → Except δ β) :
    ((.ok a : Except γ α).mapError f >>= after) = after a := rfl

/-- The check comes after all overrides. -/
theorem load_of_reads (h : env.Reads disk path file) :
    load env disk path = (do
      let c ← (env.override file).mapError .override
      c.validate.mapError .invalid
      return c) := by
  obtain ⟨text, toml, hread, hsubstitute, hparse⟩ := h
  rw [load, if_pos (Disk.holds_of_read hread), hread]
  show ofText env text = _
  rw [ofText, hsubstitute, bind_mapError_ok, hparse]

theorem load_of_fault {f : OverrideFault} (h : env.Reads disk path file) (hfault : env.firstFault? = some f) :
    load env disk path = .error (.override f) := by
  rw [load_of_reads h, Environment.override_of_fault hfault]
  rfl

theorem load_of_combines (h : env.Reads disk path file) (hc : env.Combines file c) :
    load env disk path =
      match c.validate with
      | .ok () => .ok c
      | .error fault => .error (.invalid fault) := by
  rw [load_of_reads h, Environment.override_eq_ok_iff.2 hc, bind_mapError_ok]
  cases c.validate <;> rfl

theorem load_eq_ok_iff (h : env.Reads disk path file) :
    load env disk path = .ok c ↔ c.validate = .ok () ∧ env.Combines file c := by
  constructor
  · intro hload
    cases hfault : env.firstFault? with
    | some f =>
      rw [load_of_fault h hfault] at hload
      cases hload
    | none =>
      obtain ⟨c', -, hc'⟩ := Environment.exists_combines hfault file
      rw [load_of_combines h hc'] at hload
      cases hcheck : c'.validate with
      | error fault =>
        rw [hcheck] at hload
        cases hload
      | ok =>
        rw [hcheck] at hload
        cases hload
        exact ⟨hcheck, hc'⟩
  · rintro ⟨hcheck, hc⟩
    rw [load_of_combines h hc, hcheck]

/-- What the file says where the environment has a text does not matter. -/
theorem load_congr (h : env.Reads disk path file) (h' : env.Reads disk' path' file')
    (hsame : ∀ s, env.textFor? s = none → file'.setting s = file.setting s) :
    load env disk' path' = load env disk path := by
  cases hfault : env.firstFault? with
  | some f => rw [load_of_fault h hfault, load_of_fault h' hfault]
  | none =>
    obtain ⟨c, -, hc⟩ := Environment.exists_combines hfault file
    have hc' : env.Combines file' c := ⟨fun s htext => (hc.unset s htext).trans (hsame s htext).symm, hc.set⟩
    rw [load_of_combines h hc, load_of_combines h' hc']

/-- **The environment over a file.**  A file that denotes a configuration is loaded with the values of the
environment put over its own.

The environment has a text for a setting when the variable of the setting is one of thirteen and is set.  What is
loaded has passed the check, has the value of the file at every setting for which the environment has no text,
and at every other setting the value that the text denotes.  So two files are loaded to the same
outcome when they differ only where the environment has texts, whatever they say there.  There is an error
instead of a configuration when a text denotes no value of its setting, and also when the combination of all
values fails the check; there is no other error. -/
theorem load_overridden (h : env.Reads disk path file) :
    (∀ s text, env.textFor? s = some text ↔
      ∃ name, (name, s) ∈ Setting.recognisedVariables ∧ env.get? name = some text) ∧
    (∀ c, load env disk path = .ok c ↔ c.validate = .ok () ∧ env.Combines file c) ∧
    (∀ disk' path' file', env.Reads disk' path' file' →
      (∀ s, env.textFor? s = none → file'.setting s = file.setting s) →
      load env disk' path' = load env disk path) ∧
    ((∃ s text, env.textFor? s = some text ∧ s.read? text = none) →
      ∃ s text, env.textFor? s = some text ∧ s.read? text = none ∧
        (load env disk path).mapError LoadFault.toError =
          .error (.configuration
            ("Invalid value '" ++ text ++ "' for environment variable " ++ s.variableName))) ∧
    ((∀ s text, env.textFor? s = some text → s.read? text ≠ none) →
      ∃ c, env.Combines file c ∧
        (load env disk path).mapError LoadFault.toError =
          match c.validate with
          | .ok () => .ok c
          | .error fault => .error (.configuration ("Configuration validation failed: " ++ fault.message))) := by
  refine ⟨fun s text => Environment.textFor?_eq_some_iff, fun c => load_eq_ok_iff h,
    fun disk' path' file' => load_congr h, ?_, fun hread => ?_⟩
  · rintro ⟨s, text, htext, hunread⟩
    cases hfault : env.firstFault? with
    | none => exact absurd hunread (Environment.firstFault?_eq_none_iff.1 hfault s text htext)
    | some f =>
      obtain ⟨t, other, hother, hunread, rfl⟩ := Environment.exists_of_firstFault? hfault
      refine ⟨t, other, hother, hunread, ?_⟩
      rw [load_of_fault h hfault]
      rfl
  · obtain ⟨c, -, hc⟩ := Environment.exists_combines (Environment.firstFault?_eq_none_iff.2 hread) file
    refine ⟨c, hc, ?_⟩
    rw [load_of_combines h hc]
    cases c.validate <;> rfl

/-- A file with a size of chunks that the check refuses, and an empty file: with a size and the credentials of the
environment both are loaded to the same configuration. -/
theorem load_overridden_of_chunkSize :
    let env := Environment.ofEntries [("MSGEXPORT_EXPORT_CHUNK_SIZE", " 50 "),
      ("MSGEXPORT_ELASTICSEARCH_USERNAME", "reader"), ("MSGEXPORT_ELASTICSEARCH_PASSWORD", "secret")]
    let disk : Disk := { entries :=
      [("/zero.toml", .file "[export]\nchunk_size = 0\n"), ("/empty.toml", .file "")] }
    ∃ c : Config, c.validate = .ok () ∧ c.exporting.chunkSize = 50 ∧ c.elasticsearch.username = some "reader" ∧
      c.logging.rotation = "daily" ∧ load env disk "/zero.toml" = .ok c ∧ load env disk "/empty.toml" = .ok c := by
  intro env disk
  have hzero : env.Reads disk "/zero.toml" { exporting := { chunkSize := 0 } } :=
    ⟨"[export]\nchunk_size = 0\n", "[export]\nchunk_size = 0", ok_of_toOption (by decide +kernel),
      ok_of_toOption (by decide +kernel), by decide +kernel⟩
  have hempty : env.Reads disk "/empty.toml" { } :=
    ⟨"", "", ok_of_toOption (by decide +kernel), ok_of_toOption (by decide +kernel), by decide +kernel⟩
  have hloads : (load env disk "/zero.toml").toOption.isSome = true := by decide +kernel
  obtain ⟨c, hc⟩ := Option.isSome_iff_exists.1 hloads
  have hload : load env disk "/zero.toml" = .ok c := ok_of_toOption hc
  obtain ⟨hnamed, hok, hsame, -, -⟩ := load_overridden hzero
  have htext : env.textFor? .chunkSize = some " 50 " :=
    (hnamed _ _).2 ⟨"MSGEXPORT_EXPORT_CHUNK_SIZE", by decide +kernel, by decide +kernel⟩
  have huser : env.textFor? .username = some "reader" :=
    (hnamed _ _).2 ⟨"MSGEXPORT_ELASTICSEARCH_USERNAME", by decide +kernel, by decide +kernel⟩
  have hrotation : env.textFor? .rotation = none := by decide +kernel
  obtain ⟨hcheck, hcombines⟩ := (hok c).1 hload
  refine ⟨c, hcheck, ?_, ?_, hcombines.unset .rotation hrotation, hload, ?_⟩
  · exact Option.some.inj (hcombines.set .chunkSize _ htext).symm
  · exact Option.some.inj (hcombines.set .username _ huser).symm
  · rw [← hload]
    refine hsame disk "/empty.toml" { } hempty fun s hs => ?_
    cases s with
    | chunkSize =>
      rw [htext] at hs
      cases hs
    | _ => rfl

end Config

end SearchExport
