import SearchExport.Command.Export
import SearchExport.Proofs.Disk.Writing

/-!
# The output file of a command

The output file of an export is opened, and by that made empty, before the search is asked for a request.
A search that makes none is found out too late for the file.

* `ExportArguments.LacksRequest` — a command that comes to its export with a search that makes no request;
  `ExportArguments.requestFault?` — the fault, if there is one.
* `ExportArguments.carryOut_of_fault`, `ExportArguments.run_of_fault` — what such a command does.
* `ExportArguments.run_empties_output` — what becomes of the output file, and of the rest of the disk.
-/

set_option autoImplicit false

namespace SearchExport.ExportArguments

variable {π : Type} {a : ExportArguments} {w : Surroundings} {disk : Disk} {configPath : String}
variable {plan : ExportPlan} {fault : ResolveFault}

/-- The configuration and the search of the command are there, and the search makes no request. -/
structure LacksRequest (a : ExportArguments) (w : Surroundings) (disk : Disk) (configPath : String)
    (plan : ExportPlan) (fault : ResolveFault) : Prop where
  prepared : (a.prepare w.environment disk configPath).2 = .ok plan
  unresolved : plan.search.resolve .parameters plan.config.exporting.chunkSize a.searchTypeId
    (a.format plan.config) w.now = .error fault

/-- The fault of the search of a command that comes to its export, if there is one. -/
def requestFault? (a : ExportArguments) (w : Surroundings) (disk : Disk) (configPath : String) :
    Option ResolveFault :=
  match (a.prepare w.environment disk configPath).2 with
  | .error _ => none
  | .ok plan =>
    match plan.search.resolve .parameters plan.config.exporting.chunkSize a.searchTypeId
        (a.format plan.config) w.now with
    | .error fault => some fault
    | .ok _ => none

theorem exists_lacksRequest (h : a.requestFault? w disk configPath = some fault) :
    ∃ plan, a.LacksRequest w disk configPath plan fault := by
  unfold requestFault? at h
  split at h
  · cases h
  · rename_i plan hprepared
    split at h
    · rename_i hunresolved
      cases h
      exact ⟨plan, hprepared, hunresolved⟩
    · cases h

/-- The disk once the output of the command is open. -/
def opened (a : ExportArguments) (disk : Disk) : Except DiskFault Disk :=
  match a.output with
  | some path => disk.write path ""
  | none => .ok disk

/-- What is shown about a search that makes no request. -/
def faultOutputs (plan : ExportPlan) (fault : ResolveFault) : List Output :=
  [.err ("🚀 Exporting search " ++ plan.search.id ++ "..."), failure "Export failed" fault.toError,
    .err ("❌ Export failed: " ++ fault.toError.message)]

/-! ## The export -/

theorem perform_of_fault (peer : Peer π) (s : π) (h : a.LacksRequest w disk configPath plan fault) :
    a.perform w plan peer s = ⟨[], some (.error fault.toError), (s, []), (({ }, 0), 0)⟩ := by
  rw [perform, Search.export, h.unresolved]
  rfl

/-- The error of such a search counts as one of the request. -/
theorem conclude_of_fault (w : Surroundings) (fault : ResolveFault) :
    conclude w 0 (.error fault.toError) =
      ([failure "Export failed" fault.toError,
        .err ("❌ Export failed: " ++ fault.toError.message)], 2) := by
  cases fault <;> rfl

/-- With an open output the command reports the fault, and the output stays empty. -/
theorem carryOut_of_fault (peer : Peer π) (s : π) (h : a.LacksRequest w disk configPath plan fault)
    {there : Disk} (hopened : a.opened disk = .ok there) :
    a.carryOut w plan there peer s = (⟨faultOutputs plan fault, there, .ok 2⟩, s) := by
  have hjournal : ∀ record : Run.Record (π × List SearchTrace) SinkState,
      a.journal w plan record = [] := by
    intro record
    simp only [journal, h.unresolved]
  have htext : writtenText { } = "" := by decide
  have hending : ∀ (e : π × List SearchTrace) (t : SinkState),
      ending ⟨[], some (.error fault.toError), e, t⟩ = .error fault.toError := fun _ _ => rfl
  rw [carryOut, perform_of_fault peer s h]
  simp only [hjournal, htext, hending, conclude_of_fault]
  cases houtput : a.output with
  | none => rfl
  | some path =>
    -- the text of the run, which is empty, is written over the emptied file
    have hwrite : disk.write path "" = .ok there := by rwa [opened, houtput] at hopened
    simp only [Disk.write_write hwrite]
    rfl

/-- A command that has all that it needs opens its output and carries out the export. -/
theorem run_of_prepared (peer : Peer π) (s : π) {shown : List Output}
    (h : a.prepare w.environment disk configPath = (shown, .ok plan)) :
    a.run w disk configPath peer s =
      match a.opened disk with
      | .error f => (⟨shown, disk, .error f⟩, s)
      | .ok there =>
        let (report, t) := a.carryOut w plan there peer s
        ({ report with outputs := shown ++ report.outputs }, t) := by
  rw [run, h]
  rfl

/-- **A command whose search makes no request** opens its output and reports the fault. -/
theorem run_of_fault (peer : Peer π) (s : π) (h : a.LacksRequest w disk configPath plan fault) :
    let shown := (a.prepare w.environment disk configPath).1
    a.run w disk configPath peer s =
      match a.opened disk with
      | .error f => (⟨shown, disk, .error f⟩, s)
      | .ok there => (⟨shown ++ faultOutputs plan fault, there, .ok 2⟩, s) := by
  intro shown
  have hprepare : a.prepare w.environment disk configPath = (shown, .ok plan) :=
    Prod.ext rfl h.prepared
  rw [run_of_prepared peer s hprepare]
  cases hopened : a.opened disk with
  | error f => rfl
  | ok there => simp only [carryOut_of_fault peer s h hopened]

/-! ## The output -/

/-- What a command whose search makes no request does: it sends nothing, and unless its output cannot be
opened it fails with the code for wrong requests and reports the fault.  Without an output file the disk
stays as it was.  An output file is there and empty afterwards, whatever was there before, and nothing else
has changed. -/
structure EmptiesOutput {π : Type} (a : ExportArguments) (disk : Disk) (fault : ResolveFault) (s : π)
    (outcome : Report × π) : Prop where
  nothing_sent : outcome.2 = s
  not_opened : ∀ f, a.opened disk = .error f →
    outcome.1.status = .error f ∧ outcome.1.disk = disk
  reported : ∀ there, a.opened disk = .ok there →
    outcome.1.status = .ok 2 ∧
      .err ("❌ Export failed: " ++ fault.toError.message) ∈ outcome.1.outputs
  no_output : a.output = none → outcome.1.disk = disk
  emptied : ∀ path there, a.output = some path → disk.write path "" = .ok there →
    outcome.1.disk.read path = .ok "" ∧
      (outcome.1.disk.read path = disk.read path ↔ disk.read path = .ok "")
  nothing_else : ∀ path there, a.output = some path → disk.write path "" = .ok there →
    ∃ p, disk.locate path = .ok p ∧
      ∀ q, Disk.pathOf q ≠ Disk.pathOf p → outcome.1.disk.node? q = disk.node? q

/-- **A command whose search makes no request empties its output file**, for every configuration, search,
command line, disk and peer. -/
theorem run_empties_output (a : ExportArguments) (w : Surroundings) (disk : Disk) (configPath : String)
    (peer : Peer π) (s : π) {plan : ExportPlan} {fault : ResolveFault}
    (h : a.LacksRequest w disk configPath plan fault) :
    a.EmptiesOutput disk fault s (a.run w disk configPath peer s) := by
  have hrun := run_of_fault peer s h
  dsimp only at hrun
  cases hopened : a.opened disk with
  | error f =>
    rw [hopened] at hrun
    have hnever : ∀ path there, a.output = some path → disk.write path "" = .ok there → False := by
      intro path there houtput hwrite
      rw [opened, houtput] at hopened
      cases hopened.symm.trans hwrite
    rw [hrun]
    exact {
      nothing_sent := rfl
      not_opened := fun f' hf' => by cases hopened.symm.trans hf'; exact ⟨rfl, rfl⟩
      reported := fun there hthere => by cases hopened.symm.trans hthere
      no_output := fun _ => rfl
      emptied := fun path there houtput hwrite => (hnever path there houtput hwrite).elim
      nothing_else := fun path there houtput hwrite => (hnever path there houtput hwrite).elim }
  | ok there =>
    rw [hopened] at hrun
    have hwritten : ∀ path there', a.output = some path → disk.write path "" = .ok there' →
        disk.write path "" = .ok there := by
      intro path there' houtput _
      rwa [opened, houtput] at hopened
    rw [hrun]
    exact {
      nothing_sent := rfl
      not_opened := fun f' hf' => by cases hopened.symm.trans hf'
      reported := fun _ _ => ⟨rfl, by simp [faultOutputs]⟩
      no_output := fun houtput => by
        rw [opened, houtput] at hopened
        cases hopened
        rfl
      emptied := fun path there' houtput hwrite => by
        obtain ⟨_, _, hread, _⟩ := Disk.write_spec (hwritten path there' houtput hwrite)
        simp only [hread, eq_comm, and_self]
      nothing_else := fun path there' houtput hwrite => by
        obtain ⟨p, hlocate, _, hother⟩ := Disk.write_spec (hwritten path there' houtput hwrite)
        exact ⟨p, hlocate, hother⟩ }

/-- A limit of zero messages, and an output that is not there yet: it is made. -/
theorem run_empties_output_of_zeroLimit :
    let disk : Disk := { entries := [("/msgexport.toml", .file ""), ("/search.json", .file
      ("\x7b\"id\": \"s\", \"queries\": [\x7b\"id\": \"q\", " ++
        "\"timerange\": \x7b\"type\": \"relative\", \"range\": 300\x7d\x7d]\x7d"))] }
    let a : ExportArguments := { search := "/search.json", limit := some 0, output := some "/out" }
    let w : Surroundings := { now := .epoch, exportId := "", pageBound := 1 }
    let outcome := a.run w disk "/msgexport.toml" (.absent Unit) ()
    ∃ plan fault, a.LacksRequest w disk "/msgexport.toml" plan fault ∧
      fault.toError = .validation "limit must be > 0 when set" ∧
      a.EmptiesOutput disk fault () outcome ∧
      disk.read "/out" = .error .missing ∧ outcome.1.disk.read "/out" = .ok "" := by
  intro disk a w outcome
  have hfault : (a.requestFault? w disk "/msgexport.toml").map ResolveFault.toError =
      some (.validation "limit must be > 0 when set") := by
    decide +kernel
  obtain ⟨fault, hsome, herror⟩ := Option.map_eq_some_iff.1 hfault
  obtain ⟨plan, hlacks⟩ := exists_lacksRequest hsome
  have hempties := run_empties_output a w disk "/msgexport.toml" (.absent Unit) () hlacks
  exact ⟨plan, fault, hlacks, herror, hempties, rfl, (hempties.emptied "/out" _ rfl rfl).1⟩

/-- A search without queries, and an output that is there: its content is gone, although nothing was
asked of the engine. -/
theorem run_loses_output_without_queries :
    let disk : Disk := { entries := [("/msgexport.toml", .file ""),
      ("/search.json", .file "\x7b\"id\":\"s\",\"queries\":[]\x7d"), ("/out", .file "kept")] }
    let a : ExportArguments := { search := "/search.json", output := some "/out" }
    let w : Surroundings := { now := .epoch, exportId := "", pageBound := 1 }
    let outcome := a.run w disk "/msgexport.toml" (.absent Unit) ()
    (∃ plan fault, a.LacksRequest w disk "/msgexport.toml" plan fault ∧
        fault.toError = .configuration "Search s has no queries") ∧
      outcome.1.status = .ok 2 ∧
      disk.read "/out" = .ok "kept" ∧ outcome.1.disk.read "/out" ≠ disk.read "/out" := by
  intro disk a w outcome
  have hfault : (a.requestFault? w disk "/msgexport.toml").map ResolveFault.toError =
      some (.configuration "Search s has no queries") := by
    decide +kernel
  obtain ⟨fault, hsome, herror⟩ := Option.map_eq_some_iff.1 hfault
  obtain ⟨plan, hlacks⟩ := exists_lacksRequest hsome
  have hrun : outcome = _ := run_of_fault (.absent Unit) () hlacks
  have hread : disk.read "/out" = .ok "kept" := rfl
  have hread' : outcome.1.disk.read "/out" = .ok "" := by
    rw [hrun]
    rfl
  refine ⟨⟨plan, fault, hlacks, herror⟩, by rw [hrun]; rfl, hread, ?_⟩
  rw [hread, hread']
  simp

end SearchExport.ExportArguments
