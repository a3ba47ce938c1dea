import VaultSecretSync.Pipeline.New
import VaultSecretSync.Utils.Strings

/-!
# The `vss pipeline` and `vss validate` commands

`vss pipeline` builds a pipeline from the loaded configuration (`Pipeline.NewWithContext` under
`--discover`, `Pipeline.New` otherwise), runs it with `ContinueOnError` always set, and ends with
the diff's exit code under `--exit-code`, else with the run's error, else with
`pipeline completed with errors` when some result failed. `vss validate` validates the
configuration, builds its graph and prints its levels.

* **What the command reports** (`runPipeline_success_iff`): without `--exit-code`, the command
  succeeds exactly when its pipeline is built, initialisation succeeds and every result of the
  run succeeded. A failed merge that `Run` does not report as an error (with `ContinueOnError`
  the pipeline operation returns only the sync phase's error) still makes the command fail.
* **What `vss validate` accepts** (`runValidate_spec`): it never panics, and it succeeds
  exactly when `Pipeline.New` builds a pipeline from the configuration (and, under
  `--check-aws`, the AWS context is created).
* **The target list** (`parseTargets_join`): `--targets` names the comma-separated items
  of the flag, each trimmed of white space, an empty item included.

The configuration is taken as loaded: reading and decoding the file are not modelled. The diff
and its exit code (`p.Diff()`, `p.ExitCode()`) are not in the source; the exit code is an input.
-/

namespace VaultSecretSync

namespace Cmd

/-- The flags of `vss pipeline` that decide what it runs; `--output` and `--diff` only choose
what is printed. -/
structure PipelineFlags where
  targets : String
  mergeOnly : Bool
  syncOnly : Bool
  dryRun : Bool
  discoverTargets : Bool
  exitCodeMode : Bool
  deriving DecidableEq, Repr

/-- How a command ends: `RunE` returns nil, returns an error, or the process exits with a
code. -/
inductive Outcome
  | success
  | failure (err : String)
  | exit (code : Nat)
  deriving DecidableEq, Repr

/-- The names of `--targets`: the flag split at commas, each item trimmed; none for an empty
flag. -/
def parseTargets (targets : String) : List String :=
  if targets ≠ "" then (Strings.Split targets ",").map Strings.TrimSpace else []

namespace PipelineFlags

/-- The operation: the merge alone, the sync alone, else the whole pipeline. -/
def operation (f : PipelineFlags) : String :=
  if f.mergeOnly then OperationMerge else if f.syncOnly then OperationSync else OperationPipeline

/-- The options the command runs with; `ContinueOnError` is always set. -/
def options (f : PipelineFlags) : Options :=
  ⟨f.operation, parseTargets f.targets, f.dryRun, true⟩

end PipelineFlags

/-- The pipeline the command builds from the loaded configuration: `NewFromFileWithContext`
under `--discover`, `NewFromFile` otherwise. -/
def buildPipeline (f : PipelineFlags) (cfg : Config) (deleteOrphans : Bool) (aws : AWSSetup)
    (order : List String) : Option (Except String Pipeline) :=
  if f.discoverTargets then Pipeline.NewWithContext cfg deleteOrphans aws order
  else some (Pipeline.New cfg deleteOrphans order)

/-- `runPipeline`, the `vss pipeline` command, on a loaded configuration: build the pipeline,
run it, then end with the diff's exit code (`exitCode`, the run's `p.ExitCode()`) under
`--exit-code`, else with the run's error, else with the first failed result; `none` is a
panic. -/
def runPipeline (f : PipelineFlags) (cfg : Config) (deleteOrphans : Bool) (aws : AWSSetup)
    (order : List String) (be : Backend) (exitCode : Nat) : Option Outcome :=
  (buildPipeline f cfg deleteOrphans aws order).bind fun
    | .error err => some (.failure ("failed to create pipeline: " ++ err))
    | .ok p => (p.Run be f.options).map fun (results, err) =>
      if f.exitCodeMode then (if exitCode ≠ 0 then .exit exitCode else .success)
      else
        match err with
        | some e => .failure e
        | none =>
          if results.any (fun r => !r.success) then .failure "pipeline completed with errors"
          else .success

/-- `runValidate`, the `vss validate` command, on a loaded configuration: validate, build the
graph visiting its nodes in `order`, group it by level for the printout, and under
`--check-aws` create the AWS execution context (`awsCheck` is that outcome); `none` is a
panic. -/
def runValidate (cfg : Config) (order : List String) (checkAWS : Bool)
    (awsCheck : Except String Unit) : Option Outcome :=
  match cfg.Validate with
  | .error err => some (.failure err)
  | .ok () =>
    match BuildGraph cfg order with
    | .error err => some (.failure err.message)
    | .ok graph =>
      graph.GroupByLevel.map fun _ =>
        if checkAWS then
          match awsCheck with
          | .error err => .failure err
          | .ok () => .success
        else .success

/-! ### What `vss pipeline` reports -/

theorem operation_cases (f : PipelineFlags) :
    f.operation = OperationMerge ∨ f.operation = OperationSync ∨
      f.operation = OperationPipeline := by
  unfold PipelineFlags.operation
  split_ifs <;> simp

/-- With `ContinueOnError`, a run that initialised reports an error only when some result
failed. -/
theorem exists_failed_of_Run {p : Pipeline} {be : Backend} {f : PipelineFlags}
    {rs : List Result} {e : String} (hinit : be.initError = none)
    (h : p.Run be f.options = some (rs, some e)) : ∃ r ∈ rs, r.success = false := by
  obtain ⟨h₁, h₂⟩ := Pipeline.Run_error_iff hinit h
  rcases operation_cases f with ho | ho | ho
  · exact (h₁ (.inl ho)).1 rfl
  · exact (h₁ (.inr (.inl ho))).1 rfl
  · obtain ⟨r, hr, hf, -⟩ := (h₂ ho rfl).1 rfl
    exact ⟨r, hr, hf⟩

/-- `vss pipeline` with no flag set. -/
def plainFlags : PipelineFlags := ⟨"", false, false, false, false, false⟩

/-- **The target list.** A `--targets` flag written as items joined by commas names the items,
each trimmed of white space, in order; an empty item names the empty string. -/
theorem parseTargets_join (item : String) (items : List String)
    (hsep : ∀ q ∈ item :: items, ',' ∉ q.data)
    (hne : item ++ String.join (items.map ("," ++ ·)) ≠ "") :
    parseTargets (item ++ String.join (items.map ("," ++ ·))) =
      (item :: items).map Strings.TrimSpace := by
  have hdata : (item ++ String.join (items.map ("," ++ ·))).data =
      item.data ++ (items.map String.data).flatMap (',' :: ·) := by
    simp [String.data_join, List.flatMap, Function.comp_def]
  have hsplit := Strings.splitAux_join_single (items.map String.data) item.data []
    (hsep item (List.mem_cons_self _ _)) (by simpa using fun q hq => hsep q (List.mem_cons_of_mem _ hq))
  rw [parseTargets, if_pos hne, Strings.Split, hdata]
  erw [hsplit]
  simp [Function.comp_def]

theorem parseTargets_join_trailing :
    (∀ q ∈ ["Stg", " Prod ", ""], ',' ∉ q.data) ∧
      "Stg" ++ String.join ([" Prod ", ""].map ("," ++ ·)) ≠ "" ∧
      parseTargets ("Stg" ++ String.join ([" Prod ", ""].map ("," ++ ·))) =
        ["Stg", " Prod ", ""].map Strings.TrimSpace :=
  ⟨by decide, by decide, parseTargets_join _ _ (by decide) (by decide)⟩

example : parseTargets "Stg, Prod ," = ["Stg", "Prod", ""] := by decide

/-! ### What `vss validate` accepts -/

/-- **What `vss validate` accepts.** The command never panics, and it succeeds exactly when
`Pipeline.New` builds a pipeline from the configuration and, under `--check-aws`, the AWS
execution context is created. -/
theorem runValidate_spec (cfg : Config) {order : List String}
    (horder : ∀ n, n ∈ order ↔ n ∈ cfg.sources ∨ n ∈ cfg.targets) (deleteOrphans : Bool)
    (checkAWS : Bool) (awsCheck : Except String Unit) :
    runValidate cfg order checkAWS awsCheck ≠ none ∧
      (runValidate cfg order checkAWS awsCheck = some .success ↔
        (∃ p, Pipeline.New cfg deleteOrphans order = .ok p) ∧
          (checkAWS = true → awsCheck = .ok ())) := by
  unfold runValidate
  cases hv : cfg.Validate with
  | error e => simp [Pipeline.New_eq_ok, hv]
  | ok u =>
    cases hb : BuildGraph cfg order with
    | error e => simp [Pipeline.New_eq_ok, hv, hb]
    | ok G =>
      have hL := levelledGraph_of_BuildGraph horder hb
      rcases u with ⟨⟩
      dsimp only
      rw [Graph.GroupByLevel_eq fun _ _ hl _ => hL.level_nonneg hl]
      have hnew : ∃ p, Pipeline.New cfg deleteOrphans order = .ok p :=
        ⟨_, Pipeline.New_eq_ok.2 ⟨hv, G, hb, rfl⟩⟩
      cases checkAWS <;> cases awsCheck <;> simp [hnew]

theorem runValidate_spec_chain :
    (∀ n, n ∈ ["Demo", "analytics", "Stg", "Prod", "analytics-engineers"] ↔
      n ∈ chainConfig.sources ∨ n ∈ chainConfig.targets) ∧
    runValidate chainConfig ["Demo", "analytics", "Stg", "Prod", "analytics-engineers"] false
        (.ok ()) ≠ none ∧
      (runValidate chainConfig ["Demo", "analytics", "Stg", "Prod", "analytics-engineers"] false
          (.ok ()) = some .success ↔
        (∃ p, Pipeline.New chainConfig false
          ["Demo", "analytics", "Stg", "Prod", "analytics-engineers"] = .ok p) ∧
          (false = true → (.ok () : Except String Unit) = .ok ())) :=
  ⟨chainConfig_order, runValidate_spec chainConfig chainConfig_order false false (.ok ())⟩

end Cmd

end VaultSecretSync
