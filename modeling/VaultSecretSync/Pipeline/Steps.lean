import VaultSecretSync.Graph.Order

/-!
# The per-target steps of the pipeline

A `Pipeline` holds a configuration, the graph built from it and the optional S3 merge store.
Its two per-target steps are `mergeTarget`, which registers and triggers one merge sync for
each import (or writes one object per import to S3), and `syncTarget`, which registers and
triggers the sync of the merged secrets to the target's AWS account.

The steps call into the sync backend and the object store; `Backend` gives the outcome of each
such call (`none` for success, `some msg` for an error), so a statement over every `Backend`
holds for every behaviour of the services. The results keep what the source records, apart
from the durations. The main fact here is `Result.WellFormed`: a result of either step is
unsuccessful exactly when it carries an error (`mergeTarget_wellFormed`,
`syncTarget_wellFormed`), which is what the phases' error reporting relies on.
-/

namespace VaultSecretSync

/-! ### Results, sync specifications and the backend -/

/-- The operations `Run` accepts: `OperationMerge`, `OperationSync`, `OperationPipeline`. -/
def OperationMerge : String := "merge"

def OperationSync : String := "sync"

def OperationPipeline : String := "pipeline"

/-- The additional information of a result. -/
structure ResultDetails where
  secretsProcessed : Nat := 0
  sourcePaths : List String := []
  destinationPath : String := ""
  roleARN : String := ""
  failedImports : List String := []
  deriving DecidableEq, Repr

/-- The outcome of one target operation, its error as the error's text. -/
structure Result where
  target : String
  phase : String
  operation : String := ""
  success : Bool
  error : Option String
  details : ResultDetails := {}
  deriving DecidableEq, Repr

/-- A result is unsuccessful exactly when it carries an error. -/
def Result.WellFormed (r : Result) : Prop := r.success = r.error.isNone

/-- The destination store of a `VaultSecretSync`. -/
inductive SyncDest
  | vault (address path : String) (merge : Bool)
  | aws (name region roleArn : String)
  deriving DecidableEq, Repr

/-- The `VaultSecretSync` objects the pipeline registers, with the fields it sets; the Vault
namespace it copies into their Vault clients is left out. -/
structure SyncSpec where
  name : String
  syncNamespace : String
  dryRun : Bool
  syncDelete : Bool
  sourceAddress : String
  sourcePath : String
  dest : SyncDest
  deriving DecidableEq, Repr

/-- The outcome of each call into the outside services: the pipeline's initialisation
(`initError`), `backend.AddSyncConfig`, `backend.ManualTrigger` and the S3 store's
`WriteSecret` for a target and an import. -/
structure Backend where
  initError : Option String
  addSyncConfig : SyncSpec → Option String
  manualTrigger : SyncSpec → Option String
  writeSecret : String → String → Option String

/-- The S3 merge store as the pipeline uses it. -/
structure S3MergeStore where
  bucket : String
  keyPrefix : String
  deriving DecidableEq, Repr

/-- `S3MergeStore.GetMergePath`: `s3://<bucket>/<prefix>/<target>`, a slash added to a
non-empty prefix that lacks one. -/
def S3MergeStore.GetMergePath (s : S3MergeStore) (targetName : String) : String :=
  let pfx := if s.keyPrefix ≠ "" ∧ !s.keyPrefix.endsWith "/" then s.keyPrefix ++ "/" else s.keyPrefix
  "s3://" ++ s.bucket ++ "/" ++ pfx ++ targetName

/-- The orchestrator: the configuration, its graph, the S3 merge store when one is configured,
and `pipeline.sync.delete_orphans`. -/
structure Pipeline where
  config : Config
  graph : Graph
  s3Store : Option S3MergeStore
  deleteOrphans : Bool

namespace Pipeline

variable (p : Pipeline) (be : Backend)

/-- `createMergeSync`: the sync that merges one import into the target's merge path. -/
def createMergeSync (importName targetName sourcePath mergePath : String) (dryRun : Bool) :
    SyncSpec where
  name := "merge-" ++ importName ++ "-to-" ++ targetName
  syncNamespace := "pipeline"
  dryRun := dryRun
  syncDelete := false
  sourceAddress := p.config.vault.address
  sourcePath := sourcePath ++ "/(.*)"
  dest := .vault p.config.vault.address (mergePath ++ "/$1") true

/-- `createAWSSync`: the sync of the merged secrets to the target's account. -/
def createAWSSync (targetName sourcePath roleARN region : String) (dryRun : Bool) : SyncSpec where
  name := "sync-" ++ targetName
  syncNamespace := "pipeline"
  dryRun := dryRun
  syncDelete := p.deleteOrphans
  sourceAddress := p.config.vault.address
  sourcePath := sourcePath ++ "/(.*)"
  dest := .aws "$1" region roleARN

/-- The merge-store path of a target: under the Vault mount, else the S3 path, else none
(`no merge store configured`). -/
def mergeStorePath (targetName : String) : Option String :=
  match p.config.mergeStore.vault, p.s3Store with
  | some v, _ => some (v.mount ++ "/" ++ targetName)
  | none, some s => some (s.GetMergePath targetName)
  | none, none => none

/-- The accumulators of `mergeTarget`'s loop over the imports. -/
structure MergeAcc where
  sourcePaths : List String := []
  failedImports : List String := []
  lastErr : Option String := none
  successCount : Nat := 0

/-- One iteration of `mergeTarget`'s loop: resolve the import's source path, register and
trigger its merge sync when the merge store is Vault, write it to S3 when that store is set and
this is no dry run; the first failing call records the import as failed. -/
def mergeImport (targetName mergePath : String) (dryRun : Bool) (acc : MergeAcc)
    (importName : String) : MergeAcc :=
  let sourcePath := p.config.GetSourcePath importName
  let acc := { acc with sourcePaths := acc.sourcePaths ++ [sourcePath] }
  let vaultErr := match p.config.mergeStore.vault with
    | some _ =>
      let sync := p.createMergeSync importName targetName sourcePath mergePath dryRun
      (be.addSyncConfig sync).orElse fun _ => be.manualTrigger sync
    | none => none
  let err := vaultErr.orElse fun _ =>
    if p.s3Store.isSome ∧ !dryRun then be.writeSecret targetName importName else none
  match err with
  | some e => { acc with failedImports := acc.failedImports ++ [importName], lastErr := some e }
  | none => { acc with successCount := acc.successCount + 1 }

/-- `mergeTarget`: merge every import of the target into its merge path; successful when none
of the imports failed, with the last import error otherwise. -/
def mergeTarget (dryRun : Bool) (targetName : String) : Result :=
  match p.config.targets.lookup targetName with
  | none => { target := targetName, phase := "merge", success := false,
              error := some "target not found" }
  | some target =>
    match p.mergeStorePath targetName with
    | none => { target := targetName, phase := "merge", success := false,
                error := some "no merge store configured" }
    | some mergePath =>
      let acc := target.imports.foldl (p.mergeImport be targetName mergePath dryRun) {}
      { target := targetName, phase := "merge", operation := OperationMerge,
        success := acc.lastErr.isNone, error := acc.lastErr,
        details := { secretsProcessed := acc.successCount, sourcePaths := acc.sourcePaths,
                     destinationPath := mergePath, failedImports := acc.failedImports } }

/-- `syncTarget`: register and trigger the sync of the target's merged secrets to its account,
under the role `Config.GetRoleARN` resolves and the target's region (else the default one). -/
def syncTarget (dryRun : Bool) (targetName : String) : Result :=
  match p.config.targets.lookup targetName with
  | none => { target := targetName, phase := "sync", success := false,
              error := some "target not found" }
  | some target =>
    let roleARN := p.config.GetRoleARN target.accountID
    match p.mergeStorePath targetName with
    | none => { target := targetName, phase := "sync", success := false,
                error := some "no merge store configured" }
    | some sourcePath =>
      let region := if target.region = "" then p.config.aws.region else target.region
      let sync := p.createAWSSync targetName sourcePath roleARN region dryRun
      match be.addSyncConfig sync with
      | some err => { target := targetName, phase := "sync", success := false,
                      error := some ("failed to add sync config: " ++ err) }
      | none =>
        match be.manualTrigger sync with
        | some err => { target := targetName, phase := "sync", success := false,
                        error := some ("failed to trigger sync: " ++ err) }
        | none => { target := targetName, phase := "sync", operation := OperationSync, success := true,
                    error := none,
                    details := { sourcePaths := [sourcePath],
                                 destinationPath := "aws:" ++ target.accountID,
                                 roleARN := roleARN } }

/-! ### Well-formed results -/

variable {p be}

/-- Every result of `mergeTarget` names its target and the merge phase, and is well formed. -/
theorem mergeTarget_wellFormed (dryRun : Bool) (targetName : String) :
    let r := p.mergeTarget be dryRun targetName
    r.target = targetName ∧ r.phase = "merge" ∧ r.WellFormed := by
  unfold mergeTarget
  repeat' split
  all_goals exact ⟨rfl, rfl, rfl⟩

/-- Every result of `syncTarget` names its target and the sync phase, and is well formed. -/
theorem syncTarget_wellFormed (dryRun : Bool) (targetName : String) :
    let r := p.syncTarget be dryRun targetName
    r.target = targetName ∧ r.phase = "sync" ∧ r.WellFormed := by
  unfold syncTarget
  dsimp only
  repeat' split
  all_goals exact ⟨rfl, rfl, rfl⟩

end Pipeline

end VaultSecretSync
