import VaultSecretSync.Pipeline.Run
import VaultSecretSync.Discovery

/-!
# Building a pipeline

`Pipeline.New` validates a loaded configuration, builds its dependency graph and holds both;
`Pipeline.NewWithContext` does the same around the discovery of the dynamic targets, and creates
the S3 merge store's client when the merge store is S3. The commands build their pipeline with
one of the two and then call `Run`.

* **The S3 merge store** (`Run_New_s3Only`): `New` never creates the S3 store. A configuration
  whose merge store is S3 alone passes `New`, and then every result of every run of its pipeline
  fails, with `no merge store configured` for each target of the configuration. A pipeline
  `NewWithContext` builds has the store, and none of its results reports that error.
* **Panics** (`Run_New_eq_none_iff`): on a pipeline `New` built, `Run` panics exactly when
  `IncludeDependencies` does, when the request names something that is neither a source nor a
  target and its closure has two or more names; a request of configured names never panics
  (`Run_New_ne_none`).

What AWS contributes to `NewWithContext` is an input, `AWSSetup`: the execution context, as the
discoverers it serves (`none` when its creation failed, which the source only logs), and the
outcome of creating the S3 client.
-/

namespace VaultSecretSync

namespace Pipeline

/-- `New`: validate the configuration, build its graph visiting the nodes in `order`, and hold
both; no S3 merge store is created. `deleteOrphans` is the configuration's
`pipeline.sync.delete_orphans`, which `createAWSSync` reads. -/
def New (cfg : Config) (deleteOrphans : Bool) (order : List String) : Except String Pipeline :=
  match cfg.Validate with
  | .error err => .error ("invalid configuration: " ++ err)
  | .ok () =>
    match BuildGraph cfg order with
    | .error err => .error ("failed to build dependency graph: " ++ err.message)
    | .ok graph => .ok ⟨cfg, graph, none, deleteOrphans⟩

end Pipeline

/-- What AWS gives `NewWithContext`: the execution context, as the discoverers it serves
(`none` when `NewAWSExecutionContext` failed), and the error of `NewS3MergeStore`, if any. -/
structure AWSSetup where
  awsCtx : Option Discoverers
  s3Error : Option String

namespace Pipeline

/-- `NewWithContext`: validate; use the AWS context when a region is set; expand the dynamic
targets when there is a context and some dynamic target (`none` is a panic of the discovery);
build the graph of the expanded configuration, visiting its nodes in `order`; create the S3
store when the merge store is S3. -/
def NewWithContext (cfg : Config) (deleteOrphans : Bool) (aws : AWSSetup) (order : List String) :
    Option (Except String Pipeline) :=
  match cfg.Validate with
  | .error err => some (.error ("invalid configuration: " ++ err))
  | .ok () =>
    let awsCtx := if cfg.aws.region ≠ "" then aws.awsCtx else none
    let expanded := match awsCtx with
      | some disc =>
        if cfg.dynamicTargets.entries ≠ [] then ExpandDynamicTargets cfg disc else some cfg
      | none => some cfg
    expanded.map fun cfg =>
      match BuildGraph cfg order with
      | .error err => .error ("failed to build dependency graph: " ++ err.message)
      | .ok graph =>
        match cfg.mergeStore.s3 with
        | none => .ok ⟨cfg, graph, none, deleteOrphans⟩
        | some s3 =>
          match aws.s3Error with
          | some err =>
            .error ("failed to create S3 merge store: failed to load AWS config: " ++ err)
          | none => .ok ⟨cfg, graph, some ⟨s3.bucket, s3.keyPrefix⟩, deleteOrphans⟩

/-! ### What the constructors build -/

variable {cfg : Config} {deleteOrphans : Bool} {order : List String} {p : Pipeline}

theorem New_eq_ok : New cfg deleteOrphans order = .ok p ↔
    cfg.Validate = .ok () ∧ ∃ G, BuildGraph cfg order = .ok G ∧ p = ⟨cfg, G, none, deleteOrphans⟩ := by
  unfold New
  cases cfg.Validate with
  | error e => simp
  | ok u =>
    cases BuildGraph cfg order with
    | error e => simp
    | ok G => simp [eq_comm]

/-- `NewWithContext` keeps the merge store of the configuration it validated, and creates the S3
store for an S3 merge store. -/
theorem NewWithContext_store {aws : AWSSetup} (h : NewWithContext cfg deleteOrphans aws order = some (.ok p)) :
    cfg.Validate = .ok () ∧ p.config.mergeStore = cfg.mergeStore ∧
      p.s3Store = cfg.mergeStore.s3.map fun s3 => ⟨s3.bucket, s3.keyPrefix⟩ := by
  unfold NewWithContext at h
  split at h
  · cases h
  · next hv =>
    obtain ⟨cfg', hexp, h⟩ := Option.map_eq_some'.1 h
    have hms : cfg'.mergeStore = cfg.mergeStore := by
      split at hexp
      · split_ifs at hexp
        · obtain ⟨_, -, rfl⟩ := (ExpandDynamicTargets_eq_some _ _ _).1 hexp
          rfl
        · cases hexp; rfl
      · cases hexp; rfl
    refine ⟨hv, ?_⟩
    split at h
    · cases h
    · split at h
      · next hs => cases h; simp [← hms, hs]
      · next s3 hs =>
        split at h
        · cases h
        · cases h; simp [← hms, hs]

/-! ### The results of a run -/

variable {be : Backend} {opts : Options} {rs : List Result} {err : Option String}

/-- Every result of a run is the merge or the sync of some name. -/
theorem mem_Run {r : Result} (h : p.Run be opts = some (rs, err)) (hr : r ∈ rs) :
    ∃ t, r = p.mergeTarget be opts.dryRun t ∨ r = p.syncTarget be opts.dryRun t := by
  unfold Run at h
  split at h
  · cases h; cases hr
  · obtain ⟨targets, -, h⟩ := Option.bind_eq_some.1 h
    split_ifs at h
    · obtain ⟨t, rfl⟩ := mem_executeMergePhase h hr
      exact ⟨t, .inl rfl⟩
    · have hr' : r ∈ (p.runSync be targets opts).1 := by rw [Option.some_inj.1 h]; exact hr
      obtain ⟨t, rfl⟩ := mem_executeSyncPhase hr'
      exact ⟨t, .inr rfl⟩
    · obtain ⟨⟨mrs, merr⟩, hm, h⟩ := Option.map_eq_some'.1 h
      dsimp only at h
      split_ifs at h
      · cases h
        obtain ⟨t, rfl⟩ := mem_executeMergePhase hm hr
        exact ⟨t, .inl rfl⟩
      · cases h
        rcases List.mem_append.1 hr with hr | hr
        · obtain ⟨t, rfl⟩ := mem_executeMergePhase hm hr
          exact ⟨t, .inl rfl⟩
        · obtain ⟨t, rfl⟩ := mem_executeSyncPhase hr
          exact ⟨t, .inr rfl⟩
    · cases h; cases hr

/-- Without a merge store, the merge of a name fails, for want of the store when the name is a
target and for want of the target otherwise. -/
theorem mergeTarget_of_mergeStorePath (be : Backend) (dryRun : Bool) {t : String} (h : p.mergeStorePath t = none) :
    (p.mergeTarget be dryRun t).target = t ∧ (p.mergeTarget be dryRun t).success = false ∧
      (p.mergeTarget be dryRun t).error =
        some (if t ∈ p.config.targets then "no merge store configured" else "target not found") := by
  unfold mergeTarget
  cases hl : p.config.targets.lookup t with
  | none => simp [AList.lookup_eq_none.1 hl]
  | some target =>
    have ht : t ∈ p.config.targets := AList.lookup_isSome.1 (by simp [hl])
    simp [h, ht]

/-- Without a merge store, the sync of a name fails as its merge does. -/
theorem syncTarget_of_mergeStorePath (be : Backend) (dryRun : Bool) {t : String} (h : p.mergeStorePath t = none) :
    (p.syncTarget be dryRun t).target = t ∧ (p.syncTarget be dryRun t).success = false ∧
      (p.syncTarget be dryRun t).error =
        some (if t ∈ p.config.targets then "no merge store configured" else "target not found") := by
  unfold syncTarget
  cases hl : p.config.targets.lookup t with
  | none => simp [AList.lookup_eq_none.1 hl]
  | some target =>
    have ht : t ∈ p.config.targets := AList.lookup_isSome.1 (by simp [hl])
    simp [h, ht]

/-! ### The S3 merge store -/

theorem mergeStorePath_New (hv : cfg.mergeStore.vault = none)
    (h : New cfg deleteOrphans order = .ok p) (t : String) : p.mergeStorePath t = none := by
  obtain ⟨-, G, -, rfl⟩ := New_eq_ok.1 h
  simp [mergeStorePath, hv]

theorem mergeStorePath_NewWithContext {aws : AWSSetup}
    (h : NewWithContext cfg deleteOrphans aws order = some (.ok p)) (t : String) :
    p.mergeStorePath t ≠ none := by
  obtain ⟨hv, hms, hs3⟩ := NewWithContext_store h
  obtain ⟨-, hstore, -⟩ := (Config.Validate_eq_ok cfg).1 hv
  unfold mergeStorePath
  rw [hms, hs3]
  rcases hstore with hv | hs <;> split <;> simp_all

/-- **The S3 merge store.** `New` never creates the S3 store: on a configuration whose merge store
has no Vault part, every result of a run of the pipeline `New` builds fails, with
`no merge store configured` for a target of the configuration and `target not found` for any
other name. -/
theorem Run_New_s3Only (hv : cfg.mergeStore.vault = none) (h : New cfg deleteOrphans order = .ok p)
    (hrun : p.Run be opts = some (rs, err)) : ∀ r ∈ rs, r.success = false ∧
      r.error = some (if r.target ∈ cfg.targets then "no merge store configured"
        else "target not found") := by
  have hcfg : p.config = cfg := by obtain ⟨-, G, -, rfl⟩ := New_eq_ok.1 h; rfl
  intro r hr
  obtain ⟨t, rfl | rfl⟩ := mem_Run hrun hr
  · obtain ⟨ht, hs, he⟩ := mergeTarget_of_mergeStorePath be opts.dryRun
      (mergeStorePath_New hv h t)
    rw [ht, hs, he, hcfg]
    exact ⟨rfl, rfl⟩
  · obtain ⟨ht, hs, he⟩ := syncTarget_of_mergeStorePath be opts.dryRun
      (mergeStorePath_New hv h t)
    rw [ht, hs, he, hcfg]
    exact ⟨rfl, rfl⟩

/-- The chain configuration with its merge store moved to S3. -/
def s3OnlyConfig : Config :=
  { chainConfig with mergeStore := ⟨none, some ⟨"merged-secrets", "pipeline"⟩⟩ }

/-- The pipeline `New` builds from `s3OnlyConfig`. -/
def s3OnlyPipeline : Pipeline where
  config := s3OnlyConfig
  graph :=
    match BuildGraph s3OnlyConfig ["Demo", "analytics", "Stg", "Prod", "analytics-engineers"] with
    | .ok G => G
    | .error _ => ⟨∅⟩
  s3Store := none
  deleteOrphans := false

theorem Run_New_s3Only_chain :
    s3OnlyConfig.mergeStore.vault = none ∧
    New s3OnlyConfig false ["Demo", "analytics", "Stg", "Prod", "analytics-engineers"] =
      .ok s3OnlyPipeline ∧ ∃ rs err,
      s3OnlyPipeline.Run mergeFailBackend ⟨OperationPipeline, [], false, true⟩ = some (rs, err) ∧
      rs ≠ [] ∧ ∀ r ∈ rs, r.success = false ∧ r.error = some (if r.target ∈ s3OnlyConfig.targets
        then "no merge store configured" else "target not found") := by
  have hp : New s3OnlyConfig false ["Demo", "analytics", "Stg", "Prod", "analytics-engineers"] =
      .ok s3OnlyPipeline := rfl
  have hne : (s3OnlyPipeline.Run mergeFailBackend ⟨OperationPipeline, [], false, true⟩).map
      (fun x => decide (x.1 ≠ [])) = some true := by decide
  cases hrun : s3OnlyPipeline.Run mergeFailBackend ⟨OperationPipeline, [], false, true⟩ with
  | none => rw [hrun] at hne; cases hne
  | some x =>
    rw [hrun] at hne
    exact ⟨rfl, hp, x.1, x.2, rfl, by simpa using hne, Run_New_s3Only rfl hp hrun⟩

/-! ### Panics -/

/-- On a graph whose levels group without a panic, `Run` panics exactly when the resolution of
the requested targets does, after a successful initialisation. -/
theorem Run_eq_none_iff (hgroup : p.graph.GroupByLevel.isSome) :
    p.Run be opts = none ↔ be.initError = none ∧ p.resolveTargets opts.targets = none := by
  obtain ⟨levels, hlevels⟩ := Option.isSome_iff_exists.1 hgroup
  unfold Run
  cases be.initError with
  | some e => simp
  | none =>
    cases p.resolveTargets opts.targets with
    | none => simp
    | some targets =>
      simp only [Option.some_bind, reduceCtorEq, and_false, iff_false]
      split_ifs <;> simp [runMerge, runPipeline, executeMergePhase, hlevels]

theorem GroupByLevel_New_isSome (horder : ∀ n, n ∈ order ↔ n ∈ cfg.sources ∨ n ∈ cfg.targets)
    (h : New cfg deleteOrphans order = .ok p) :
    p.config = cfg ∧ cfg.LevelledGraph p.graph ∧ p.graph.GroupByLevel.isSome := by
  obtain ⟨-, G, hG, rfl⟩ := New_eq_ok.1 h
  have hL := levelledGraph_of_BuildGraph horder hG
  exact ⟨rfl, hL, by rw [Graph.GroupByLevel_eq fun _ _ hl _ => hL.level_nonneg hl]; rfl⟩

/-- **Panics of a run.** On a pipeline `New` built, `Run` panics exactly when initialisation
succeeds and `IncludeDependencies` panics: some target is requested, the requested names and
their target dependencies are two or more, and one of them is neither a source nor a target. -/
theorem Run_New_eq_none_iff (horder : ∀ n, n ∈ order ↔ n ∈ cfg.sources ∨ n ∈ cfg.targets)
    (h : New cfg deleteOrphans order = .ok p) (be : Backend) (opts : Options) :
    p.Run be opts = none ↔ be.initError = none ∧ opts.targets ≠ [] ∧
      2 ≤ (p.graph.includedNames opts.targets).length ∧
      ∃ n ∈ p.graph.includedNames opts.targets, n ∉ cfg.sources ∧ n ∉ cfg.targets := by
  obtain ⟨-, hL, hgroup⟩ := GroupByLevel_New_isSome horder h
  rw [Run_eq_none_iff hgroup, resolveTargets]
  by_cases h0 : opts.targets = []
  · simp [h0]
  · have hnode : ∀ n, n ∉ p.graph.nodes ↔ n ∉ cfg.sources ∧ n ∉ cfg.targets := fun n => by
      rw [hL.mem, not_or]
    simp only [if_neg h0, Graph.IncludeDependencies, ← hnode]
    split_ifs with hc <;> simp [h0, hc]

theorem Run_New_eq_none_iff_chain :
    (∀ n, n ∈ ["Demo", "analytics", "Stg", "Prod", "analytics-engineers"] ↔
      n ∈ chainConfig.sources ∨ n ∈ chainConfig.targets) ∧ ∃ p : Pipeline,
      New chainConfig false ["Demo", "analytics", "Stg", "Prod", "analytics-engineers"] = .ok p ∧
      (p.Run mergeFailBackend ⟨OperationPipeline, ["Demo", "Beta"], false, true⟩ = none ↔
        mergeFailBackend.initError = none ∧ ["Demo", "Beta"] ≠ [] ∧
        2 ≤ (p.graph.includedNames ["Demo", "Beta"]).length ∧
        ∃ n ∈ p.graph.includedNames ["Demo", "Beta"],
          n ∉ chainConfig.sources ∧ n ∉ chainConfig.targets) :=
  ⟨chainConfig_order, chainPipeline, rfl, Run_New_eq_none_iff chainConfig_order rfl _ _⟩

/-- A run of a pipeline `New` built does not panic on a request of configured names. -/
theorem Run_New_ne_none (horder : ∀ n, n ∈ order ↔ n ∈ cfg.sources ∨ n ∈ cfg.targets)
    (h : New cfg deleteOrphans order = .ok p) (be : Backend) {opts : Options}
    (hreq : ∀ t ∈ opts.targets, t ∈ cfg.sources ∨ t ∈ cfg.targets) : p.Run be opts ≠ none := by
  obtain ⟨hcfg, hL, hgroup⟩ := GroupByLevel_New_isSome horder h
  rw [Ne, Run_eq_none_iff hgroup, resolveTargets]
  split_ifs
  · simp
  · rw [Graph.IncludeDependencies_eq fun r hr => (hL.mem r).2 (hreq r hr)]
    simp

/-- A request of two targets of the chain configuration runs without a panic. -/
theorem Run_New_ne_none_chain :
    (∀ n, n ∈ ["Demo", "analytics", "Stg", "Prod", "analytics-engineers"] ↔
      n ∈ chainConfig.sources ∨ n ∈ chainConfig.targets) ∧
      New chainConfig false ["Demo", "analytics", "Stg", "Prod", "analytics-engineers"] =
        .ok chainPipeline ∧
      (∀ t ∈ ["Prod", "Demo"], t ∈ chainConfig.sources ∨ t ∈ chainConfig.targets) ∧
      chainPipeline.Run mergeFailBackend ⟨OperationPipeline, ["Prod", "Demo"], false, true⟩ ≠ none :=
  ⟨chainConfig_order, rfl, by decide,
    Run_New_ne_none chainConfig_order rfl mergeFailBackend (by decide)⟩

end Pipeline

end VaultSecretSync
