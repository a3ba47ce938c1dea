import VaultSecretSync.Pipeline.Run

/-!
# The sync specifications of the pipeline

`Pipeline.GenerateConfigs` lists the `VaultSecretSync` objects a run registers, without
executing them: for a Vault merge store, one merge sync `merge-<import>-to-<target>` per
resolved target and import, reading the import from `Config.GetSourcePath`; then one AWS sync
`sync-<target>` per resolved target. All of them sit in the namespace `pipeline`, and the sync
backend keys its registry by namespace and name.

* `GetSourcePath_inherited_iff`: `GetSourcePath` takes its inherited-target branch for a name
  exactly when the graph's node of that name is a target, provided the name is not also a
  source with a Vault mount. `GetSourcePath_shadowed_target` shows a valid configuration where
  such a name is read from the source's mount although the graph orders it as a target.
* `GenerateConfigs_keys`: every generated sync is in `pipeline`; two with one name are AWS
  syncs of one target, or merge syncs that share their import exactly when they share their
  target (`createMergeSync_name_eq`). `GenerateConfigs_key_collision` shows two merge syncs of a
  valid configuration that differ in both and share their name.
-/

namespace VaultSecretSync

/-- The zero value of `Target`, which Go reads for a name missing from `Targets`. -/
def Target.zero : Target := ⟨"", [], "", "", ""⟩

namespace Pipeline

variable (p : Pipeline)

/-- `GenerateConfigs`: the merge syncs of every resolved target's imports when the merge store
is Vault and the operation merges, then the AWS syncs of every resolved target when it syncs,
skipping them for an S3 merge store; a panic (`none`) of `resolveTargets`. -/
def GenerateConfigs (opts : Options) : Option (List SyncSpec) :=
  (p.resolveTargets opts.targets).map fun targets =>
    let mergeConfigs := match p.config.mergeStore.vault with
      | some mv =>
        if opts.operation = OperationMerge ∨ opts.operation = OperationPipeline then
          targets.flatMap fun targetName =>
            ((p.config.targets.lookup targetName).getD Target.zero).imports.map fun importName =>
              p.createMergeSync importName targetName (p.config.GetSourcePath importName)
                (mv.mount ++ "/" ++ targetName) opts.dryRun
        else []
      | none => []
    let syncConfigs :=
      if opts.operation = OperationSync ∨ opts.operation = OperationPipeline then
        targets.filterMap fun targetName =>
          let target := (p.config.targets.lookup targetName).getD Target.zero
          let sourcePath : Option String :=
            match p.config.mergeStore.vault, p.config.mergeStore.s3 with
            | some mv, _ => some (mv.mount ++ "/" ++ targetName)
            | none, some _ => none
            | none, none => some ""
          sourcePath.map fun sourcePath =>
            p.createAWSSync targetName sourcePath (p.config.GetRoleARN target.accountID)
              (if target.region = "" then p.config.aws.region else target.region) opts.dryRun
      else []
    mergeConfigs ++ syncConfigs

/-! ### Names of the syncs -/

variable {p}

/-- Two merge syncs with one name share their import exactly when they share their target. -/
theorem createMergeSync_name_eq {i₁ t₁ i₂ t₂ sp₁ sp₂ mp₁ mp₂ : String}
    {d₁ d₂ : Bool}
    (h : (p.createMergeSync i₁ t₁ sp₁ mp₁ d₁).name =
      (p.createMergeSync i₂ t₂ sp₂ mp₂ d₂).name) :
    i₁ = i₂ ↔ t₁ = t₂ := by
  have hd := congrArg String.data h
  simp only [createMergeSync, String.data_append, List.append_assoc,
    List.append_cancel_left_eq] at hd
  constructor
  · rintro rfl
    exact String.ext (by simpa using hd)
  · rintro rfl
    exact String.ext (List.append_cancel_right hd)

theorem createAWSSync_name_inj {t₁ t₂ sp₁ sp₂ r₁ r₂ g₁ g₂ : String}
    {d₁ d₂ : Bool}
    (h : (p.createAWSSync t₁ sp₁ r₁ g₁ d₁).name =
      (p.createAWSSync t₂ sp₂ r₂ g₂ d₂).name) :
    t₁ = t₂ :=
  String.ext (by simpa [createAWSSync] using congrArg String.data h)

theorem createMergeSync_name_ne {i t sp mp t' sp' r g : String} {d d' : Bool} :
    (p.createMergeSync i t sp mp d).name ≠ (p.createAWSSync t' sp' r g d').name := fun h => by
  simpa [createMergeSync, createAWSSync] using congrArg (fun s : String => s.data.head?) h

/-! ### The output of `GenerateConfigs` -/

/-- Every generated sync is a merge sync or an AWS sync. -/
theorem mem_GenerateConfigs {opts : Options} {specs : List SyncSpec}
    (h : p.GenerateConfigs opts = some specs) {s : SyncSpec} (hs : s ∈ specs) :
    (∃ i t sp mp, s = p.createMergeSync i t sp mp opts.dryRun) ∨
      ∃ t sp r g, s = p.createAWSSync t sp r g opts.dryRun := by
  obtain ⟨targets, -, rfl⟩ := Option.map_eq_some'.1 h
  rcases List.mem_append.1 hs with hs | hs
  · left
    split at hs
    · split_ifs at hs
      · simp only [List.mem_flatMap, List.mem_map] at hs
        obtain ⟨t, -, i, -, rfl⟩ := hs
        exact ⟨_, _, _, _, rfl⟩
      · simp at hs
    · simp at hs
  · right
    split_ifs at hs
    · simp only [List.mem_filterMap, Option.map_eq_some'] at hs
      obtain ⟨t, -, sp, -, rfl⟩ := hs
      exact ⟨_, _, _, _, rfl⟩
    · simp at hs

/-- **Registry keys.** Every sync `GenerateConfigs` lists is in the namespace `pipeline`; two
of them with one name are AWS syncs of one target, or merge syncs that share their import
exactly when they share their target. -/
theorem GenerateConfigs_keys {opts : Options} {specs : List SyncSpec}
    (h : p.GenerateConfigs opts = some specs) :
    (∀ s ∈ specs, s.syncNamespace = "pipeline") ∧
      ∀ s₁ ∈ specs, ∀ s₂ ∈ specs, s₁.name = s₂.name →
        (∃ t sp₁ r₁ g₁ sp₂ r₂ g₂, s₁ = p.createAWSSync t sp₁ r₁ g₁ opts.dryRun ∧
          s₂ = p.createAWSSync t sp₂ r₂ g₂ opts.dryRun) ∨
        ∃ i₁ t₁ sp₁ mp₁ i₂ t₂ sp₂ mp₂, s₁ = p.createMergeSync i₁ t₁ sp₁ mp₁ opts.dryRun ∧
          s₂ = p.createMergeSync i₂ t₂ sp₂ mp₂ opts.dryRun ∧ (i₁ = i₂ ↔ t₁ = t₂) := by
  refine ⟨fun s hs => ?_, fun s₁ h₁ s₂ h₂ hn => ?_⟩
  · rcases mem_GenerateConfigs h hs with ⟨_, _, _, _, rfl⟩ | ⟨_, _, _, _, rfl⟩ <;> rfl
  · rcases mem_GenerateConfigs h h₁ with ⟨i₁, t₁, sp₁, mp₁, rfl⟩ | ⟨t₁, sp₁, r₁, g₁, rfl⟩ <;>
      rcases mem_GenerateConfigs h h₂ with ⟨i₂, t₂, sp₂, mp₂, rfl⟩ | ⟨t₂, sp₂, r₂, g₂, rfl⟩
    · exact .inr ⟨_, _, _, _, _, _, _, _, rfl, rfl, createMergeSync_name_eq hn⟩
    · exact absurd hn createMergeSync_name_ne
    · exact absurd hn.symm createMergeSync_name_ne
    · obtain rfl := createAWSSync_name_inj hn
      exact .inl ⟨_, _, _, _, _, _, _, rfl, rfl⟩

end Pipeline

/-! ### Where a merge reads an import from -/

/-- **Source paths follow the graph.** On a configuration whose graph builds, with a Vault merge
store, `GetSourcePath` takes its inherited-target branch for a name that is not both a target
and a source with a Vault mount exactly when the graph's node of that name is a target, and
then returns the name's path under the merge store. -/
theorem GetSourcePath_inherited_iff (c : Config) (order : List String)
    (horder : ∀ n, n ∈ order ↔ n ∈ c.sources ∨ n ∈ c.targets) {G : Graph}
    (hG : BuildGraph c order = .ok G) {mv : MergeStoreVault} (hmv : c.mergeStore.vault = some mv)
    (i : String) (hi : (c.sources.lookup i).bind (·.vault) = none ∨ i ∉ c.targets) :
    (c.InheritedImport i ↔ ∃ node, G.nodes.lookup i = some node ∧ node.type = .target) ∧
      (c.InheritedImport i → c.GetSourcePath i = mv.mount ++ "/" ++ i) := by
  refine ⟨?_, Config.GetSourcePath_of_inheritedImport hmv⟩
  rw [(levelledGraph_of_BuildGraph horder hG).exists_target_iff]
  simp only [Config.InheritedImport, hmv, Option.isSome_some, and_true]
  exact ⟨And.right, fun hn => ⟨hi.resolve_right (not_not.2 hn), hn⟩⟩

theorem GetSourcePath_inherited_iff_chain :
    ∃ G, ((∀ n, n ∈ ["Demo", "analytics", "Stg", "Prod", "analytics-engineers"] ↔
        n ∈ chainConfig.sources ∨ n ∈ chainConfig.targets) ∧
      BuildGraph chainConfig ["Demo", "analytics", "Stg", "Prod", "analytics-engineers"] =
        .ok G ∧
      chainConfig.mergeStore.vault = some ⟨"merged-secrets"⟩ ∧
      ((chainConfig.sources.lookup "Stg").bind (·.vault) = none ∨ "Stg" ∉ chainConfig.targets)) ∧
    (chainConfig.InheritedImport "Stg" ↔
        ∃ node, G.nodes.lookup "Stg" = some node ∧ node.type = .target) ∧
      (chainConfig.InheritedImport "Stg" →
        chainConfig.GetSourcePath "Stg" = "merged-secrets" ++ "/" ++ "Stg") :=
  ⟨_, ⟨chainConfig_order, rfl, rfl, .inl rfl⟩,
    GetSourcePath_inherited_iff chainConfig _ chainConfig_order rfl rfl "Stg" (.inl rfl)⟩

/-- A valid configuration where `shared` is both a source with a Vault mount and a target that
`app` imports. -/
def shadowConfig : Config where
  vault := ⟨"https://vault.example.com"⟩
  aws := ⟨"us-east-1", ⟨""⟩, ⟨false, ⟨"", ""⟩⟩⟩
  sources := ((∅ : GoMap Source).insert "analytics" ⟨some ⟨"analytics", []⟩⟩).insert "shared"
    ⟨some ⟨"shared", []⟩⟩
  mergeStore := ⟨some ⟨"merged-secrets"⟩, none⟩
  targets := ((∅ : GoMap Target).insert "shared" ⟨"111111111111", ["analytics"], "", "", ""⟩).insert
    "app" ⟨"222222222222", ["shared"], "", "", ""⟩
  dynamicTargets := ∅

/-- The graph makes `shared` a target of level `1`, merged before `app`, while `GetSourcePath`
reads it from the source's mount. -/
theorem GetSourcePath_shadowed_target :
    shadowConfig.Validate = .ok () ∧
      (∀ n, n ∈ ["app", "shared", "analytics"] ↔
        n ∈ shadowConfig.sources ∨ n ∈ shadowConfig.targets) ∧
      ∃ G, BuildGraph shadowConfig ["app", "shared", "analytics"] = .ok G ∧
        G.nodes.lookup "shared" = some ⟨.target, 1, ["analytics"]⟩ ∧
        ¬ shadowConfig.InheritedImport "shared" ∧ shadowConfig.GetSourcePath "shared" = "shared" :=
  ⟨rfl, fun n => by
    simp only [shadowConfig, List.mem_cons, List.mem_singleton, AList.mem_insert,
      AList.not_mem_empty, or_false, List.not_mem_nil]
    tauto, _, rfl, by decide, by decide, rfl⟩

/-! ### Two merge syncs with one key -/

/-- A valid configuration with the sources `a` and `a-to-b`; the target `b-to-c` imports `a`,
and `c` imports `a-to-b` and `b-to-c`. -/
def hyphenConfig : Config where
  vault := ⟨"https://vault.example.com"⟩
  aws := ⟨"us-east-1", ⟨""⟩, ⟨false, ⟨"", ""⟩⟩⟩
  sources := ((∅ : GoMap Source).insert "a" ⟨some ⟨"a", []⟩⟩).insert "a-to-b" ⟨some ⟨"a-to-b", []⟩⟩
  mergeStore := ⟨some ⟨"merged-secrets"⟩, none⟩
  targets := ((∅ : GoMap Target).insert "b-to-c" ⟨"111111111111", ["a"], "", "", ""⟩).insert
    "c" ⟨"222222222222", ["a-to-b", "b-to-c"], "", "", ""⟩
  dynamicTargets := ∅

/-- The merge of `a` into `b-to-c` and the merge of `a-to-b` into `c` are both registered as
`pipeline/merge-a-to-b-to-c`, though the two syncs differ. -/
theorem GenerateConfigs_key_collision :
    hyphenConfig.Validate = .ok () ∧
    ∃ G, BuildGraph hyphenConfig ["c", "a", "b-to-c", "a-to-b"] = .ok G ∧
      ∃ specs, (Pipeline.mk hyphenConfig G none false).GenerateConfigs
          ⟨OperationPipeline, [], false, false⟩ = some specs ∧
        specs.map (fun s => (s.syncNamespace, s.name)) =
          [("pipeline", "merge-a-to-b-to-c"), ("pipeline", "merge-a-to-b-to-c"),
           ("pipeline", "merge-b-to-c-to-c"), ("pipeline", "sync-b-to-c"),
           ("pipeline", "sync-c")] ∧
        specs.Nodup :=
  ⟨rfl, _, rfl, _, rfl, by decide, by decide⟩

end VaultSecretSync
