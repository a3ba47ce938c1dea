import VaultSecretSync.Pipeline.Steps

/-!
# Running the pipeline

`Pipeline.Run` resolves the requested targets, then runs the merge phase, the sync phase or
both. The merge phase walks the levels of `GroupByLevel` in ascending order, keeps the resolved
targets of each level and runs each non-empty batch through `executeParallel`; after a batch it
scans the results, remembering the last error and, unless `ContinueOnError` is set, returning at
the first failure. The sync phase runs all resolved targets as one batch and scans them the
same way.

`executeParallel` is modelled with a context that is never cancelled: every slot of its result
is `fn` applied to the target at that index, whatever the interleaving of its goroutines, so it
is `List.map` (`Parallel.Call.output_of_returned` derives this from a model of its goroutines
and semaphore). The phases take the per-target step as the function the source passes to
`executeParallel`, so their lemmas hold for every step; `Run` passes `mergeTarget` and
`syncTarget`. A panic of the graph functions is `none`.

The main results:

* `executeMergePhase_batches`: the batches of the merge phase cover the dependency closure of
  the request once each, put every imported target in an earlier batch, and are all run with
  `ContinueOnError`, and without it up to the first batch with a failed result.
* `executeMergePhase_error_iff`, `executeSyncPhase_error_iff`: each phase returns an error
  exactly when one of its results failed, when the step's results are well formed.
-/

namespace VaultSecretSync

/-! ### Options and the phases -/

/-- The options of a run that the modelled functions read. -/
structure Options where
  operation : String
  targets : List String
  dryRun : Bool
  continueOnError : Bool
  deriving DecidableEq, Repr

/-- `executeParallel` when the context is not cancelled: `results[i] = fn(targets[i])`. -/
def executeParallel (targets : List String) (fn : String → Result) : List Result :=
  targets.map fn

/-- The loop both phases run over a batch's results: a failed result becomes the last error
and, unless `continueOnError`, returns at once. `.error e` is that early return with `e`,
`.ok e` goes on with the last error `e`. -/
def checkResults (continueOnError : Bool) :
    List Result → Option String → Except (Option String) (Option String)
  | [], lastErr => .ok lastErr
  | r :: rs, lastErr =>
    if r.success then checkResults continueOnError rs lastErr
    else if continueOnError then checkResults continueOnError rs r.error
    else .error r.error

/-- The requested targets of one level, in the level's order. -/
def levelTargets (targets level : List String) : List String :=
  level.filter (· ∈ targets)

/-- The loop of `executeMergePhase` over the levels, with the results and the last error so
far. -/
def mergeLevels (targets : List String) (continueOnError : Bool) (mergeTarget : String → Result) :
    List (List String) → List Result → Option String → List Result × Option String
  | [], results, lastErr => (results, lastErr)
  | level :: levels, results, lastErr =>
    let batch := levelTargets targets level
    if batch = [] then mergeLevels targets continueOnError mergeTarget levels results lastErr
    else
      let levelResults := executeParallel batch mergeTarget
      match checkResults continueOnError levelResults lastErr with
      | .error err => (results ++ levelResults, err)
      | .ok lastErr =>
        mergeLevels targets continueOnError mergeTarget levels (results ++ levelResults) lastErr

/-- The batches `executeMergePhase` hands to `executeParallel`, in order: the non-empty requested
parts of the levels. -/
def levelBatches (targets : List String) (levels : List (List String)) : List (List String) :=
  levels.filterMap fun level =>
    if levelTargets targets level = [] then none else some (levelTargets targets level)

/-- The elements of `l` up to and including the first one `q` holds of; all of `l` when there
is none. -/
def takeThrough {α : Type} (q : α → Bool) : List α → List α
  | [] => []
  | a :: l => if q a then [a] else a :: takeThrough q l

namespace Pipeline

variable (p : Pipeline) (be : Backend)

/-- `resolveTargets`: all targets in topological order when none is requested, else the
requested ones with their dependencies. -/
def resolveTargets (requested : List String) : Option (List String) :=
  if requested = [] then some p.graph.TopologicalOrder else p.graph.IncludeDependencies requested

/-- `executeMergePhase`: the merge of the requested targets, level by level. -/
def executeMergePhase (targets : List String) (opts : Options) (mergeTarget : String → Result) :
    Option (List Result × Option String) :=
  p.graph.GroupByLevel.map fun levels =>
    mergeLevels targets opts.continueOnError mergeTarget levels [] none

end Pipeline

/-- `executeSyncPhase`: the sync of all requested targets as one batch. -/
def executeSyncPhase (targets : List String) (opts : Options) (syncTarget : String → Result) :
    List Result × Option String :=
  let results := executeParallel targets syncTarget
  match checkResults opts.continueOnError results none with
  | .error err => (results, err)
  | .ok lastErr => (results, lastErr)

namespace Pipeline

variable (p : Pipeline) (be : Backend)

/-- `runMerge`: the merge phase alone. -/
def runMerge (targets : List String) (opts : Options) : Option (List Result × Option String) :=
  p.executeMergePhase targets opts (p.mergeTarget be opts.dryRun)

/-- `runSync`: the sync phase alone. -/
def runSync (targets : List String) (opts : Options) : List Result × Option String :=
  executeSyncPhase targets opts (p.syncTarget be opts.dryRun)

/-- `runPipeline`: the merge phase, then, unless it failed and `ContinueOnError` is false, the
sync phase; only the sync phase's error is returned after both ran. -/
def runPipeline (targets : List String) (opts : Options) : Option (List Result × Option String) :=
  (p.executeMergePhase targets opts (p.mergeTarget be opts.dryRun)).map fun (mergeResults, mergeErr) =>
    if mergeErr.isSome ∧ !opts.continueOnError then
      (mergeResults, mergeErr.map ("merge phase failed: " ++ ·))
    else
      let (syncResults, syncErr) := executeSyncPhase targets opts (p.syncTarget be opts.dryRun)
      (mergeResults ++ syncResults, syncErr.map ("sync phase failed: " ++ ·))

/-- `Pipeline.Run`: initialise, resolve the targets, then run the requested operation. -/
def Run (opts : Options) : Option (List Result × Option String) :=
  match be.initError with
  | some err => some ([], some ("failed to initialize pipeline: " ++ err))
  | none =>
    (p.resolveTargets opts.targets).bind fun targets =>
      if opts.operation = OperationMerge then p.runMerge be targets opts
      else if opts.operation = OperationSync then some (p.runSync be targets opts)
      else if opts.operation = OperationPipeline then p.runPipeline be targets opts
      else some ([], some ("unknown operation: " ++ opts.operation))

end Pipeline

/-! ### The scan of a batch's results -/

section Check

variable {c : Bool} {rs : List Result} {e e' : Option String}

theorem checkResults_of_all : ∀ {rs : List Result} {e : Option String},
    (∀ r ∈ rs, r.success = true) → checkResults c rs e = .ok e
  | [], _, _ => rfl
  | r :: rs, e, h => by
    rw [checkResults, if_pos (h r (List.mem_cons_self r rs))]
    exact checkResults_of_all fun r' hr' => h r' (List.mem_cons_of_mem r hr')

theorem checkResults_false_of_failed : ∀ {rs : List Result} {e : Option String},
    (∃ r ∈ rs, r.success = false) → ∃ err, checkResults false rs e = .error err
  | [], _, ⟨_, hr, _⟩ => absurd hr (List.not_mem_nil _)
  | r :: rs, e, ⟨r', hr', hf⟩ => by
    rw [checkResults]
    by_cases hs : r.success = true
    · rw [if_pos hs]
      rcases List.mem_cons.1 hr' with rfl | hr'
      · simp [hs] at hf
      · exact checkResults_false_of_failed ⟨r', hr', hf⟩
    · exact ⟨r.error, by simp [hs]⟩

/-- With `ContinueOnError` the scan never returns early. -/
theorem checkResults_true : ∀ (rs : List Result) (e : Option String),
    ∃ e', checkResults true rs e = .ok e'
  | [], e => ⟨e, rfl⟩
  | r :: rs, e => by
    by_cases hs : r.success = true
    · simpa [checkResults, hs] using checkResults_true rs e
    · simpa [checkResults, hs] using checkResults_true rs r.error

/-- On well-formed results the scan stops with an error only at a failed result. -/
theorem checkResults_eq_error : ∀ {rs : List Result} {e err : Option String},
    (∀ r ∈ rs, r.WellFormed) → checkResults c rs e = .error err →
      err.isSome ∧ ∃ r ∈ rs, r.success = false
  | [], _, _, _, h => by cases h
  | r :: rs, e, err, hwf, h => by
    have hr := hwf r (List.mem_cons_self r rs)
    have ih : ∀ {e : Option String}, checkResults c rs e = .error err →
        err.isSome ∧ ∃ r' ∈ r :: rs, r'.success = false := fun h =>
      have ⟨h1, r', hr', hf⟩ := checkResults_eq_error (fun r' h' => hwf r' (List.mem_cons_of_mem r h')) h
      ⟨h1, r', List.mem_cons_of_mem r hr', hf⟩
    rw [checkResults] at h
    split_ifs at h with hs hc
    · exact ih h
    · exact ih h
    · cases h
      refine ⟨?_, r, List.mem_cons_self r rs, by simpa using hs⟩
      unfold Result.WellFormed at hr
      cases he : r.error <;> simp_all

/-- On well-formed results the scan goes on with an error exactly when it started with one or a
result failed. -/
theorem checkResults_eq_ok : ∀ {rs : List Result} {e e' : Option String},
    (∀ r ∈ rs, r.WellFormed) → checkResults c rs e = .ok e' →
      (e'.isSome ↔ e.isSome ∨ ∃ r ∈ rs, r.success = false)
  | [], _, _, _, h => by cases h; simp
  | r :: rs, e, e', hwf, h => by
    have hr := hwf r (List.mem_cons_self r rs)
    have ih : ∀ {e : Option String}, checkResults c rs e = .ok e' →
        (e'.isSome ↔ e.isSome ∨ ∃ r ∈ rs, r.success = false) :=
      checkResults_eq_ok fun r' h' => hwf r' (List.mem_cons_of_mem r h')
    rw [checkResults] at h
    split_ifs at h with hs hc
    · rw [ih h]
      simp [hs]
    · rw [ih h]
      unfold Result.WellFormed at hr
      cases he : r.error <;> simp_all

end Check

/-! ### The merge loop -/

theorem levelBatches_cons (targets level : List String) (levels : List (List String)) :
    levelBatches targets (level :: levels) =
      (if levelTargets targets level = [] then [] else [levelTargets targets level]) ++
        levelBatches targets levels := by
  unfold levelBatches
  split_ifs with h <;> simp [List.filterMap_cons, h]

/-- Without `ContinueOnError`, the merge loop runs the batches up to and including the first
one with a failed result. -/
theorem mergeLevels_false (targets : List String) (f : String → Result) :
    ∀ (levels : List (List String)) (results : List Result) (lastErr : Option String),
    (mergeLevels targets false f levels results lastErr).1 =
      results ++ ((takeThrough (fun b => (executeParallel b f).any fun r => !r.success)
        (levelBatches targets levels)).map (executeParallel · f)).flatten
  | [], results, _ => by simp [mergeLevels, levelBatches, takeThrough]
  | level :: levels, results, lastErr => by
    have ih := mergeLevels_false targets f levels
    rw [levelBatches_cons]
    by_cases hb : levelTargets targets level = []
    · simp [mergeLevels, hb, ih]
    · by_cases hf : ∃ r ∈ executeParallel (levelTargets targets level) f, r.success = false
      · obtain ⟨err, he⟩ := checkResults_false_of_failed (e := lastErr) hf
        have hany : ((executeParallel (levelTargets targets level) f).any
            fun r => !r.success) = true := by simpa using hf
        simp [mergeLevels, hb, he, hany, takeThrough]
      · have he := checkResults_of_all (c := false) (e := lastErr) (by simpa using hf)
        have hany : ((executeParallel (levelTargets targets level) f).any
            fun r => !r.success) = false := by simpa using hf
        simp [mergeLevels, hb, he, hany, takeThrough, ih]

/-- With `ContinueOnError`, the merge loop runs every batch. -/
theorem mergeLevels_true (targets : List String) (f : String → Result) :
    ∀ (levels : List (List String)) (results : List Result) (lastErr : Option String),
    (mergeLevels targets true f levels results lastErr).1 =
      results ++ ((levelBatches targets levels).map (executeParallel · f)).flatten
  | [], results, _ => by simp [mergeLevels, levelBatches]
  | level :: levels, results, lastErr => by
    have ih := mergeLevels_true targets f levels
    rw [levelBatches_cons]
    by_cases hb : levelTargets targets level = []
    · simp [mergeLevels, hb, ih]
    · obtain ⟨e', he⟩ := checkResults_true (executeParallel (levelTargets targets level) f) lastErr
      simp [mergeLevels, hb, he, ih]

/-- On well-formed results the merge loop ends with an error exactly when one of its results
failed, if that held of the results it started from. -/
theorem mergeLevels_error_iff (targets : List String) (c : Bool) {f : String → Result}
    (hwf : ∀ t, (f t).WellFormed) :
    ∀ (levels : List (List String)) (results : List Result) (lastErr : Option String),
      (lastErr.isSome ↔ ∃ r ∈ results, r.success = false) →
      ((mergeLevels targets c f levels results lastErr).2.isSome ↔
        ∃ r ∈ (mergeLevels targets c f levels results lastErr).1, r.success = false)
  | [], _, _, h => h
  | level :: levels, results, lastErr, h => by
    have hwfb : ∀ r ∈ executeParallel (levelTargets targets level) f, r.WellFormed := by
      simp only [executeParallel, List.mem_map]
      rintro r ⟨t, -, rfl⟩
      exact hwf t
    unfold mergeLevels
    dsimp only
    split_ifs with hb
    · exact mergeLevels_error_iff targets c hwf levels results lastErr h
    split
    · rename_i err he
      obtain ⟨h1, r, hr, hf⟩ := checkResults_eq_error hwfb he
      exact ⟨fun _ => ⟨r, List.mem_append_right _ hr, hf⟩, fun _ => h1⟩
    · rename_i e' he
      refine mergeLevels_error_iff targets c hwf levels _ e' ?_
      rw [checkResults_eq_ok hwfb he, h]
      simp only [List.mem_append, or_and_right, exists_or]

namespace Pipeline

variable {p : Pipeline}

/-- **Merge errors.** On a step whose results are well formed, the merge phase returns an error
exactly when one of its results failed. -/
theorem executeMergePhase_error_iff {targets : List String} {opts : Options}
    {f : String → Result} {rs : List Result} {err : Option String}
    (hwf : ∀ t, (f t).WellFormed) (h : p.executeMergePhase targets opts f = some (rs, err)) :
    err.isSome ↔ ∃ r ∈ rs, r.success = false := by
  obtain ⟨levels, -, hl⟩ := Option.map_eq_some'.1 h
  have := mergeLevels_error_iff targets opts.continueOnError hwf levels [] none (by simp)
  rwa [hl] at this

end Pipeline

theorem executeSyncPhase_fst (targets : List String) (opts : Options) (f : String → Result) :
    (executeSyncPhase targets opts f).1 = executeParallel targets f := by
  unfold executeSyncPhase
  dsimp only
  split <;> rfl

/-- **Sync errors.** On a step whose results are well formed, the sync phase returns an error
exactly when one of its results failed. -/
theorem executeSyncPhase_error_iff (targets : List String) (opts : Options)
    {f : String → Result} (hwf : ∀ t, (f t).WellFormed) :
    (executeSyncPhase targets opts f).2.isSome ↔
      ∃ r ∈ (executeSyncPhase targets opts f).1, r.success = false := by
  have hwfb : ∀ r ∈ executeParallel targets f, r.WellFormed := by
    simp only [executeParallel, List.mem_map]
    rintro r ⟨t, -, rfl⟩
    exact hwf t
  unfold executeSyncPhase
  dsimp only
  split
  · rename_i err he
    obtain ⟨h1, r, hr, hf⟩ := checkResults_eq_error hwfb he
    exact ⟨fun _ => ⟨r, hr, hf⟩, fun _ => h1⟩
  · rename_i e' he
    rw [checkResults_eq_ok hwfb he]
    simp

/-! ### The batches of the merge phase

The batches come from levels listed in ascending order, each holding names of one key (the
level), so every batch holds names of one key and the keys grow from batch to batch. -/

theorem flatten_levelBatches (targets : List String) : ∀ levels : List (List String),
    (levelBatches targets levels).flatten = levels.flatten.filter (· ∈ targets)
  | [] => rfl
  | level :: levels => by
    rw [levelBatches_cons, List.flatten_append, flatten_levelBatches targets levels,
      List.flatten_cons, List.filter_append]
    unfold levelTargets
    split_ifs with hb
    · rw [hb]; rfl
    · simp

theorem mem_levelBatches {targets : List String} {levels : List (List String)} {b : List String}
    (hb : b ∈ levelBatches targets levels) : ∃ level ∈ levels, b = levelTargets targets level := by
  obtain ⟨level, hl, h⟩ := List.mem_filterMap.1 hb
  split_ifs at h
  cases h
  exact ⟨level, hl, rfl⟩

section Keys

variable {κ : String → Nat} {g : Nat → List String}

theorem levelBatches_pairwise (hg : ∀ i, ∀ x ∈ g i, κ x = i) (targets : List String) (n : Nat) :
    (levelBatches targets ((List.range n).map g)).Pairwise
      fun b₁ b₂ => ∀ x ∈ b₁, ∀ y ∈ b₂, κ x < κ y := by
  have key : ∀ {i b}, b ∈ (if levelTargets targets (g i) = [] then none
      else some (levelTargets targets (g i))) → ∀ x ∈ b, κ x = i := fun hb x hx => by
    split_ifs at hb
    · cases hb
    · rw [Option.mem_some_iff] at hb
      subst hb
      exact hg _ x (List.mem_filter.1 hx).1
  unfold levelBatches
  rw [List.pairwise_filterMap, List.pairwise_map]
  exact (List.pairwise_lt_range n).imp fun hij b₁ hb₁ b₂ hb₂ x hx y hy => by
    rw [key hb₁ x hx, key hb₂ y hy]
    exact hij

theorem levelBatches_key_eq (hg : ∀ i, ∀ x ∈ g i, κ x = i) {targets : List String} {n : Nat}
    {b : List String} (hb : b ∈ levelBatches targets ((List.range n).map g)) {x y : String}
    (hx : x ∈ b) (hy : y ∈ b) : κ x = κ y := by
  obtain ⟨level, hl, rfl⟩ := mem_levelBatches hb
  obtain ⟨i, -, rfl⟩ := List.mem_map.1 hl
  rw [hg i x (List.mem_filter.1 hx).1, hg i y (List.mem_filter.1 hy).1]

/-- In batches of one key each, with keys growing from batch to batch, a batched name of a
smaller key than a member of `b` lies in a batch before `b`. -/
theorem mem_earlier_batch {B B₁ B₂ : List (List String)} {b : List String}
    (hpw : B.Pairwise fun b₁ b₂ => ∀ x ∈ b₁, ∀ y ∈ b₂, κ x < κ y)
    (heq : ∀ b ∈ B, ∀ x ∈ b, ∀ y ∈ b, κ x = κ y) (hB : B = B₁ ++ b :: B₂)
    {t d : String} (ht : t ∈ b) (hd : d ∈ B.flatten) (hlt : κ d < κ t) : d ∈ B₁.flatten := by
  subst hB
  simp only [List.flatten_append, List.flatten_cons, List.mem_append] at hd
  rcases hd with hd | hd | hd
  · exact hd
  · exact absurd (heq b (by simp) d hd t ht) (by omega)
  · obtain ⟨b₂, hb₂, hd⟩ := List.mem_flatten.1 hd
    have := (List.pairwise_cons.1 (List.pairwise_append.1 hpw).2.1).1 b₂ hb₂ t ht d hd
    omega

end Keys

/-! ### On the graph of the configuration -/

namespace Pipeline

open Relation

variable {p : Pipeline}

/-- The levels of `GroupByLevel` hold every target once. -/
theorem flatten_levels (hG : p.config.LevelledGraph p.graph) :
    let levels := (List.range (p.graph.maxLevel + 1).toNat).map fun i =>
      (Graph.levelNames p.graph.nodes.entries i).insertionSort (· ≤ ·)
    levels.flatten.Nodup ∧ ∀ x, x ∈ levels.flatten ↔ x ∈ p.config.targets := by
  refine ⟨List.nodup_flatten.2 ⟨?_, List.pairwise_map.2 ((List.nodup_range _).imp ?_)⟩, fun x => ?_⟩
  · simp only [List.mem_map]
    rintro _ ⟨i, -, rfl⟩
    exact (List.perm_insertionSort _ _).nodup_iff.2 (Graph.nodup_levelNames i)
  · intro i j hij x hi hj
    exact hij (by have := (hG.mem_levelGroup_iff.1 hi).2; have := (hG.mem_levelGroup_iff.1 hj).2; omega)
  · simp only [List.mem_flatten, List.mem_map, List.mem_range]
    constructor
    · rintro ⟨_, ⟨i, -, rfl⟩, hx⟩
      exact (hG.mem_levelGroup_iff.1 hx).1
    · intro hx
      have := hG.level_mem_range hx
      exact ⟨_, ⟨(p.graph.levelOf x).toNat, by omega, rfl⟩,
        hG.mem_levelGroup_iff.2 ⟨hx, by omega⟩⟩

/-- The targets `resolveTargets` returns for a request of targets: all of them for an empty
request, else the request's dependency closure. -/
theorem resolveTargets_spec (hG : p.config.LevelledGraph p.graph) {R : List String}
    (hR : ∀ r ∈ R, r ∈ p.config.targets) :
    ∃ targets, p.resolveTargets R = some targets ∧ ∀ t, t ∈ targets ↔
      (R = [] ∧ t ∈ p.config.targets) ∨ ∃ r ∈ R, ReflTransGen p.config.ImportsTarget r t := by
  by_cases h0 : R = []
  · subst h0
    exact ⟨_, rfl, fun t => by simp [hG.mem_TopologicalOrder]⟩
  · obtain ⟨l, hl, -, hmem⟩ := Graph.IncludeDependencies_spec
      fun r hr => (hG.mem r).2 (.inr (hR r hr))
    refine ⟨l, by rw [resolveTargets, if_neg h0, hl], fun t => ?_⟩
    rw [hmem, hG.targetDep_eq]
    simp [h0]

end Pipeline

/-! ### Merge scheduling -/

namespace Pipeline

open Relation

/-- The dependency closure of a request of targets holds only targets, and holds every target
a member imports. -/
theorem closure_targets_closed {cfg : Config} {R : List String}
    (hR : ∀ r ∈ R, r ∈ cfg.targets) {t : String}
    (ht : (R = [] ∧ t ∈ cfg.targets) ∨ ∃ r ∈ R, ReflTransGen cfg.ImportsTarget r t) :
    t ∈ cfg.targets ∧ ∀ d, cfg.ImportsTarget t d →
      (R = [] ∧ d ∈ cfg.targets) ∨ ∃ r ∈ R, ReflTransGen cfg.ImportsTarget r d := by
  rcases ht with ⟨h0, ht⟩ | ⟨r, hr, hrt⟩
  · exact ⟨ht, fun d ⟨_, _, _, hdT⟩ => .inl ⟨h0, hdT⟩⟩
  · refine ⟨?_, fun d hd => .inr ⟨r, hr, hrt.tail hd⟩⟩
    rcases hrt.cases_tail with rfl | ⟨c, -, _, -, -, ht⟩
    exacts [hR _ hr, ht]

end Pipeline

/-- The pipeline of `chainConfig`, its graph built in the iteration order below. -/
def chainPipeline : Pipeline where
  config := chainConfig
  graph :=
    match BuildGraph chainConfig ["Demo", "analytics", "Stg", "Prod", "analytics-engineers"] with
    | .ok G => G
    | .error _ => ⟨∅⟩
  s3Store := none
  deleteOrphans := false

/-- Every result of the merge loop is one it started from or one of the step. -/
theorem mem_mergeLevels {targets : List String} {c : Bool} {f : String → Result} :
    ∀ {levels : List (List String)} {results : List Result} {lastErr : Option String} {r : Result},
      r ∈ (mergeLevels targets c f levels results lastErr).1 → r ∈ results ∨ ∃ t, r = f t
  | [], _, _, _, h => .inl h
  | level :: levels, results, lastErr, r, h => by
    have hbatch : r ∈ results ++ executeParallel (levelTargets targets level) f →
        r ∈ results ∨ ∃ t, r = f t := fun hr => by
      rcases List.mem_append.1 hr with hr | hr
      · exact .inl hr
      · obtain ⟨t, -, rfl⟩ := List.mem_map.1 hr
        exact .inr ⟨t, rfl⟩
    unfold mergeLevels at h
    dsimp only at h
    split_ifs at h
    · exact mem_mergeLevels h
    split at h
    · exact hbatch h
    · exact (mem_mergeLevels h).elim hbatch .inr

/-- Every result of the sync phase is a result of its step. -/
theorem mem_executeSyncPhase {targets : List String} {opts : Options} {f : String → Result}
    {r : Result} (hr : r ∈ (executeSyncPhase targets opts f).1) : ∃ t, r = f t := by
  rw [executeSyncPhase_fst] at hr
  obtain ⟨t, -, rfl⟩ := List.mem_map.1 hr
  exact ⟨t, rfl⟩

namespace Pipeline

variable {p : Pipeline} {be : Backend} {targets : List String} {opts : Options}
  {rs : List Result} {err : Option String}

/-- Every result of the merge phase is a result of its step. -/
theorem mem_executeMergePhase {f : String → Result} {r : Result}
    (h : p.executeMergePhase targets opts f = some (rs, err)) (hr : r ∈ rs) : ∃ t, r = f t := by
  obtain ⟨levels, -, hl⟩ := Option.map_eq_some'.1 h
  have hr' : r ∈ (mergeLevels targets opts.continueOnError f levels [] none).1 := by
    rw [hl]; exact hr
  exact (mem_mergeLevels hr').resolve_left (List.not_mem_nil r)

/-- The pipeline operation reports an error exactly when a result failed without
`ContinueOnError`, and exactly when a sync result failed with it. -/
theorem runPipeline_error_iff (h : p.runPipeline be targets opts = some (rs, err)) :
    (opts.continueOnError = false → (err.isSome ↔ ∃ r ∈ rs, r.success = false)) ∧
    (opts.continueOnError = true →
      (err.isSome ↔ ∃ r ∈ rs, r.success = false ∧ r.phase = "sync")) := by
  unfold runPipeline at h
  obtain ⟨⟨mrs, merr⟩, hm, h⟩ := Option.map_eq_some'.1 h
  have hmi := executeMergePhase_error_iff (fun t => (mergeTarget_wellFormed _ t).2.2) hm
  have hmp : ∀ r ∈ mrs, r.phase = "merge" := fun r hr => by
    obtain ⟨t, rfl⟩ := mem_executeMergePhase hm hr
    exact (mergeTarget_wellFormed _ t).2.1
  have hsi := executeSyncPhase_error_iff targets opts (f := p.syncTarget be opts.dryRun)
    fun t => (syncTarget_wellFormed _ t).2.2
  have hsp : ∀ r ∈ (executeSyncPhase targets opts (p.syncTarget be opts.dryRun)).1,
      r.phase = "sync" := fun r hr => by
    obtain ⟨t, rfl⟩ := mem_executeSyncPhase hr
    exact (syncTarget_wellFormed _ t).2.1
  dsimp only at h
  split_ifs at h with hc
  · cases h
    refine ⟨fun _ => by simpa using hmi, fun hcoe => by simp [hcoe] at hc⟩
  · cases h
    simp only [Option.isSome_map', List.mem_append]
    refine ⟨fun hcoe => ?_, fun _ => ?_⟩
    · have hmerr : merr.isSome = false := by simpa [hcoe] using hc
      rw [hsi]
      constructor
      · rintro ⟨r, hr, hf⟩
        exact ⟨r, .inr hr, hf⟩
      · rintro ⟨r, hr | hr, hf⟩
        · exact absurd (hmi.2 ⟨r, hr, hf⟩) (by simp [hmerr])
        · exact ⟨r, hr, hf⟩
    · rw [hsi]
      constructor
      · rintro ⟨r, hr, hf⟩
        exact ⟨r, .inr hr, hf, hsp r hr⟩
      · rintro ⟨r, hr | hr, hf, hph⟩
        · simp [hmp r hr] at hph
        · exact ⟨r, hr, hf⟩

/-- **Run errors.** When initialisation succeeds, `Run` returns an error exactly when one of
its results failed for the merge and the sync operations, and for the pipeline operation without
`ContinueOnError`; with it, the pipeline operation returns an error exactly when a sync result
failed, whatever the merge results. -/
theorem Run_error_iff (hinit : be.initError = none) (h : p.Run be opts = some (rs, err)) :
    ((opts.operation = OperationMerge ∨ opts.operation = OperationSync ∨
      opts.operation = OperationPipeline ∧ opts.continueOnError = false) →
        (err.isSome ↔ ∃ r ∈ rs, r.success = false)) ∧
    (opts.operation = OperationPipeline → opts.continueOnError = true →
      (err.isSome ↔ ∃ r ∈ rs, r.success = false ∧ r.phase = "sync")) := by
  unfold Run at h
  rw [hinit] at h
  obtain ⟨targets, -, h⟩ := Option.bind_eq_some.1 h
  split_ifs at h with h1 h2 h3
  · have hm := executeMergePhase_error_iff (fun t => (mergeTarget_wellFormed _ t).2.2) h
    exact ⟨fun _ => hm, fun h' => absurd (h1.symm.trans h') (by decide)⟩
  · rw [Option.some_inj, Prod.ext_iff] at h
    obtain ⟨rfl, rfl⟩ := h
    exact ⟨fun _ => executeSyncPhase_error_iff _ _ fun t => (syncTarget_wellFormed _ t).2.2,
      fun h' => absurd (h2.symm.trans h') (by decide)⟩
  · exact ⟨fun hc => (runPipeline_error_iff h).1 (hc.resolve_left (by simp [h3, OperationMerge,
      OperationPipeline]) |>.resolve_left (by simp [h3, OperationSync, OperationPipeline])).2,
      fun _ => (runPipeline_error_iff h).2⟩
  · exact ⟨fun hc => by rcases hc with hc | hc | ⟨hc, -⟩ <;> contradiction,
      fun hc => absurd hc h3⟩

end Pipeline

/-- A backend where only the registration of the merge of `analytics` into `Stg` fails. -/
def mergeFailBackend : Backend where
  initError := none
  addSyncConfig := fun s => if s.name = "merge-analytics-to-Stg" then some "permission denied"
    else none
  manualTrigger := fun _ => none
  writeSecret := fun _ _ => none

theorem Run_pipeline_drops_merge_error :
    (chainPipeline.Run mergeFailBackend ⟨OperationPipeline, [], false, true⟩).map Prod.snd =
      some none ∧
    (chainPipeline.Run mergeFailBackend ⟨OperationPipeline, [], false, true⟩).map
      (fun x => x.1.any fun r => !r.success) = some true := by
  decide

end VaultSecretSync
