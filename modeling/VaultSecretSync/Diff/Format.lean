import Mathlib.Data.Nat.Digits
import VaultSecretSync.Diff
import VaultSecretSync.Utils.Strings

/-!
# The outputs of the diff

`FormatDiff` writes a `PipelineDiff` for people (`formatHuman`), as GitHub Actions workflow
commands (`formatGitHub`), on one line (`formatCompact`) or as JSON (`formatJSON`, whose encoder
`json.MarshalIndent` is an input); `NewDiffResult` wraps a diff with its exit code and a
message. The `vss pipeline` command reads the format from its `--output` flag in any letter
case (`parseOutputFormat`). Go's `%d` and `%t` are `toString` of the number and of
the boolean, and `%v` of a list of strings is `fmtList`. The GitHub output is a list of lines
(`githubLines`), each written with a line break.

* **The GitHub summary** (`setOutput_formatGitHub`): when no target name and no secret path
  holds a line break, the `::set-output` lines of the GitHub output are exactly its six summary
  lines, so `zero_sum` is set once, to whether the pipeline is zero-sum. Workflow commands are
  written unescaped: a secret path holding a line break starts lines of its own, and can set
  `zero_sum` to `true` after the summary set it to `false`.
-/

namespace VaultSecretSync

/-- `OutputFormat`. -/
inductive OutputFormat
  | human
  | json
  | github
  | compact
  deriving DecidableEq, Repr

/-- `parseOutputFormat`, of the `vss pipeline` command: the format named by the flag in lower
case, human-readable for any other text. -/
def parseOutputFormat (s : String) : OutputFormat :=
  match Strings.ToLower s with
  | "json" => .json
  | "github" => .github
  | "compact" => .compact
  | _ => .human

/-- `DiffResult`: the diff with its exit code and a message. -/
structure DiffResult where
  diff : PipelineDiff
  exitCode : Nat
  message : String
  deriving DecidableEq, Repr

namespace PipelineDiff

/-- The number of changes a summary reports: added, removed and modified. -/
def changeCount (s : ChangeSummary) : Nat := s.added + s.removed + s.modified

/-- Lines, each followed by a line break. -/
def joinLines : List String → String
  | [] => ""
  | l :: ls => l ++ "\n" ++ joinLines ls

/-- The lines `formatHuman` writes for one change. -/
def humanChangeLines (c : SecretChange) : List String :=
  match c.changeType with
  | .added =>
    ("  + " ++ c.path ++ " (new secret)") ::
      (if c.desiredKeys ≠ [] then ["    keys: " ++ fmtList c.desiredKeys] else [])
  | .removed => ["  - " ++ c.path ++ " (removed)"]
  | .modified =>
    ("  ~ " ++ c.path ++ " (modified)") ::
      ((if c.keysAdded ≠ [] then ["    + keys: " ++ fmtList c.keysAdded] else []) ++
       (if c.keysRemoved ≠ [] then ["    - keys: " ++ fmtList c.keysRemoved] else []) ++
       (if c.keysModified ≠ [] then ["    ~ keys: " ++ fmtList c.keysModified] else []))
  | .unchanged => []

/-- `formatHuman`. -/
def formatHuman (p : PipelineDiff) : String :=
  let header :=
    (if p.dryRun then "=== DRY RUN - No changes will be applied ===\n\n" else "") ++
    "Pipeline Diff Summary\n" ++ "=====================\n" ++
    "  Added:     " ++ toString p.summary.added ++ "\n" ++
    "  Removed:   " ++ toString p.summary.removed ++ "\n" ++
    "  Modified:  " ++ toString p.summary.modified ++ "\n" ++
    "  Unchanged: " ++ toString p.summary.unchanged ++ "\n" ++
    "  Total:     " ++ toString p.summary.total ++ "\n" ++ "\n"
  if p.IsZeroSum then header ++ "✅ ZERO-SUM: No changes detected\n"
  else
    header ++ "⚠️  CHANGES DETECTED\n\n" ++ String.join (p.targets.map fun td =>
      if td.summary.IsZeroSum then ""
      else
        "Target: " ++ td.target ++ "\n" ++ "----------------------------------------" ++ "\n" ++
          joinLines (td.changes.flatMap humanChangeLines) ++ "\n")

/-- The annotation `formatGitHub` writes for one change. -/
def githubChangeLines (c : SecretChange) : List String :=
  match c.changeType with
  | .added => ["::notice::+ " ++ c.path ++ " (new secret)"]
  | .removed => ["::warning::- " ++ c.path ++ " (removed)"]
  | .modified => ["::notice::~ " ++ c.path ++ " (modified)"]
  | .unchanged => []

/-- The group `formatGitHub` writes for a target with changes. -/
def githubTargetLines (td : TargetDiff) : List String :=
  if td.summary.IsZeroSum then []
  else
    ("::group::Target: " ++ td.target ++ " (" ++ toString (changeCount td.summary) ++ " changes)") ::
      (td.changes.flatMap githubChangeLines ++ ["::endgroup::"])

/-- The six `::set-output` lines of the summary. -/
def setOutputLines (p : PipelineDiff) : List String :=
  ["::set-output name=changes::" ++ toString (changeCount p.summary),
   "::set-output name=added::" ++ toString p.summary.added,
   "::set-output name=removed::" ++ toString p.summary.removed,
   "::set-output name=modified::" ++ toString p.summary.modified,
   "::set-output name=unchanged::" ++ toString p.summary.unchanged,
   "::set-output name=zero_sum::" ++ toString p.IsZeroSum]

/-- The annotation after the summary: a notice when zero-sum, a warning with the counts
otherwise. -/
def summaryNotice (p : PipelineDiff) : String :=
  if p.IsZeroSum then "::notice::✅ Zero-sum: No changes detected"
  else "::warning::⚠️ " ++ toString (changeCount p.summary) ++ " changes detected (" ++
    toString p.summary.added ++ " added, " ++ toString p.summary.removed ++ " removed, " ++
    toString p.summary.modified ++ " modified)"

/-- The lines of `formatGitHub`; a target is skipped unless its summary `HasChanges`. -/
def githubLines (p : PipelineDiff) : List String :=
  setOutputLines p ++ summaryNotice p :: p.targets.flatMap githubTargetLines

/-- `formatGitHub`: the lines, each with a line break. -/
def formatGitHub (p : PipelineDiff) : String := joinLines (githubLines p)

/-- `formatCompact`. -/
def formatCompact (p : PipelineDiff) : String :=
  if p.IsZeroSum then "ZERO-SUM: " ++ toString p.summary.unchanged ++ " secrets unchanged"
  else
    "CHANGES: +" ++ toString p.summary.added ++ " -" ++ toString p.summary.removed ++ " ~" ++
      toString p.summary.modified ++ " =" ++ toString p.summary.unchanged ++ " (total: " ++
      toString p.summary.total ++ ")"

/-- `formatJSON`: `marshalIndent` is what `json.MarshalIndent` makes of the diff. -/
def formatJSON (marshalIndent : PipelineDiff → Except String String) (p : PipelineDiff) : String :=
  match marshalIndent p with
  | .ok data => data
  | .error err => "\x7b\"error\": \"" ++ err ++ "\"\x7d"

/-- `FormatDiff`: human-readable unless another format is asked for. -/
def FormatDiff (marshalIndent : PipelineDiff → Except String String) (p : PipelineDiff) :
    OutputFormat → String
  | .json => formatJSON marshalIndent p
  | .github => formatGitHub p
  | .compact => formatCompact p
  | .human => formatHuman p

end PipelineDiff

/-- `NewDiffResult`. -/
def NewDiffResult (p : PipelineDiff) : DiffResult where
  diff := p
  exitCode := p.ExitCode
  message :=
    if p.IsZeroSum then "No changes detected - pipeline is in sync"
    else toString (PipelineDiff.changeCount p.summary) ++ " changes detected"

namespace PipelineDiff

/-! ### The GitHub summary -/

theorem mem_toDigitsCore {b : Nat} (hb : 0 < b) : ∀ {fuel n : Nat} {ds : List Char} {c : Char},
    c ∈ Nat.toDigitsCore b fuel n ds → c ∈ ds ∨ ∃ k < b, c = Nat.digitChar k
  | 0, _, _, _, h => .inl h
  | fuel + 1, n, ds, c, h => by
    simp only [Nat.toDigitsCore] at h
    split_ifs at h
    · rcases List.mem_cons.1 h with rfl | h
      exacts [.inr ⟨_, Nat.mod_lt _ hb, rfl⟩, .inl h]
    · rcases mem_toDigitsCore hb h with h | h
      · rcases List.mem_cons.1 h with rfl | h
        exacts [.inr ⟨_, Nat.mod_lt _ hb, rfl⟩, .inl h]
      · exact .inr h

/-- A number is written without a line break. -/
theorem newline_not_mem_toString (n : Nat) : '\n' ∉ (toString n).data := by
  intro h
  rcases mem_toDigitsCore (by decide) h with h | ⟨k, hk, hc⟩
  · cases h
  · exact (show ∀ k < 10, Nat.digitChar k ≠ '\n' by decide) k hk hc.symm

theorem data_joinLines : ∀ (l : String) (ls : List String),
    (joinLines (l :: ls)).data = l.data ++ (ls.map String.data ++ [[]]).flatMap ('\n' :: ·)
  | l, [] => by simp [joinLines]
  | l, m :: ms => by
    rw [joinLines, String.data_append, String.data_append, data_joinLines m ms]
    simp

/-- Lines joined by `joinLines` split back into the lines and a last empty piece, when no line
holds a line break. -/
theorem Split_joinLines : ∀ lines : List String, (∀ l ∈ lines, '\n' ∉ l.data) →
    Strings.Split (joinLines lines) "\n" = lines ++ [""]
  | [], _ => rfl
  | l :: ls, h => by
    have hps : ∀ q ∈ ls.map String.data ++ [[]], '\n' ∉ q := by
      simp only [List.mem_append, List.mem_map, List.mem_singleton]
      rintro q (⟨m, hm, rfl⟩ | rfl)
      exacts [h m (List.mem_cons_of_mem _ hm), List.not_mem_nil _]
    rw [Strings.Split, data_joinLines, show "\n".data = ['\n'] from rfl,
      Strings.splitAux_join_single _ _ [] (h l (List.mem_cons_self _ _)) hps]
    simp [Function.comp_def]

theorem newline_not_mem_toString_bool (b : Bool) : '\n' ∉ (toString b).data := by
  cases b <;> decide

/-- No line of the GitHub output holds a line break when no target name and no secret path
does. -/
theorem newline_not_mem_githubLines {p : PipelineDiff}
    (h : ∀ td ∈ p.targets, '\n' ∉ td.target.data ∧ ∀ c ∈ td.changes, '\n' ∉ c.path.data) :
    ∀ l ∈ githubLines p, '\n' ∉ l.data := by
  have hn := newline_not_mem_toString
  intro l hl
  simp only [githubLines, setOutputLines, summaryNotice, List.mem_append, List.mem_cons,
    List.mem_flatMap, List.not_mem_nil, or_false] at hl
  rcases hl with (rfl | rfl | rfl | rfl | rfl | rfl) | rfl | ⟨td, htd, hl⟩
  · simpa using hn _
  · simpa using hn _
  · simpa using hn _
  · simpa using hn _
  · simpa using hn _
  · simpa using newline_not_mem_toString_bool _
  · split_ifs
    · decide
    · simpa using ⟨hn _, hn _, hn _, hn _⟩
  · obtain ⟨ht, hc⟩ := h td htd
    simp only [githubTargetLines] at hl
    split_ifs at hl
    · cases hl
    · simp only [List.mem_cons, List.mem_append, List.mem_flatMap, List.not_mem_nil,
        or_false] at hl
      rcases hl with rfl | ⟨c, hcm, hl⟩ | rfl
      · simpa using ⟨ht, hn _⟩
      · simp only [githubChangeLines] at hl
        split at hl <;> simp only [List.mem_singleton, List.not_mem_nil] at hl <;> subst hl <;>
          simpa using hc c hcm
      · decide

/-- Each summary line starts with `::set-output`, and no other line of the GitHub output
does. -/
theorem setOutput_prefix (p : PipelineDiff) :
    (∀ l ∈ setOutputLines p, Strings.HasPrefix l "::set-output" = true) ∧
      Strings.HasPrefix (summaryNotice p) "::set-output" = false ∧
      ∀ td ∈ p.targets, ∀ l ∈ githubTargetLines td, Strings.HasPrefix l "::set-output" = false := by
  refine ⟨?_, by unfold summaryNotice; split_ifs <;> rfl, fun td _ l hl => ?_⟩
  · simp only [setOutputLines, List.mem_cons, List.not_mem_nil, or_false]
    rintro l (rfl | rfl | rfl | rfl | rfl | rfl) <;> rfl
  · simp only [githubTargetLines] at hl
    split_ifs at hl
    · cases hl
    · simp only [List.mem_cons, List.mem_append, List.mem_flatMap, List.not_mem_nil,
        or_false] at hl
      rcases hl with rfl | ⟨c, -, hl⟩ | rfl
      · rfl
      · simp only [githubChangeLines] at hl
        split at hl <;> simp only [List.mem_singleton, List.not_mem_nil] at hl <;> subst hl <;> rfl
      · rfl

/-- **The GitHub summary.** When no target name and no secret path holds a line break, the
`::set-output` lines of the GitHub output are exactly its six summary lines: `zero_sum` is set
once, to whether the pipeline is zero-sum. -/
theorem setOutput_formatGitHub (p : PipelineDiff)
    (h : ∀ td ∈ p.targets, '\n' ∉ td.target.data ∧ ∀ c ∈ td.changes, '\n' ∉ c.path.data) :
    (Strings.Split (formatGitHub p) "\n").filter (Strings.HasPrefix · "::set-output") =
      setOutputLines p := by
  obtain ⟨hsum, hnote, htargets⟩ := setOutput_prefix p
  rw [formatGitHub, Split_joinLines _ (newline_not_mem_githubLines h), githubLines,
    List.filter_append, List.filter_append, List.filter_eq_self.2 hsum,
    List.filter_cons_of_neg (by simpa using hnote),
    List.filter_eq_nil_iff.2 fun l hl => by
      obtain ⟨td, htd, hl⟩ := List.mem_flatMap.1 hl
      simp [htargets td htd l hl]]
  rfl

/-- The clean diff of one target with one added secret. -/
def cleanDiff : PipelineDiff where
  targets := [⟨"app", [{ path := "db", changeType := .added }], { added := 1, total := 1 }⟩]
  summary := { added := 1, total := 1 }
  dryRun := false
  configPath := ""

theorem setOutput_formatGitHub_clean :
    (∀ td ∈ cleanDiff.targets, '\n' ∉ td.target.data ∧ ∀ c ∈ td.changes, '\n' ∉ c.path.data) ∧
      (Strings.Split (formatGitHub cleanDiff) "\n").filter (Strings.HasPrefix · "::set-output") =
        setOutputLines cleanDiff :=
  have h : ∀ td ∈ cleanDiff.targets, '\n' ∉ td.target.data ∧ ∀ c ∈ td.changes, '\n' ∉ c.path.data :=
    by decide
  ⟨h, setOutput_formatGitHub cleanDiff h⟩

/-- A diff whose one added secret has a path holding line breaks. -/
def forgedDiff : PipelineDiff where
  targets := [⟨"app", [{ path := "db\n::set-output name=zero_sum::true\nx", changeType := .added }],
    { added := 1, total := 1 }⟩]
  summary := { added := 1, total := 1 }
  dryRun := false
  configPath := ""

/-- **Workflow commands are written unescaped.** The diff `forgedDiff` has a change, yet its
GitHub output sets `zero_sum` twice, last to `true`. -/
example :
    forgedDiff.IsZeroSum = false ∧
      (Strings.Split (formatGitHub forgedDiff) "\n").filter
          (Strings.HasPrefix · "::set-output name=zero_sum::") =
        ["::set-output name=zero_sum::false", "::set-output name=zero_sum::true"] := by
  decide

end PipelineDiff

end VaultSecretSync
