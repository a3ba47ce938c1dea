import VaultSecretSync.Graph.Order
import VaultSecretSync.Utils.Strings

/-!
# The printouts of the graph

`vss graph` builds the dependency graph and prints it, as DOT (`printDotGraph`) or as text
(`printTextGraph`). Each printout is the list of the lines it writes. The text ends with the inheritance flow: one tree per target that inherits
from no target (`Config.IsInheritedTarget`), whose children are the targets that import it, read
from the `DependedBy` lists `BuildGraph` writes (`Config.dependedBy`).

Go's `printInheritanceTree` recurses without bound and keeps no visited set; it stops because a
built graph has no import cycle. Here it takes `fuel`, and `printInheritanceFlow` gives it one
more than the graph's largest level. The model's `Source` keeps only its Vault source, so the
account of an AWS source is an input (`awsAccount`).

* **The graph command** (`runGraph_spec`): `vss graph` never panics, fails exactly when some
  target imports a name that is nothing or the imports form a cycle, and otherwise prints every
  target in its text output.

It rests on two facts of the inheritance flow. Every child lies a level above its parent, so a
tree given more fuel than the levels above its root is the tree Go prints
(`printInheritanceTree_fuel_add`); and each target heads a subtree of the flow, a target that
inherits under the target it imports (`mem_printInheritanceFlow`).
-/

namespace VaultSecretSync

namespace Config

/-- `Config.IsInheritedTarget`: the name is a target and one of its imports is a target. -/
def IsInheritedTarget (c : Config) (targetName : String) : Bool :=
  match c.targets.lookup targetName with
  | none => false
  | some target => target.imports.any fun imp => imp ∈ c.targets

/-- The `DependedBy` list `BuildGraph`'s edge loop writes for the node `name`: for each target in
iteration order, its name once for each of its imports that is `name`. -/
def dependedBy (c : Config) (name : String) : List String :=
  c.targets.entries.flatMap fun e => (e.2.imports.filter (· = name)).map fun _ => e.1

theorem IsInheritedTarget_iff {c : Config} {n : String} :
    c.IsInheritedTarget n = true ↔ ∃ b, c.ImportsTarget n b := by
  unfold IsInheritedTarget ImportsTarget
  cases c.targets.lookup n <;> simp

theorem mem_dependedBy {c : Config} {child name : String} :
    child ∈ c.dependedBy name ↔ ∃ t, c.targets.lookup child = some t ∧ name ∈ t.imports := by
  simp only [dependedBy, List.mem_flatMap, List.mem_map, List.mem_filter, decide_eq_true_eq]
  constructor
  · rintro ⟨⟨k, t⟩, he, _, ⟨hm, rfl⟩, rfl⟩
    exact ⟨t, AList.mem_lookup_iff.2 he, hm⟩
  · rintro ⟨t, ht, hm⟩
    exact ⟨⟨child, t⟩, AList.mem_lookup_iff.1 ht, name, ⟨hm, rfl⟩, rfl⟩

end Config

namespace Config.LevelledGraph

variable {cfg : Config} {G : Graph} (hG : cfg.LevelledGraph G)
include hG

theorem levelOf_le_maxLevel {n : String} (hn : n ∈ cfg.targets) :
    0 ≤ G.levelOf n ∧ G.levelOf n ≤ G.maxLevel := by
  obtain ⟨t, -, hl⟩ := hG.exists_lookup_target hn
  have h0 := hG.level_nonneg hl
  have h1 := Graph.level_le_maxLevel hl rfl
  simp only [Graph.levelOf, hl, Option.map_some', Option.getD_some]
  exact ⟨h0, h1⟩

end Config.LevelledGraph

namespace Cmd

/-! ### The inheritance flow -/

/-- The line `printInheritanceTree` prints for `name`: the prefix, the connector, the name and
the target's account. -/
def treeLine (cfg : Config) (pfx name : String) (isLast : Bool) : String :=
  pfx ++ (if isLast then "└──" else "├──") ++ " " ++ name ++ " (→ " ++
    ((cfg.targets.lookup name).map (·.accountID)).getD "" ++ ")"

/-- The children `printInheritanceTree` visits under `name`: its node's `DependedBy`, sorted. -/
def treeChildren (cfg : Config) (G : Graph) (name : String) : List String :=
  (if name ∈ G.nodes then cfg.dependedBy name else []).insertionSort (· ≤ ·)

/-- `printInheritanceTree` with `fuel` for its recursion depth: the line of `name`, then the tree
of each child under the extended prefix, the last child marked last. -/
def printInheritanceTree (cfg : Config) (G : Graph) : Nat → String → String → Bool → List String
  | 0, _, _, _ => []
  | fuel + 1, name, pfx, isLast =>
    treeLine cfg pfx name isLast ::
      (treeChildren cfg G name).enum.flatMap fun c =>
        printInheritanceTree cfg G fuel c.2 (pfx ++ if isLast then "    " else "│   ")
          (c.1 == (treeChildren cfg G name).length - 1)

/-- `printInheritanceFlow`: the tree of each target that inherits from no target, sorted by
name, each given one more than the graph's largest level as fuel. -/
def printInheritanceFlow (cfg : Config) (G : Graph) : List String :=
  ((cfg.targets.keys.filter fun n => !cfg.IsInheritedTarget n).insertionSort (· ≤ ·)).flatMap
    fun root => printInheritanceTree cfg G (G.maxLevel.toNat + 1) root "   " true

section Flow

variable {cfg : Config} {G : Graph} (hG : cfg.LevelledGraph G)

include hG in
theorem mem_treeChildren {name child : String}
    (hn : name ∈ cfg.targets) : child ∈ treeChildren cfg G name ↔ cfg.ImportsTarget child name := by
  rw [treeChildren, (List.perm_insertionSort _ _).mem_iff, if_pos ((hG.mem name).2 (.inr hn)),
    Config.mem_dependedBy]
  exact ⟨fun ⟨t, ht, hm⟩ => ⟨t, ht, hm, hn⟩, fun ⟨t, ht, hm, _⟩ => ⟨t, ht, hm⟩⟩

include hG in
theorem mem_of_mem_treeChildren {name child : String} (hn : name ∈ cfg.targets)
    (hc : child ∈ treeChildren cfg G name) : child ∈ cfg.targets ∧ G.levelOf name < G.levelOf child := by
  have himp := (mem_treeChildren hG hn).1 hc
  obtain ⟨t, ht, -⟩ := id himp
  exact ⟨AList.lookup_isSome.1 (by simp [ht]), hG.levelOf_lt himp⟩

include hG in
/-- **More fuel changes nothing.** A tree given more fuel than the levels above its root is the
tree of the unbounded recursion: every child lies a level above its parent, and no target lies
above the largest level. -/
theorem printInheritanceTree_fuel_add (k : Nat) :
    ∀ (fuel : Nat) {name : String} (pfx : String) (isLast : Bool), name ∈ cfg.targets →
      G.maxLevel < G.levelOf name + fuel →
      printInheritanceTree cfg G (fuel + k) name pfx isLast =
        printInheritanceTree cfg G fuel name pfx isLast
  | 0, _, _, _, hn, hlt => absurd hlt (by have := (hG.levelOf_le_maxLevel hn).2; omega)
  | fuel + 1, name, pfx, isLast, hn, hlt => by
    rw [Nat.add_right_comm, printInheritanceTree, printInheritanceTree]
    refine congrArg _ (List.flatMap_congr fun c hc => ?_)
    obtain ⟨hct, hlev⟩ := mem_of_mem_treeChildren hG hn (List.snd_mem_of_mem_enum hc)
    exact printInheritanceTree_fuel_add k fuel _ _ hct (by omega)

/-- A child's tree, one fuel down, is part of its parent's tree. -/
theorem subtree_subset {name child : String} (pfx : String) (isLast : Bool) (fuel : Nat)
    (hc : child ∈ treeChildren cfg G name) :
    ∃ b, ∀ l ∈ printInheritanceTree cfg G fuel child (pfx ++ if isLast then "    " else "│   ") b,
      l ∈ printInheritanceTree cfg G (fuel + 1) name pfx isLast := by
  obtain ⟨i, hi⟩ := List.mem_iff_getElem?.1 hc
  exact ⟨_, fun l hl => List.mem_cons_of_mem _
    (List.mem_flatMap.2 ⟨(i, child), List.mem_enum_iff_getElem?.2 hi, hl⟩)⟩

include hG in
/-- Every target's tree, at the fuel the flow gives, is part of the flow: a root's directly, an
inheriting target's inside the tree of a target it imports, which lies a level lower. -/
theorem tree_subset_printInheritanceFlow :
    ∀ (k : Nat) {n : String}, (G.levelOf n).toNat = k → n ∈ cfg.targets →
      ∃ pfx b, ∀ l ∈ printInheritanceTree cfg G (G.maxLevel.toNat + 1) n pfx b,
        l ∈ printInheritanceFlow cfg G := by
  intro k
  induction k using Nat.strong_induction_on with
  | _ k ih =>
    intro n hk hn
    cases hinh : cfg.IsInheritedTarget n with
    | false =>
      refine ⟨"   ", true, fun l hl => List.mem_flatMap.2 ⟨n, ?_, hl⟩⟩
      rw [(List.perm_insertionSort _ _).mem_iff, List.mem_filter, ← AList.mem_keys]
      exact ⟨hn, by simp [hinh]⟩
    | true =>
      obtain ⟨b, hb⟩ := Config.IsInheritedTarget_iff.1 hinh
      obtain ⟨-, -, -, hbt⟩ := id hb
      have hlt := hG.levelOf_lt hb
      have h0 := (hG.levelOf_le_maxLevel hbt).1
      have hmax := (hG.levelOf_le_maxLevel hn).2
      obtain ⟨pfx, isLast, hsub⟩ := ih _ (by omega) rfl hbt
      obtain ⟨b', hb'⟩ := subtree_subset pfx isLast G.maxLevel.toNat
        ((mem_treeChildren hG hbt).2 hb)
      refine ⟨pfx ++ if isLast then "    " else "│   ", b', fun l hl => hsub l (hb' l ?_)⟩
      rwa [← printInheritanceTree_fuel_add hG 1 _ _ _ hn (by omega)]

include hG in
/-- **Every target is printed.** Each target has its line in the inheritance flow. -/
theorem mem_printInheritanceFlow {n : String} (hn : n ∈ cfg.targets) :
    ∃ pfx isLast, treeLine cfg pfx n isLast ∈ printInheritanceFlow cfg G := by
  obtain ⟨pfx, isLast, h⟩ := tree_subset_printInheritanceFlow hG _ rfl hn
  exact ⟨pfx, isLast, h _ (List.mem_cons_self _ _)⟩

end Flow

/-! ### The DOT graph -/

/-- The DOT line of the edge from the import `imp` to the target `name`. -/
def dotEdge (imp name style : String) : String :=
  "  \"" ++ imp ++ "\" -> \"" ++ name ++ "\" [style=" ++ style ++ "];"

/-- `printDotGraph`: the sources in a dashed blue cluster, the targets with their accounts in a
green one, then an edge from each import to its target, bold when the import is a target. -/
def printDotGraph (cfg : Config) : List String :=
  ["digraph secrets_pipeline \x7b", "  rankdir=LR;", "  node [shape=box];", "",
    "  subgraph cluster_sources \x7b", "    label=\"Sources\";", "    style=dashed;",
    "    color=blue;"] ++
  cfg.sources.keys.map (fun name => "    \"" ++ name ++ "\" [shape=cylinder, color=blue];") ++
  ["  \x7d", "", "  subgraph cluster_targets \x7b", "    label=\"Targets\";", "    style=dashed;",
    "    color=green;"] ++
  cfg.targets.entries.map (fun e =>
    "    \"" ++ e.1 ++ "\" [label=\"" ++ e.1 ++ "\\n" ++ e.2.accountID ++ "\", color=green];") ++
  ["  \x7d", "", "  // Dependencies"] ++
  cfg.targets.entries.flatMap (fun e => e.2.imports.map fun imp =>
    dotEdge imp e.1 (if imp ∈ cfg.targets then "bold" else "solid")) ++
  ["\x7d"]

/-! ### The text graph and the command -/

/-- The lines `printTextGraph` writes for a target: its account, then its imports that are not
targets and those that are, each list when it is not empty. -/
def targetLines (cfg : Config) (name : String) : List String :=
  let imports := ((cfg.targets.lookup name).map (·.imports)).getD []
  let sources := imports.filter fun imp => imp ∉ cfg.targets
  let inherited := imports.filter fun imp => imp ∈ cfg.targets
  ("   ├── " ++ name ++ " (account: " ++ ((cfg.targets.lookup name).map (·.accountID)).getD "" ++
      ")") ::
    ((if sources ≠ [] then ["   │   └── sources: " ++ fmtList sources] else []) ++
      (if inherited ≠ [] then ["   │   └── inherits: " ++ fmtList inherited] else []))

/-- `printTextGraph`: the sources, the targets level by level, the execution order and the
inheritance flow; `awsAccount` is the account of each AWS source. `none` is a panic of
`GroupByLevel`. -/
def printTextGraph (cfg : Config) (awsAccount : String → Option String) (G : Graph) :
    Option (List String) :=
  G.GroupByLevel.map fun levels =>
    ["Secrets Pipeline Dependency Graph", ⟨List.replicate 50 '='⟩, "", "📦 Sources:"] ++
    cfg.sources.entries.filterMap (fun e =>
      match e.2.vault with
      | some v => some ("   " ++ e.1 ++ " (vault: " ++ v.mount ++ ")")
      | none => (awsAccount e.1).map fun a => "   " ++ e.1 ++ " (aws: " ++ a ++ ")") ++
    ["", "🎯 Targets (by dependency level):"] ++
    levels.enum.flatMap (fun l =>
      if l.2 = [] then [] else ["", "   Level " ++ toString l.1 ++ ":"] ++ l.2.flatMap (targetLines cfg)) ++
    ["", "📋 Execution Order:"] ++
    G.TopologicalOrder.enum.map (fun p => "   " ++ toString (p.1 + 1) ++ ". " ++ p.2) ++
    ["", "🔗 Inheritance Flow:"] ++ printInheritanceFlow cfg G

/-- `runGraph`, the `vss graph` command, on a loaded configuration: build the graph visiting its
nodes in `order`, then print it as DOT under `--format dot` and as text otherwise. `none` is a
panic. -/
def runGraph (cfg : Config) (awsAccount : String → Option String) (order : List String)
    (graphFormat : String) : Option (Except String (List String)) :=
  match BuildGraph cfg order with
  | .error err => some (.error ("failed to build graph: " ++ err.message))
  | .ok graph =>
    if graphFormat = "dot" then some (.ok (printDotGraph cfg))
    else (printTextGraph cfg awsAccount graph).map .ok

theorem printTextGraph_isSome {cfg : Config} {G : Graph} (hG : cfg.LevelledGraph G)
    (awsAccount : String → Option String) : (printTextGraph cfg awsAccount G).isSome := by
  rw [printTextGraph, Graph.GroupByLevel_eq fun n node hl _ => hG.level_nonneg hl]
  rfl

section Command

variable {cfg : Config} {order : List String}
  (horder : ∀ n, n ∈ order ↔ n ∈ cfg.sources ∨ n ∈ cfg.targets)
  (awsAccount : String → Option String) (graphFormat : String)
include horder

/-- The text output of `vss graph` prints every target in its inheritance flow. -/
theorem mem_runGraph {lines : List String} (hdot : graphFormat ≠ "dot")
    (h : runGraph cfg awsAccount order graphFormat = some (.ok lines)) {n : String}
    (hn : n ∈ cfg.targets) : ∃ pfx isLast, treeLine cfg pfx n isLast ∈ lines := by
  rw [runGraph] at h
  cases hb : BuildGraph cfg order with
  | error e => simp [hb] at h
  | ok G =>
    simp only [hb, if_neg hdot] at h
    obtain ⟨out, hout, heq⟩ := Option.map_eq_some'.1 h
    cases heq
    obtain ⟨levels, -, rfl⟩ := Option.map_eq_some'.1 hout
    obtain ⟨pfx, isLast, hm⟩ := mem_printInheritanceFlow (levelledGraph_of_BuildGraph horder hb) hn
    exact ⟨pfx, isLast, List.mem_append_right _ hm⟩

/-- `vss graph` never panics, and it fails exactly when some import names neither a source nor
a target or the target imports form a cycle. -/
theorem runGraph_error_iff :
    runGraph cfg awsAccount order graphFormat ≠ none ∧
      ((∃ e, runGraph cfg awsAccount order graphFormat = some (.error e)) ↔
        cfg.HasUnknownImport ∨ cfg.HasImportCycle) := by
  rw [← BuildGraph_eq_error_iff horder, runGraph]
  cases hb : BuildGraph cfg order with
  | error e => simp
  | ok G =>
    obtain ⟨lines, hl⟩ := Option.isSome_iff_exists.1
      (printTextGraph_isSome (levelledGraph_of_BuildGraph horder hb) awsAccount)
    split_ifs <;> simp [hl]

/-- **The graph command.** On a loaded configuration, `vss graph` never panics; it fails exactly
when some import names neither a source nor a target or the target imports form a cycle; and its
text output prints every target in the inheritance flow. -/
theorem runGraph_spec :
    runGraph cfg awsAccount order graphFormat ≠ none ∧
      ((∃ e, runGraph cfg awsAccount order graphFormat = some (.error e)) ↔
        cfg.HasUnknownImport ∨ cfg.HasImportCycle) ∧
      ∀ lines, graphFormat ≠ "dot" → runGraph cfg awsAccount order graphFormat = some (.ok lines) →
        ∀ n ∈ cfg.targets, ∃ pfx isLast, treeLine cfg pfx n isLast ∈ lines :=
  have h := runGraph_error_iff horder awsAccount graphFormat
  ⟨h.1, h.2, fun _ hdot hrun _ hn => mem_runGraph horder awsAccount graphFormat hdot hrun hn⟩

end Command

/-- `vss graph` on the chain configuration prints its text graph. -/
theorem runGraph_spec_chain :
    (∀ n, n ∈ ["Demo", "analytics", "Stg", "Prod", "analytics-engineers"] ↔
        n ∈ chainConfig.sources ∨ n ∈ chainConfig.targets) ∧
      (runGraph chainConfig (fun _ => none) ["Demo", "analytics", "Stg", "Prod",
          "analytics-engineers"] "text" ≠ none ∧
        ((∃ e, runGraph chainConfig (fun _ => none) ["Demo", "analytics", "Stg", "Prod",
            "analytics-engineers"] "text" = some (.error e)) ↔
          chainConfig.HasUnknownImport ∨ chainConfig.HasImportCycle) ∧
        ∀ lines, "text" ≠ "dot" → runGraph chainConfig (fun _ => none) ["Demo", "analytics",
            "Stg", "Prod", "analytics-engineers"] "text" = some (.ok lines) →
          ∀ n ∈ chainConfig.targets, ∃ pfx isLast, treeLine chainConfig pfx n isLast ∈ lines) :=
  ⟨chainConfig_order, runGraph_spec chainConfig_order (fun _ => none) "text"⟩

end Cmd

end VaultSecretSync
