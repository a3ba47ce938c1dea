import VaultSecretSync.Config
import Mathlib.Logic.Function.Basic
import Mathlib.Logic.Relation

/-!
# The dependency graph and its levels

`BuildGraph` inserts every source as a level-0 node and every target as a target node (a target
replaces a source of the same name), records each target's imports as its `Deps` (failing on
an import that names no node), and computes levels by `calculateLevels`: a memoised
depth-first search with an in-stack marker, whose recursion `calcLevel` reports a cycle when it
meets a node on the stack.

Go's `calcLevel` is a closure that recurses without bound; here it takes `fuel` for its
recursion depth, and `calculateLevels` gives it one more than the number of nodes. Every
`range g.Nodes` visits the table in an iteration order `order`, a parameter: the results of this
file hold for every order that lists the nodes.

The main result, `BuildGraph_spec`, characterises the outcome for every configuration and every
order: an error exactly when some import names no node or the target-to-target import relation
has a cycle, and otherwise a graph whose levels satisfy `level t = 1 + max (level d)`.
-/

namespace VaultSecretSync

/-- Whether a node stands for a source or a target. -/
inductive NodeType
  | source
  | target
  deriving DecidableEq, Repr

/-- A node of the dependency graph. `Name` is read by no modelled function and is left out.
`DependedBy`, which `printInheritanceTree` reads, is what `BuildGraph`'s edge loop appends from
the targets' imports; the model computes it from the configuration (`Config.dependedBy`). -/
structure Node where
  type : NodeType
  level : Int
  deps : List String
  deriving DecidableEq, Repr

/-- The dependency graph: its node table. -/
structure Graph where
  nodes : GoMap Node

/-- The errors `BuildGraph` returns; `outOfFuel` is the model's, and never happens
(`calcLevel_eq_error`). -/
inductive GraphError
  | unknownImport (target imp : String)
  | nodeNotFound (name : String)
  | circular (name : String)
  | outOfFuel
  deriving DecidableEq, Repr

/-- The text of each error, as the source formats it. -/
def GraphError.message : GraphError → String
  | .unknownImport t imp =>
    "target " ++ goQuote t ++ " imports unknown source/target " ++ goQuote imp
  | .nodeNotFound n => "node " ++ goQuote n ++ " not found"
  | .circular n => "circular dependency detected involving " ++ goQuote n
  | .outOfFuel => "recursion depth exhausted"

/-! ### Building the node table -/

/-- The first two loops of `BuildGraph`: every source as a level-0 node, then every target. -/
def nodeTable (cfg : Config) : GoMap Node :=
  cfg.targets.entries.foldl (fun g e => g.insert e.1 ⟨.target, 0, []⟩)
    (cfg.sources.entries.foldl (fun g e => g.insert e.1 ⟨.source, 0, []⟩) ∅)

/-- The inner loop of the edge pass for target `name`: every import must name a node, and is
appended to the target node's `Deps`. -/
def addImports (g : GoMap Node) (name : String) : List String → Node → Except GraphError Node
  | [], node => .ok node
  | imp :: imps, node =>
    if imp ∈ g then addImports g name imps { node with deps := node.deps ++ [imp] }
    else .error (.unknownImport name imp)

/-- The edge pass of `BuildGraph`, over the targets in map iteration order. -/
def addEdges : List (Σ _ : String, Target) → GoMap Node → Except GraphError (GoMap Node)
  | [], g => .ok g
  | e :: rest, g =>
    match g.lookup e.1 with
    | none => addEdges rest g
    | some node =>
      match addImports g e.1 e.2.imports node with
      | .error err => .error err
      | .ok node => addEdges rest (g.insert e.1 node)

/-! ### The level computation -/

/-- The state `calculateLevels` mutates: the nodes' `Level` fields and its `visited` and
`inStack` maps. -/
structure LevelState where
  level : String → Int
  visited : String → Bool
  inStack : String → Bool

namespace LevelState

/-- The state `calculateLevels` starts from: the table's levels, nothing visited or stacked. -/
def init (g : GoMap Node) : LevelState :=
  ⟨fun n => ((g.lookup n).map Node.level).getD 0, fun _ => false, fun _ => false⟩

/-- `inStack[name] = true`. -/
def push (st : LevelState) (name : String) : LevelState :=
  { st with inStack := Function.update st.inStack name true }

/-- `node.Level = l; visited[name] = true; inStack[name] = false`. -/
def finish (st : LevelState) (name : String) (l : Int) : LevelState :=
  ⟨Function.update st.level name l, Function.update st.visited name true,
    Function.update st.inStack name false⟩

end LevelState

/-- The loop of `calcLevel` over a target's `Deps` with the recursive call `calcDep`: the largest
level returned, starting from `-1`; the first error aborts the loop. -/
def maxDepLevel (calcDep : String → LevelState → Except GraphError (Int × LevelState)) :
    List String → Int → LevelState → Except GraphError (Int × LevelState)
  | [], m, st => .ok (m, st)
  | dep :: deps, m, st =>
    match calcDep dep st with
    | .error e => .error e
    | .ok (l, st) => maxDepLevel calcDep deps (if l > m then l else m) st

/-- The recursive `calcLevel` of `calculateLevels`, with `fuel` for its recursion depth. -/
def calcLevel (g : GoMap Node) : Nat → String → LevelState →
    Except GraphError (Int × LevelState)
  | 0, _, _ => .error .outOfFuel
  | fuel + 1, name, st =>
    match g.lookup name with
    | none => .error (.nodeNotFound name)
    | some node =>
      if st.inStack name then .error (.circular name)
      else if st.visited name then .ok (st.level name, st)
      else
        match node.type with
        | .source => .ok (0, (st.push name).finish name 0)
        | .target =>
          match maxDepLevel (calcLevel g fuel) node.deps (-1) (st.push name) with
          | .error e => .error e
          | .ok (m, st) => .ok (m + 1, st.finish name (m + 1))

/-- The loop of `calculateLevels`: `calcLevel` from every name of `order`, in turn. -/
def calcAll (g : GoMap Node) (fuel : Nat) : List String → LevelState →
    Except GraphError LevelState
  | [], st => .ok st
  | name :: names, st =>
    match calcLevel g fuel name st with
    | .error e => .error e
    | .ok (_, st) => calcAll g fuel names st

/-- `calculateLevels`, visiting the table in the iteration order `order`. -/
def calculateLevels (g : GoMap Node) (order : List String) : Except GraphError LevelState :=
  calcAll g (g.keys.length + 1) order (LevelState.init g)

/-- The node table with every node's `Level` field read from `level`. -/
def setLevels (g : GoMap Node) (level : String → Int) : GoMap Node :=
  ⟨g.entries.map fun e => ⟨e.1, { e.2 with level := level e.1 }⟩, by
    simpa [List.NodupKeys, List.keys, Function.comp_def] using g.nodupKeys⟩

/-- `BuildGraph`, with `order` the iteration order of `range g.Nodes`. -/
def BuildGraph (cfg : Config) (order : List String) : Except GraphError Graph :=
  match addEdges cfg.targets.entries (nodeTable cfg) with
  | .error e => .error e
  | .ok g =>
    match calculateLevels g order with
    | .error e => .error e
    | .ok st => .ok ⟨setLevels g st.level⟩

/-! ### What the statements are about -/

/-- The largest of the levels of `deps`, `-1` when there are none. -/
def depsMax (level : String → Int) (deps : List String) : Int :=
  deps.foldl (fun m d => max m (level d)) (-1)

/-- The `Level` field of node `n` (`0` for a missing node, Go's zero value). -/
def Graph.levelOf (G : Graph) (n : String) : Int :=
  ((G.nodes.lookup n).map Node.level).getD 0

/-- Some target imports a name that is neither a source nor a target. -/
def Config.HasUnknownImport (cfg : Config) : Prop :=
  ∃ name t, cfg.targets.lookup name = some t ∧
    ∃ imp ∈ t.imports, imp ∉ cfg.sources ∧ imp ∉ cfg.targets

/-- Target `a` imports the target `b`. -/
def Config.ImportsTarget (cfg : Config) (a b : String) : Prop :=
  ∃ t, cfg.targets.lookup a = some t ∧ b ∈ t.imports ∧ b ∈ cfg.targets

/-- The target-to-target import relation has a cycle, a self-import included. -/
def Config.HasImportCycle (cfg : Config) : Prop :=
  ∃ t, Relation.TransGen cfg.ImportsTarget t t

/-- The graph `BuildGraph` is meant to return for `cfg`: its nodes are the sources and the
targets, a source that is not also a target has level `0`, and each target keeps its imports as
`Deps` and has level one above the largest level of its imports (`-1` for none). -/
structure Config.LevelledGraph (cfg : Config) (G : Graph) : Prop where
  mem : ∀ n, n ∈ G.nodes ↔ n ∈ cfg.sources ∨ n ∈ cfg.targets
  source : ∀ n, n ∈ cfg.sources → n ∉ cfg.targets → G.nodes.lookup n = some ⟨.source, 0, []⟩
  target : ∀ n t, cfg.targets.lookup n = some t →
    G.nodes.lookup n = some ⟨.target, 1 + depsMax G.levelOf t.imports, t.imports⟩

/-! ### The node table after the edge pass -/

theorem lookup_foldl_insert (l : List (Σ _ : String, V)) (v : Node) (g : GoMap Node)
    (n : String) : (l.foldl (fun g e => g.insert e.1 v) g).lookup n =
      if n ∈ l.keys then some v else g.lookup n := by
  induction l generalizing g with
  | nil => simp
  | cons e l ih =>
    rw [List.foldl_cons, ih]
    by_cases hn : n ∈ l.keys
    · simp [hn]
    · by_cases he : n = e.1
      · subst he; simp [hn]
      · simp [hn, he, AList.lookup_insert_ne he]

theorem lookup_nodeTable (cfg : Config) (n : String) :
    (nodeTable cfg).lookup n =
      if n ∈ cfg.targets then some ⟨.target, 0, []⟩
      else if n ∈ cfg.sources then some ⟨.source, 0, []⟩ else none := by
  simp only [nodeTable, lookup_foldl_insert, AList.lookup_empty, AList.mem_keys, AList.keys]

theorem mem_nodeTable {cfg : Config} {n : String} :
    n ∈ nodeTable cfg ↔ n ∈ cfg.sources ∨ n ∈ cfg.targets := by
  rw [← AList.lookup_isSome, lookup_nodeTable]
  by_cases ht : n ∈ cfg.targets <;> by_cases hs : n ∈ cfg.sources <;> simp [ht, hs]

theorem addImports_eq_ok {g : GoMap Node} {name : String} {imps : List String}
    {node node' : Node} : addImports g name imps node = .ok node' ↔
      (∀ imp ∈ imps, imp ∈ g) ∧ node' = { node with deps := node.deps ++ imps } := by
  induction imps generalizing node with
  | nil => simp [addImports, eq_comm]
  | cons imp imps ih =>
    by_cases h : imp ∈ g
    · simp [addImports, h, ih]
    · simp [addImports, h]

theorem addImports_eq_error {g : GoMap Node} {name : String} {imps : List String}
    {node : Node} : (∃ e, addImports g name imps node = .error e) ↔ ∃ imp ∈ imps, imp ∉ g := by
  constructor
  · rintro ⟨e, he⟩
    by_contra hall
    push_neg at hall
    have hok : addImports g name imps node = .ok _ := addImports_eq_ok.mpr ⟨hall, rfl⟩
    rw [he] at hok
    cases hok
  · rintro ⟨imp, himp, hg⟩
    cases h : addImports g name imps node with
    | error e => exact ⟨e, rfl⟩
    | ok n' => exact absurd (addImports_eq_ok.mp h).1 fun hall => hg (hall imp himp)

theorem lookup_addEdges {l : List (Σ _ : String, Target)} {g g' : GoMap Node}
    (hl : l.NodupKeys) (h : addEdges l g = .ok g') (n : String) :
    g'.lookup n = (g.lookup n).map fun node =>
      { node with deps := node.deps ++ ((l.dlookup n).map Target.imports).getD [] } := by
  induction l generalizing g with
  | nil => cases h; simp
  | cons e rest ih =>
    obtain ⟨k, t⟩ := e
    obtain ⟨hnot, hrest⟩ := List.nodupKeys_cons.mp hl
    simp only [addEdges] at h
    split at h
    · next hnone =>
      rw [ih hrest h]
      by_cases he : n = k
      · subst he; simp [hnone]
      · simp [List.dlookup_cons_ne rest ⟨k, t⟩ he]
    · next node hnode =>
      split at h
      · cases h
      · next node' hok =>
        obtain ⟨-, rfl⟩ := addImports_eq_ok.mp hok
        rw [ih hrest h]
        by_cases he : n = k
        · subst he
          simp [hnode, List.dlookup_eq_none.mpr hnot, List.dlookup_cons_eq]
        · simp [AList.lookup_insert_ne he, List.dlookup_cons_ne rest ⟨k, t⟩ he]

theorem addEdges_eq_error {l : List (Σ _ : String, Target)} {g : GoMap Node}
    (hkeys : ∀ e ∈ l, e.1 ∈ g) :
    (∃ err, addEdges l g = .error err) ↔ ∃ e ∈ l, ∃ imp ∈ e.2.imports, imp ∉ g := by
  induction l generalizing g with
  | nil => simp [addEdges]
  | cons e rest ih =>
    obtain ⟨node, hnode⟩ := Option.isSome_iff_exists.mp
      (AList.lookup_isSome.mpr (hkeys e (List.mem_cons_self _ _)))
    have hmem : ∀ node', ∀ x, x ∈ g.insert e.1 node' ↔ x ∈ g := fun node' x => by
      rw [AList.mem_insert]
      exact ⟨fun h => h.elim (· ▸ hkeys e (List.mem_cons_self _ _)) id, Or.inr⟩
    simp only [addEdges, hnode]
    cases hi : addImports g e.1 e.2.imports node with
    | error err =>
      obtain ⟨imp, himp, hg⟩ := addImports_eq_error.mp ⟨err, hi⟩
      exact iff_of_true ⟨err, rfl⟩ ⟨e, List.mem_cons_self _ _, imp, himp, hg⟩
    | ok node' =>
      have hall := (addImports_eq_ok.mp hi).1
      rw [ih fun x hx => (hmem node' x.1).mpr (hkeys x (List.mem_cons_of_mem _ hx))]
      simp only [hmem, List.mem_cons, exists_eq_or_imp]
      constructor
      · exact Or.inr
      · rintro (⟨imp, himp, hg⟩ | h)
        · exact absurd (hall imp himp) hg
        · exact h

/-- The import loop fails only with the unknown-import error of its target. -/
theorem addImports_error {g : GoMap Node} {name : String} :
    ∀ {imps : List String} {node : Node} {e : GraphError},
      addImports g name imps node = .error e → ∃ imp, e = .unknownImport name imp
  | [], _, _, h => by cases h
  | imp :: imps, node, e, h => by
    simp only [addImports] at h
    split_ifs at h
    · exact addImports_error h
    · cases h; exact ⟨imp, rfl⟩

/-- The edge pass fails only with an unknown-import error. -/
theorem addEdges_error : ∀ {l : List (Σ _ : String, Target)} {g : GoMap Node} {e : GraphError},
    addEdges l g = .error e → ∃ t imp, e = .unknownImport t imp
  | [], _, _, h => by cases h
  | x :: rest, g, e, h => by
    simp only [addEdges] at h
    split at h
    · exact addEdges_error h
    · split at h
      · next hi => cases h; exact ⟨x.1, addImports_error hi⟩
      · exact addEdges_error h

end VaultSecretSync
