import VaultSecretSync.Graph.Levels
import Mathlib.Data.List.Sort
import Mathlib.Data.Prod.Lex
import Mathlib.Data.String.Basic
import Mathlib.Algebra.Order.Ring.Int

/-!
# Orders over the graph

The three read-only views of the graph the pipeline schedules from: `TopologicalOrder` (the
targets sorted by level, then name), `GroupByLevel` (the targets of each level, sorted by name)
and `IncludeDependencies` (the requested names closed under target-typed dependencies, sorted as
`TopologicalOrder`).

Go's `sort.Slice` is modelled by `List.insertionSort`: both produce the one sorted permutation
of names that are pairwise distinct under a total order. `IncludeDependencies` sorts with a
comparator that reads `g.Nodes[name].Level`; on two or more names every name is compared, so the
comparator dereferences a missing node exactly when some included name has none, and the call
panics (`none`). Its recursion `addDeps` takes `fuel` for its depth, one more than the number of
nodes, which `addDeps_spec` shows is never exhausted.
-/

namespace VaultSecretSync

namespace Graph

open Relation

/-- The names of the target nodes, in the table's iteration order. -/
def targetNames (G : Graph) : List String :=
  (G.nodes.entries.filter fun e => e.2.type = .target).map (·.1)

/-- The comparator of `TopologicalOrder` and `IncludeDependencies`: by level, then by name. -/
def levelLE (G : Graph) (a b : String) : Prop :=
  toLex (G.levelOf a, a) ≤ toLex (G.levelOf b, b)

instance (G : Graph) : DecidableRel G.levelLE := fun a b =>
  inferInstanceAs (Decidable (toLex (G.levelOf a, a) ≤ toLex (G.levelOf b, b)))

instance (G : Graph) : IsTotal String G.levelLE := ⟨fun _ _ => le_total _ _⟩

instance (G : Graph) : IsTrans String G.levelLE := ⟨fun _ _ _ => le_trans⟩

/-- `TopologicalOrder`: the targets sorted by level, then by name. -/
def TopologicalOrder (G : Graph) : List String :=
  G.targetNames.insertionSort G.levelLE

/-- The names of the target entries at level `i`, in list order. -/
def levelNames (entries : List (Σ _ : String, Node)) (i : Nat) : List String :=
  (entries.filter fun e => e.2.type = .target ∧ e.2.level = (i : Int)).map (·.1)

/-- `levels[i] = append(levels[i], name)`, a panic (`none`) when `i` is out of range. -/
def appendAt (levels : List (List String)) (i : Int) (name : String) :
    Option (List (List String)) :=
  if 0 ≤ i ∧ i < levels.length then some (levels.modify (· ++ [name]) i.toNat) else none

/-- The largest target level, and `0` when there is none or all are negative. -/
def maxLevel (G : Graph) : Int :=
  G.nodes.entries.foldl (fun m e => if e.2.type = .target ∧ e.2.level > m then e.2.level else m) 0

/-- The body of `GroupByLevel`'s second loop: a target is appended at its level. -/
def groupStep (levels : List (List String)) (e : Σ _ : String, Node) :
    Option (List (List String)) :=
  if e.2.type = .target then appendAt levels e.2.level e.1 else some levels

/-- `GroupByLevel`: one list per level from `0` to the largest, each target appended at its
level and each list sorted by name; a panic (`none`) on a target level out of range. -/
def GroupByLevel (G : Graph) : Option (List (List String)) :=
  (G.nodes.entries.foldlM groupStep (List.replicate (G.maxLevel + 1).toNat [])).map
    fun levels => levels.map fun l => l.insertionSort (· ≤ ·)

/-- Whether `name` is a target node (`depNode != nil && depNode.Type == NodeTypeTarget`). -/
def isTarget (G : Graph) (name : String) : Bool :=
  (G.nodes.lookup name).any (·.type = .target)

/-- The recursive `addDeps` of `IncludeDependencies` on the names `included` so far (in the
order they were included), with `fuel` for its recursion depth. -/
def addDeps (G : Graph) : Nat → String → List String → List String
  | 0, _, included => included
  | fuel + 1, name, included =>
    if name ∈ included then included
    else
      match G.nodes.lookup name with
      | none => included ++ [name]
      | some node =>
        node.deps.foldl (fun inc dep => if G.isTarget dep then G.addDeps fuel dep inc else inc)
          (included ++ [name])

/-- The `included` set of `IncludeDependencies` after its loop over the requested names. -/
def includedNames (G : Graph) (targets : List String) : List String :=
  targets.foldl (fun inc t => G.addDeps (G.nodes.keys.length + 1) t inc) []

/-- `IncludeDependencies`: `addDeps` from every requested name, then the included names sorted
by level and name; a panic (`none`) when the comparator meets a name with no node. -/
def IncludeDependencies (G : Graph) (targets : List String) : Option (List String) :=
  let included := G.includedNames targets
  if 2 ≤ included.length ∧ ∃ n ∈ included, n ∉ G.nodes then none
  else some (included.insertionSort G.levelLE)

/-! ### Sorting by level and name -/

variable {G : Graph}

theorem levelLE_antisymm {a b : String} (hab : G.levelLE a b) (hba : G.levelLE b a) : a = b :=
  congrArg Prod.snd (toLex.injective (le_antisymm hab hba))

instance (G : Graph) : IsAntisymm String G.levelLE := ⟨fun _ _ => levelLE_antisymm⟩

/-- The strict order of the comparator: level first, then name. -/
def levelLT (G : Graph) (a b : String) : Prop :=
  toLex (G.levelOf a, a) < toLex (G.levelOf b, b)

instance (G : Graph) : IsIrrefl String G.levelLT := ⟨fun _ => lt_irrefl _⟩

instance (G : Graph) : IsAsymm String G.levelLT := ⟨fun _ _ => lt_asymm⟩

/-- A sorted list of distinct names is strictly increasing in (level, name). -/
theorem sorted_levelLT {l : List String} (hs : l.Sorted G.levelLE) (hnd : l.Nodup) :
    l.Sorted G.levelLT :=
  (hs.and hnd).imp fun ⟨hle, hne⟩ =>
    lt_of_le_of_ne hle fun h => hne (congrArg Prod.snd (toLex.injective h))

/-! ### The targets, and the targets of a level -/

theorem mem_targetNames {n : String} :
    n ∈ G.targetNames ↔ ∃ node, G.nodes.lookup n = some node ∧ node.type = .target := by
  simp only [targetNames, List.mem_map, List.mem_filter, decide_eq_true_eq]
  constructor
  · rintro ⟨⟨k, node⟩, ⟨he, ht⟩, rfl⟩
    exact ⟨node, AList.mem_lookup_iff.2 he, ht⟩
  · rintro ⟨node, hl, ht⟩
    exact ⟨⟨n, node⟩, ⟨AList.mem_lookup_iff.1 hl, ht⟩, rfl⟩

theorem nodup_targetNames : G.targetNames.Nodup :=
  ((List.filter_sublist _).map Sigma.fst).nodup G.nodes.nodupKeys

theorem mem_levelNames {n : String} {i : Nat} :
    n ∈ levelNames G.nodes.entries i ↔
      ∃ node, G.nodes.lookup n = some node ∧ node.type = .target ∧ node.level = i := by
  simp only [levelNames, List.mem_map, List.mem_filter, decide_eq_true_eq]
  constructor
  · rintro ⟨⟨k, node⟩, ⟨he, ht⟩, rfl⟩
    exact ⟨node, AList.mem_lookup_iff.2 he, ht⟩
  · rintro ⟨node, hl, ht⟩
    exact ⟨⟨n, node⟩, ⟨AList.mem_lookup_iff.1 hl, ht⟩, rfl⟩

theorem nodup_levelNames (i : Nat) : (levelNames G.nodes.entries i).Nodup :=
  ((List.filter_sublist _).map Sigma.fst).nodup G.nodes.nodupKeys

theorem levelNames_append_singleton (pre : List (Σ _ : String, Node)) (e : Σ _ : String, Node)
    (i : Nat) : levelNames (pre ++ [e]) i =
      levelNames pre i ++ if e.2.type = .target ∧ e.2.level = i then [e.1] else [] := by
  simp only [levelNames, List.filter_append, List.map_append, List.filter_cons, List.filter_nil]
  split <;> simp_all

/-! ### `GroupByLevel` -/

theorem le_maxLevel : ∀ (l : List (Σ _ : String, Node)) (m : Int),
    m ≤ l.foldl (fun m e => if e.2.type = .target ∧ e.2.level > m then e.2.level else m) m ∧
      ∀ e ∈ l, e.2.type = .target →
        e.2.level ≤ l.foldl (fun m e => if e.2.type = .target ∧ e.2.level > m then e.2.level else m) m
  | [], m => ⟨le_refl m, by simp⟩
  | e :: l, m => by
    obtain ⟨h1, h2⟩ := le_maxLevel l
      (if e.2.type = .target ∧ e.2.level > m then e.2.level else m)
    simp only [List.foldl_cons, List.mem_cons, forall_eq_or_imp]
    refine ⟨le_trans ?_ h1, fun ht => le_trans ?_ h1, h2⟩
    · split_ifs with h
      exacts [le_of_lt h.2, le_refl m]
    · split_ifs with h
      exacts [le_refl _, not_lt.1 fun hlt => h ⟨ht, hlt⟩]

theorem maxLevel_nonneg : 0 ≤ G.maxLevel := (le_maxLevel G.nodes.entries 0).1

theorem level_le_maxLevel {n : String} {node : Node} (hl : G.nodes.lookup n = some node)
    (ht : node.type = .target) : node.level ≤ G.maxLevel :=
  (le_maxLevel G.nodes.entries 0).2 ⟨n, node⟩ (AList.mem_lookup_iff.1 hl) ht

/-- The second loop of `GroupByLevel` puts each target at its level, when every level is in
range. -/
theorem foldlM_groupStep (len : Nat) : ∀ (l pre : List (Σ _ : String, Node)),
    (∀ e ∈ l, e.2.type = .target → 0 ≤ e.2.level ∧ e.2.level < len) →
    l.foldlM groupStep ((List.range len).map (levelNames pre)) =
      some ((List.range len).map (levelNames (pre ++ l)))
  | [], pre, _ => by simp
  | e :: l, pre, h => by
    have step : groupStep ((List.range len).map (levelNames pre)) e =
        some ((List.range len).map (levelNames (pre ++ [e]))) := by
      unfold groupStep appendAt
      by_cases ht : e.2.type = .target
      · obtain ⟨h0, hlt⟩ := h e (List.mem_cons_self e l) ht
        rw [if_pos ht, if_pos (by simpa using ⟨h0, hlt⟩), Option.some_inj]
        refine List.ext_getElem (by simp) fun j h1 h2 => ?_
        simp only [List.getElem_modify, List.getElem_map, List.getElem_range,
          levelNames_append_singleton, ht, true_and]
        by_cases hj : e.2.level = j
        · simp [hj]
        · rw [if_neg (by omega), if_neg hj, List.append_nil]
      · simp [ht, levelNames_append_singleton]
    have ih := foldlM_groupStep len l (pre ++ [e]) fun e' he' => h e' (List.mem_cons_of_mem e he')
    rw [List.foldlM_cons, step]
    simpa using ih

/-- `GroupByLevel` does not panic when no target has a negative level, and then lists, for each
level from `0` to `maxLevel`, the targets of that level sorted by name. -/
theorem GroupByLevel_eq
    (h : ∀ n node, G.nodes.lookup n = some node → node.type = .target → 0 ≤ node.level) :
    G.GroupByLevel = some ((List.range (G.maxLevel + 1).toNat).map fun i =>
      (levelNames G.nodes.entries i).insertionSort (· ≤ ·)) := by
  have hinit : List.replicate (G.maxLevel + 1).toNat ([] : List String) =
      (List.range (G.maxLevel + 1).toNat).map (levelNames []) := by
    rw [show levelNames [] = fun _ => [] from rfl, List.map_const', List.length_range]
  have hbound : ∀ e ∈ G.nodes.entries, e.2.type = .target →
      0 ≤ e.2.level ∧ e.2.level < (G.maxLevel + 1).toNat := fun e he ht => by
    have h0 := h e.1 e.2 (AList.mem_lookup_iff.2 he) ht
    have hle := level_le_maxLevel (AList.mem_lookup_iff.2 he) ht
    omega
  rw [GroupByLevel, hinit, foldlM_groupStep _ _ [] hbound]
  simp [List.map_map, Function.comp_def]

/-! ### `IncludeDependencies` -/

/-- `b` is a dependency of node `a` that `addDeps` follows, one that is a target node. -/
def TargetDep (G : Graph) (a b : String) : Prop :=
  ∃ node, G.nodes.lookup a = some node ∧ b ∈ node.deps ∧ G.isTarget b = true

/-- Every included name off the recursion path `path` has its target dependencies included. -/
def DepsClosed (G : Graph) (path inc : List String) : Prop :=
  ∀ a ∈ inc, a ∉ path → ∀ b, G.TargetDep a b → b ∈ inc

/-- The nodes not yet included: they bound the depth to which `addDeps` still recurses. -/
def unincluded (G : Graph) (inc : List String) : Nat :=
  G.nodes.keys.countP fun k => k ∉ inc

theorem mem_of_isTarget {n : String} (h : G.isTarget n = true) : n ∈ G.nodes := by
  unfold isTarget at h
  cases hl : G.nodes.lookup n with
  | none => simp [hl] at h
  | some _ => exact AList.lookup_isSome.1 (by simp [hl])

theorem unincluded_mono {inc inc' : List String} (h : ∀ x ∈ inc, x ∈ inc') :
    G.unincluded inc' ≤ G.unincluded inc :=
  List.countP_mono_left fun k _ hk => by
    simp only [decide_eq_true_eq] at hk ⊢
    exact fun hi => hk (h k hi)

theorem unincluded_append_lt {inc : List String} {name : String} (hn : name ∈ G.nodes)
    (hi : name ∉ inc) : G.unincluded (inc ++ [name]) < G.unincluded inc :=
  countP_lt_countP (fun k _ hk => by simp_all) (AList.mem_keys.mp hn) (by simp) (by simpa using hi)

/-- What a call of `addDeps` from `name` on the names `inc` guarantees of the names `inc'` it
returns, when the names on its recursion path are `path`. -/
structure AddDepsPost (G : Graph) (path : List String) (name : String) (inc inc' : List String) :
    Prop where
  sub : ∀ x ∈ inc, x ∈ inc'
  mem : name ∈ inc'
  nodup : inc'.Nodup
  sound : ∀ x ∈ inc', x ∈ inc ∨ ReflTransGen G.TargetDep name x
  closed : G.DepsClosed path inc'

/-- The loop of `addDeps` over a node's dependencies, given what each recursive call does. -/
theorem foldl_addDeps {fuel : Nat} {path : List String}
    (ih : ∀ name inc, G.unincluded inc < fuel → inc.Nodup → G.DepsClosed path inc →
      AddDepsPost G path name inc (G.addDeps fuel name inc)) :
    ∀ (ds inc inc' : List String),
      ds.foldl (fun inc dep => if G.isTarget dep then G.addDeps fuel dep inc else inc) inc = inc' →
      G.unincluded inc < fuel → inc.Nodup → G.DepsClosed path inc →
      (∀ x ∈ inc, x ∈ inc') ∧ (∀ d ∈ ds, G.isTarget d = true → d ∈ inc') ∧ inc'.Nodup ∧
        (∀ x ∈ inc', x ∈ inc ∨ ∃ d ∈ ds, G.isTarget d = true ∧ ReflTransGen G.TargetDep d x) ∧
        G.DepsClosed path inc'
  | [], inc, _, rfl, _, hnd, hcl => ⟨fun _ h => h, by simp, hnd, fun _ h => .inl h, hcl⟩
  | d :: ds, inc, inc', hf, hlt, hnd, hcl => by
    rw [List.foldl_cons] at hf
    by_cases hd : G.isTarget d = true
    · rw [if_pos hd] at hf
      have p := ih d inc hlt hnd hcl
      obtain ⟨h1, h2, h3, h4, h5⟩ := foldl_addDeps ih ds _ inc' hf
        ((unincluded_mono p.sub).trans_lt hlt) p.nodup p.closed
      refine ⟨fun x hx => h1 x (p.sub x hx), ?_, h3, fun x hx => ?_, h5⟩
      · simp only [List.mem_cons, forall_eq_or_imp]
        exact ⟨fun _ => h1 d p.mem, h2⟩
      · rcases h4 x hx with hx | ⟨d', hd', ht', hr⟩
        · exact (p.sound x hx).imp_right fun hr => ⟨d, List.mem_cons_self d ds, hd, hr⟩
        · exact .inr ⟨d', List.mem_cons_of_mem d hd', ht', hr⟩
    · rw [if_neg hd] at hf
      obtain ⟨h1, h2, h3, h4, h5⟩ := foldl_addDeps ih ds inc inc' hf hlt hnd hcl
      refine ⟨h1, ?_, h3, fun x hx => (h4 x hx).imp_right ?_, h5⟩
      · simp only [List.mem_cons, forall_eq_or_imp]
        exact ⟨fun h => absurd h hd, h2⟩
      · rintro ⟨d', hd', ht', hr⟩
        exact ⟨d', List.mem_cons_of_mem d hd', ht', hr⟩

/-- `addDeps` includes `name` and what it reaches, keeps the names distinct and leaves every
name off the recursion path closed, as long as its fuel exceeds the nodes not yet included. -/
theorem addDeps_spec : ∀ {fuel : Nat} {name : String} {inc path : List String},
    G.unincluded inc < fuel → inc.Nodup → G.DepsClosed path inc →
    AddDepsPost G path name inc (G.addDeps fuel name inc)
  | 0, _, _, _, hlt, _, _ => absurd hlt (Nat.not_lt_zero _)
  | fuel + 1, name, inc, path, hlt, hnd, hcl => by
    unfold addDeps
    split_ifs with hin
    · exact ⟨fun _ h => h, hin, hnd, fun _ h => .inl h, hcl⟩
    have hnd0 : (inc ++ [name]).Nodup := by simpa using hnd.concat hin
    have hmem0 : name ∈ inc ++ [name] := List.mem_append_right _ (List.mem_singleton_self name)
    have hsound0 : ∀ x ∈ inc ++ [name], x ∈ inc ∨ ReflTransGen G.TargetDep name x := by
      simp only [List.mem_append, List.mem_singleton]
      rintro x (hx | rfl)
      exacts [.inl hx, .inr .refl]
    split
    · rename_i hl
      refine ⟨fun _ h => List.mem_append_left _ h, hmem0, hnd0, hsound0, fun a ha hap b hb => ?_⟩
      rcases List.mem_append.1 ha with ha | ha
      · exact List.mem_append_left _ (hcl a ha hap b hb)
      · obtain ⟨node, hla, -⟩ := hb
        rw [List.mem_singleton.1 ha, hl] at hla
        cases hla
    · rename_i node hl
      have hn : name ∈ G.nodes := AList.lookup_isSome.1 (by simp [hl])
      have hcl0 : G.DepsClosed (name :: path) (inc ++ [name]) := fun a ha hap b hb => by
        rcases List.mem_append.1 ha with ha | ha
        · exact List.mem_append_left _ (hcl a ha (fun h => hap (List.mem_cons_of_mem _ h)) b hb)
        · exact absurd (List.mem_singleton.1 ha ▸ List.mem_cons_self name path) hap
      have hlt0 : G.unincluded (inc ++ [name]) < fuel :=
        (unincluded_append_lt hn hin).trans_le (by omega)
      obtain ⟨h1, h2, h3, h4, h5⟩ := foldl_addDeps (fun _ _ hl hnd hcl => addDeps_spec hl hnd hcl)
        node.deps _ _ rfl hlt0 hnd0 hcl0
      refine ⟨fun x hx => h1 x (List.mem_append_left _ hx), h1 name hmem0, h3, fun x hx => ?_, ?_⟩
      · rcases h4 x hx with hx | ⟨d, hd, ht, hr⟩
        · exact hsound0 x hx
        · exact .inr (ReflTransGen.head ⟨node, hl, hd, ht⟩ hr)
      · intro a ha hap b hb
        by_cases hab : a = name
        · subst hab
          obtain ⟨node', hl', hd, ht⟩ := hb
          rw [hl, Option.some_inj] at hl'
          exact h2 b (hl' ▸ hd) ht
        · exact h5 a ha (by simp [hab, hap]) b hb

/-- The loop of `IncludeDependencies` over the requested names. -/
theorem foldl_includedNames : ∀ (R inc : List String), inc.Nodup → G.DepsClosed [] inc →
    let inc' := R.foldl (fun inc t => G.addDeps (G.nodes.keys.length + 1) t inc) inc
    (∀ x ∈ inc, x ∈ inc') ∧ inc'.Nodup ∧ G.DepsClosed [] inc' ∧ (∀ r ∈ R, r ∈ inc') ∧
      ∀ x ∈ inc', x ∈ inc ∨ ∃ r ∈ R, ReflTransGen G.TargetDep r x
  | [], inc, hnd, hcl => ⟨fun _ h => h, hnd, hcl, by simp, fun _ h => .inl h⟩
  | r :: R, inc, hnd, hcl => by
    have p : AddDepsPost G [] r inc (G.addDeps (G.nodes.keys.length + 1) r inc) :=
      addDeps_spec (Nat.lt_succ_of_le (List.countP_le_length _)) hnd hcl
    obtain ⟨h0, h1, h2, h3, h4⟩ := foldl_includedNames R _ p.nodup p.closed
    simp only [List.foldl_cons, List.mem_cons, forall_eq_or_imp, exists_eq_or_imp]
    refine ⟨fun x hx => h0 x (p.sub x hx), h1, h2, ⟨h0 r p.mem, h3⟩, fun x hx => ?_⟩
    rcases h4 x hx with hx | hx
    · exact (p.sound x hx).imp_right .inl
    · exact .inr (.inr hx)

theorem mem_includedNames {R : List String} {x : String} :
    x ∈ G.includedNames R ↔ ∃ r ∈ R, ReflTransGen G.TargetDep r x := by
  obtain ⟨-, -, hcl, hR, hsound⟩ := foldl_includedNames (G := G) R [] List.nodup_nil
    fun _ h => absurd h (List.not_mem_nil _)
  refine ⟨fun hx => by simpa using hsound x hx, ?_⟩
  rintro ⟨r, hr, hrx⟩
  induction hrx with
  | refl => exact hR r hr
  | tail _ hbc ih => exact hcl _ ih (List.not_mem_nil _) _ hbc

theorem nodup_includedNames (R : List String) : (G.includedNames R).Nodup :=
  (foldl_includedNames (G := G) R [] List.nodup_nil fun _ h => absurd h (List.not_mem_nil _)).2.1

/-- On requested names that are all nodes, `IncludeDependencies` does not panic: it sorts the
included names. -/
theorem IncludeDependencies_eq {R : List String} (hR : ∀ r ∈ R, r ∈ G.nodes) :
    G.IncludeDependencies R = some ((G.includedNames R).insertionSort G.levelLE) := by
  rw [IncludeDependencies, if_neg]
  rintro ⟨-, n, hn, hnot⟩
  obtain ⟨r, hr, hrn⟩ := mem_includedNames.1 hn
  rcases hrn.cases_tail with rfl | ⟨b, -, _, -, -, ht⟩
  exacts [hnot (hR _ hr), hnot (mem_of_isTarget ht)]

/-- On requested names that are all nodes, `IncludeDependencies` returns, each once and in
strictly increasing (level, name) order, the names reachable from a requested name through
target-typed dependencies. -/
theorem IncludeDependencies_spec {R : List String} (hR : ∀ r ∈ R, r ∈ G.nodes) :
    ∃ l, G.IncludeDependencies R = some l ∧ l.Sorted G.levelLT ∧
      ∀ x, x ∈ l ↔ ∃ r ∈ R, ReflTransGen G.TargetDep r x := by
  have hperm := List.perm_insertionSort G.levelLE (G.includedNames R)
  refine ⟨_, IncludeDependencies_eq hR, sorted_levelLT (List.sorted_insertionSort _ _)
    (hperm.nodup_iff.2 (nodup_includedNames R)), fun x => ?_⟩
  rw [hperm.mem_iff, mem_includedNames]

/-- `IncludeDependencies` is idempotent on requested names that are all nodes. -/
theorem IncludeDependencies_idem {R l : List String} (hR : ∀ r ∈ R, r ∈ G.nodes)
    (hl : G.IncludeDependencies R = some l) : G.IncludeDependencies l = some l := by
  obtain ⟨l', hl', hs, hmem⟩ := IncludeDependencies_spec hR
  rw [hl, Option.some_inj] at hl'
  subst hl'
  have hnodes : ∀ x ∈ l, x ∈ G.nodes := fun x hx => by
    obtain ⟨r, hr, hrx⟩ := (hmem x).1 hx
    rcases hrx.cases_tail with rfl | ⟨b, -, _, -, -, ht⟩
    exacts [hR _ hr, mem_of_isTarget ht]
  obtain ⟨l', hl', hs', hmem'⟩ := IncludeDependencies_spec hnodes
  rw [hl']
  congr 1
  refine List.eq_of_perm_of_sorted (r := G.levelLE)
    ((List.perm_ext_iff_of_nodup hs'.nodup hs.nodup).2 fun x => ?_) (hs'.imp le_of_lt) (hs.imp le_of_lt)
  rw [hmem']
  refine ⟨fun ⟨y, hy, hyx⟩ => ?_, fun hx => ⟨x, hx, .refl⟩⟩
  obtain ⟨r, hr, hry⟩ := (hmem y).1 hy
  exact (hmem x).2 ⟨r, hr, hry.trans hyx⟩

/-- The request of `Demo` closes over `Stg` and `Prod`, and closing that again changes nothing. -/
theorem IncludeDependencies_idem_demo :
    ∃ G, BuildGraph chainConfig ["Demo", "analytics", "Stg", "Prod", "analytics-engineers"] =
        .ok G ∧ (∀ r ∈ ["Demo"], r ∈ G.nodes) ∧
      G.IncludeDependencies ["Demo"] = some ["Stg", "Prod", "Demo"] ∧
      G.IncludeDependencies ["Stg", "Prod", "Demo"] = some ["Stg", "Prod", "Demo"] :=
  ⟨_, rfl, by decide, by decide, @IncludeDependencies_idem _ ["Demo"] _ (by decide) (by decide)⟩

/-- On the graph of `chainConfig`, a requested source is returned, and an unknown name requested
with another name makes the comparator panic. -/
theorem IncludeDependencies_source_and_unknown :
    ∃ G, BuildGraph chainConfig ["Demo", "analytics", "Stg", "Prod", "analytics-engineers"] =
        .ok G ∧
      G.IncludeDependencies ["analytics"] = some ["analytics"] ∧
      G.IncludeDependencies ["Demo", "Beta"] = none :=
  ⟨_, rfl, by decide, by decide⟩

/-! ### `TopologicalOrder` -/

/-- `TopologicalOrder` lists the target nodes, each once, in strictly increasing (level, name)
order. -/
theorem TopologicalOrder_spec :
    G.TopologicalOrder.Sorted G.levelLT ∧
      ∀ n, n ∈ G.TopologicalOrder ↔ ∃ node, G.nodes.lookup n = some node ∧ node.type = .target := by
  have hperm := List.perm_insertionSort G.levelLE G.targetNames
  refine ⟨sorted_levelLT (List.sorted_insertionSort _ _) (hperm.nodup_iff.2 nodup_targetNames),
    fun n => ?_⟩
  rw [TopologicalOrder, hperm.mem_iff, mem_targetNames]

/-- In a list sorted by an asymmetric relation, related members come in that order. -/
theorem indexOf_lt_of_sorted {α : Type*} [DecidableEq α] {r : α → α → Prop} [IsAsymm α r]
    {l : List α} (hs : l.Sorted r) {a b : α} (ha : a ∈ l) (hb : b ∈ l) (hab : r a b) :
    l.indexOf a < l.indexOf b := by
  have hia := List.indexOf_lt_length.2 ha
  have hib := List.indexOf_lt_length.2 hb
  rcases lt_trichotomy (l.indexOf a) (l.indexOf b) with h | h | h
  · exact h
  · have hab' : a = b := by
      rw [← List.indexOf_get hia, ← List.indexOf_get hib]
      exact congrArg l.get (Fin.ext h)
    subst hab'
    exact (asymm hab hab).elim
  · have hba := hs.rel_get_of_lt (a := ⟨_, hib⟩) (b := ⟨_, hia⟩) h
    rw [List.indexOf_get, List.indexOf_get] at hba
    exact absurd hba (asymm hab)

/-! ### `GroupByLevel` against `TopologicalOrder` -/

/-- `maxLevel` is its start value `0` or the level of some target. -/
theorem maxLevel_attained : ∀ (l : List (Σ _ : String, Node)) (m : Int),
    l.foldl (fun m e => if e.2.type = .target ∧ e.2.level > m then e.2.level else m) m = m ∨
      ∃ e ∈ l, e.2.type = .target ∧
        l.foldl (fun m e => if e.2.type = .target ∧ e.2.level > m then e.2.level else m) m =
          e.2.level
  | [], _ => .inl rfl
  | e :: l, m => by
    rw [List.foldl_cons]
    rcases maxLevel_attained l (if e.2.type = .target ∧ e.2.level > m then e.2.level else m) with
      h | ⟨e', he', ht', h⟩
    · rw [h]
      split_ifs with hc
      · exact .inr ⟨e, List.mem_cons_self e l, hc.1, rfl⟩
      · exact .inl rfl
    · exact .inr ⟨e', List.mem_cons_of_mem e he', ht', h⟩

/-- `maxLevel` is the largest target level, and `0` when there is no target. -/
theorem maxLevel_spec :
    (∀ n node, G.nodes.lookup n = some node → node.type = .target → node.level ≤ G.maxLevel) ∧
      (G.maxLevel = 0 ∨ ∃ n node, G.nodes.lookup n = some node ∧ node.type = .target ∧
        node.level = G.maxLevel) :=
  ⟨fun _ _ hl ht => level_le_maxLevel hl ht, (maxLevel_attained G.nodes.entries 0).imp id
    fun ⟨e, he, ht, h⟩ => ⟨e.1, e.2, AList.mem_lookup_iff.2 he, ht, h.symm⟩⟩

/-- Each group `GroupByLevel` lists is strictly increasing by name. -/
theorem sorted_levelGroup (i : Nat) :
    ((levelNames G.nodes.entries i).insertionSort (· ≤ ·)).Sorted (· < ·) :=
  ((List.sorted_insertionSort _ _).and
    ((List.perm_insertionSort _ _).nodup_iff.2 (nodup_levelNames i))).imp
    fun ⟨hle, hne⟩ => lt_of_le_of_ne hle hne

theorem levelOf_of_mem_levelGroup {i : Nat} {n : String}
    (hn : n ∈ (levelNames G.nodes.entries i).insertionSort (· ≤ ·)) : G.levelOf n = i := by
  obtain ⟨node, hl, -, hi⟩ := mem_levelNames.1 ((List.perm_insertionSort _ _).mem_iff.1 hn)
  simp [levelOf, hl, hi]

/-- **Groups and order agree.** When no target level is negative, the groups of
`GroupByLevel`, joined, are `TopologicalOrder`. -/
theorem flatten_levelGroups
    (h : ∀ n node, G.nodes.lookup n = some node → node.type = .target → 0 ≤ node.level) :
    ((List.range (G.maxLevel + 1).toNat).map fun i =>
      (levelNames G.nodes.entries i).insertionSort (· ≤ ·)).flatten = G.TopologicalOrder := by
  set groups := (List.range (G.maxLevel + 1).toNat).map fun i =>
    (levelNames G.nodes.entries i).insertionSort (· ≤ ·)
  have hsorted : groups.flatten.Sorted G.levelLT := by
    refine List.pairwise_flatten.2 ⟨?_, ?_⟩
    · simp only [groups, List.mem_map]
      rintro _ ⟨i, -, rfl⟩
      exact (sorted_levelGroup i).imp_of_mem fun ha hb hab => (Prod.Lex.lt_iff _ _).2
        (.inr ⟨by rw [levelOf_of_mem_levelGroup ha, levelOf_of_mem_levelGroup hb], hab⟩)
    · exact List.pairwise_map.2 <| (List.pairwise_lt_range _).imp fun hij x hx y hy =>
        (Prod.Lex.lt_iff _ _).2 (.inl (by
          rw [levelOf_of_mem_levelGroup hx, levelOf_of_mem_levelGroup hy]; exact Int.ofNat_lt.2 hij))
  have hmem : ∀ n, n ∈ groups.flatten ↔ n ∈ G.TopologicalOrder := fun n => by
    simp only [groups, TopologicalOrder_spec.2, List.mem_flatten, List.mem_map, List.mem_range]
    constructor
    · rintro ⟨_, ⟨i, -, rfl⟩, hn⟩
      obtain ⟨node, hl, ht, -⟩ := mem_levelNames.1 ((List.perm_insertionSort _ _).mem_iff.1 hn)
      exact ⟨node, hl, ht⟩
    · rintro ⟨node, hl, ht⟩
      have h0 := h n node hl ht
      have hle := level_le_maxLevel hl ht
      refine ⟨_, ⟨node.level.toNat, by omega, rfl⟩, ?_⟩
      rw [(List.perm_insertionSort _ _).mem_iff, mem_levelNames]
      exact ⟨node, hl, ht, by omega⟩
  have hperm := (List.perm_ext_iff_of_nodup hsorted.nodup TopologicalOrder_spec.1.nodup).2 hmem
  exact List.eq_of_perm_of_sorted (r := G.levelLE) hperm (hsorted.imp fun h => le_of_lt h)
    (List.sorted_insertionSort _ _)

end Graph

/-! ### On the graph of a configuration -/

namespace Config.LevelledGraph

open Graph

variable {cfg : Config} {G : Graph}

theorem mem_targets_of_type (hG : cfg.LevelledGraph G) {n : String} {node : Node}
    (hl : G.nodes.lookup n = some node) (ht : node.type = .target) : n ∈ cfg.targets := by
  by_contra hn
  have hs := ((hG.mem n).1 (AList.lookup_isSome.1 (by simp [hl]))).resolve_right hn
  rw [hG.source n hs hn, Option.some_inj] at hl
  subst hl
  cases ht

theorem exists_lookup_target (hG : cfg.LevelledGraph G) {n : String} (hn : n ∈ cfg.targets) :
    ∃ t, cfg.targets.lookup n = some t ∧
      G.nodes.lookup n = some ⟨.target, 1 + depsMax G.levelOf t.imports, t.imports⟩ := by
  obtain ⟨t, ht⟩ := Option.isSome_iff_exists.1 (AList.lookup_isSome.2 hn)
  exact ⟨t, ht, hG.target n t ht⟩

theorem isTarget_iff (hG : cfg.LevelledGraph G) {n : String} :
    G.isTarget n = true ↔ n ∈ cfg.targets := by
  constructor
  · intro h
    unfold isTarget at h
    cases hl : G.nodes.lookup n with
    | none => simp [hl] at h
    | some node => exact hG.mem_targets_of_type hl (by simpa [hl] using h)
  · intro hn
    obtain ⟨t, -, hl⟩ := hG.exists_lookup_target hn
    simp [isTarget, hl]

/-- On the graph of a configuration, the dependencies `addDeps` follows are the imports of
targets that are targets. -/
theorem targetDep_eq (hG : cfg.LevelledGraph G) : G.TargetDep = cfg.ImportsTarget := by
  ext a b
  constructor
  · rintro ⟨node, hl, hb, ht⟩
    by_cases ha : a ∈ cfg.targets
    · obtain ⟨t, hta, hla⟩ := hG.exists_lookup_target ha
      rw [hla, Option.some_inj] at hl
      subst hl
      exact ⟨t, hta, hb, hG.isTarget_iff.1 ht⟩
    · have has := ((hG.mem a).1 (AList.lookup_isSome.1 (by simp [hl]))).resolve_right ha
      rw [hG.source a has ha, Option.some_inj] at hl
      subst hl
      cases hb
  · rintro ⟨t, hta, hb, hbt⟩
    exact ⟨_, hG.target a t hta, hb, hG.isTarget_iff.2 hbt⟩

theorem level_nonneg (hG : cfg.LevelledGraph G) {n : String} {node : Node}
    (hl : G.nodes.lookup n = some node) : 0 ≤ node.level := by
  by_cases hn : n ∈ cfg.targets
  · obtain ⟨t, -, hlt⟩ := hG.exists_lookup_target hn
    rw [hlt, Option.some_inj] at hl
    have := (le_foldl_max G.levelOf t.imports (-1)).1
    rw [← hl]
    simp only [depsMax] at this ⊢
    omega
  · have hs := ((hG.mem n).1 (AList.lookup_isSome.1 (by simp [hl]))).resolve_right hn
    rw [hG.source n hs hn, Option.some_inj] at hl
    rw [← hl]

theorem levelOf_lt (hG : cfg.LevelledGraph G) {a b : String} (h : cfg.ImportsTarget a b) :
    G.levelOf b < G.levelOf a := by
  obtain ⟨t, hta, hb, -⟩ := h
  have hb := le_depsMax (f := G.levelOf) hb
  have ha : G.levelOf a = 1 + depsMax G.levelOf t.imports := by simp [levelOf, hG.target a t hta]
  omega

theorem mem_levelNames_iff (hG : cfg.LevelledGraph G) {n : String} {i : Nat} :
    n ∈ levelNames G.nodes.entries i ↔ n ∈ cfg.targets ∧ G.levelOf n = i := by
  rw [mem_levelNames]
  constructor
  · rintro ⟨node, hl, ht, hi⟩
    exact ⟨hG.mem_targets_of_type hl ht, by simp [levelOf, hl, hi]⟩
  · rintro ⟨hn, hi⟩
    obtain ⟨t, -, hl⟩ := hG.exists_lookup_target hn
    exact ⟨_, hl, rfl, by simpa [levelOf, hl] using hi⟩

theorem level_mem_range (hG : cfg.LevelledGraph G) {n : String} (hn : n ∈ cfg.targets) :
    0 ≤ G.levelOf n ∧ G.levelOf n ≤ G.maxLevel := by
  obtain ⟨t, -, hl⟩ := hG.exists_lookup_target hn
  have h0 := hG.level_nonneg hl
  have hle := level_le_maxLevel hl rfl
  simp only [levelOf, hl, Option.map_some', Option.getD_some]
  exact ⟨h0, hle⟩

/-- The list `GroupByLevel` returns for level `i` holds the targets of level `i`. -/
theorem mem_levelGroup_iff (hG : cfg.LevelledGraph G) {n : String} {i : Nat} :
    n ∈ (levelNames G.nodes.entries i).insertionSort (· ≤ ·) ↔
      n ∈ cfg.targets ∧ G.levelOf n = i := by
  rw [(List.perm_insertionSort _ _).mem_iff, hG.mem_levelNames_iff]

/-- The target nodes of the graph are the targets of the configuration. -/
theorem exists_target_iff (hG : cfg.LevelledGraph G) {n : String} :
    (∃ node, G.nodes.lookup n = some node ∧ node.type = .target) ↔ n ∈ cfg.targets := by
  constructor
  · rintro ⟨node, hl, ht⟩
    exact hG.mem_targets_of_type hl ht
  · intro hn
    obtain ⟨t, -, hl⟩ := hG.exists_lookup_target hn
    exact ⟨_, hl, rfl⟩

theorem mem_TopologicalOrder (hG : cfg.LevelledGraph G) {n : String} :
    n ∈ G.TopologicalOrder ↔ n ∈ cfg.targets := by
  rw [TopologicalOrder_spec.2, hG.exists_target_iff]

end Config.LevelledGraph

/-! ### The two schedules of a built graph -/

/-- **Topological order and level groups.** On a graph `BuildGraph` returns, `TopologicalOrder`
lists each target once and no source, in strictly increasing (level, name) order, so a target
comes after every target it depends on. `GroupByLevel` does not panic and has one group per level
from `0` to the largest target level (one group when there is no target); its `i`-th group is
the targets of level `i` sorted by name, and its groups joined are `TopologicalOrder`. -/
theorem TopologicalOrder_GroupByLevel (cfg : Config) (order : List String)
    (horder : ∀ n, n ∈ order ↔ n ∈ cfg.sources ∨ n ∈ cfg.targets) {G : Graph}
    (hG : BuildGraph cfg order = .ok G) :
    G.TopologicalOrder.Nodup ∧
      (∀ n, n ∈ G.TopologicalOrder ↔
        ∃ node, G.nodes.lookup n = some node ∧ node.type = .target) ∧
      G.TopologicalOrder.Sorted G.levelLT ∧
      (∀ t node d, G.nodes.lookup t = some node → node.type = .target → d ∈ node.deps →
        G.isTarget d = true → G.TopologicalOrder.indexOf d < G.TopologicalOrder.indexOf t) ∧
      ∃ groups, G.GroupByLevel = some groups ∧ groups.length = G.maxLevel.toNat + 1 ∧
        (∀ n node, G.nodes.lookup n = some node → node.type = .target →
          node.level ≤ G.maxLevel) ∧
        (G.maxLevel = 0 ∨ ∃ n node, G.nodes.lookup n = some node ∧ node.type = .target ∧
          node.level = G.maxLevel) ∧
        (∀ i (hi : i < groups.length), groups[i].Sorted (· < ·) ∧
          ∀ n, n ∈ groups[i] ↔
            ∃ node, G.nodes.lookup n = some node ∧ node.type = .target ∧ node.level = i) ∧
        groups.flatten = G.TopologicalOrder := by
  have hL := levelledGraph_of_BuildGraph horder hG
  have h0 : ∀ n node, G.nodes.lookup n = some node → node.type = .target → 0 ≤ node.level :=
    fun _ _ hl _ => hL.level_nonneg hl
  obtain ⟨hsorted, hmem⟩ := Graph.TopologicalOrder_spec (G := G)
  refine ⟨hsorted.nodup, hmem, hsorted, fun t node d hl ht hd hdt => ?edge, _,
    Graph.GroupByLevel_eq h0, ?length, Graph.maxLevel_spec.1, Graph.maxLevel_spec.2,
    fun i hi => ?group, Graph.flatten_levelGroups h0⟩
  case edge =>
    have hdep : cfg.ImportsTarget t d := hL.targetDep_eq ▸ ⟨node, hl, hd, hdt⟩
    exact Graph.indexOf_lt_of_sorted hsorted
      (hL.mem_TopologicalOrder.2 (hL.isTarget_iff.1 hdt)) ((hmem t).2 ⟨node, hl, ht⟩)
      ((Prod.Lex.lt_iff _ _).2 (.inl (hL.levelOf_lt hdep)))
  case length =>
    have := Graph.maxLevel_nonneg (G := G)
    simp only [List.length_map, List.length_range]
    omega
  case group =>
    simp only [List.getElem_map, List.getElem_range]
    refine ⟨Graph.sorted_levelGroup i, fun n => ?_⟩
    rw [(List.perm_insertionSort _ _).mem_iff, Graph.mem_levelNames]

/-- The chain configuration builds, and its schedules are those of the theorem. -/
theorem TopologicalOrder_GroupByLevel_chain :
    ∃ G, ((∀ n, n ∈ ["Demo", "analytics", "Stg", "Prod", "analytics-engineers"] ↔
        n ∈ chainConfig.sources ∨ n ∈ chainConfig.targets) ∧
      BuildGraph chainConfig ["Demo", "analytics", "Stg", "Prod", "analytics-engineers"] =
        .ok G) ∧
    G.TopologicalOrder.Nodup ∧
      (∀ n, n ∈ G.TopologicalOrder ↔
        ∃ node, G.nodes.lookup n = some node ∧ node.type = .target) ∧
      G.TopologicalOrder.Sorted G.levelLT ∧
      (∀ t node d, G.nodes.lookup t = some node → node.type = .target → d ∈ node.deps →
        G.isTarget d = true → G.TopologicalOrder.indexOf d < G.TopologicalOrder.indexOf t) ∧
      ∃ groups, G.GroupByLevel = some groups ∧ groups.length = G.maxLevel.toNat + 1 ∧
        (∀ n node, G.nodes.lookup n = some node → node.type = .target →
          node.level ≤ G.maxLevel) ∧
        (G.maxLevel = 0 ∨ ∃ n node, G.nodes.lookup n = some node ∧ node.type = .target ∧
          node.level = G.maxLevel) ∧
        (∀ i (hi : i < groups.length), groups[i].Sorted (· < ·) ∧
          ∀ n, n ∈ groups[i] ↔
            ∃ node, G.nodes.lookup n = some node ∧ node.type = .target ∧ node.level = i) ∧
        groups.flatten = G.TopologicalOrder :=
  ⟨_, ⟨chainConfig_order, rfl⟩,
    TopologicalOrder_GroupByLevel chainConfig _ chainConfig_order rfl⟩

end VaultSecretSync
