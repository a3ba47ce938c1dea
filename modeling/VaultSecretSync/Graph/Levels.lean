import VaultSecretSync.Graph.Build

/-!
# The level computation is correct

The memoised search of `calculateLevels` is proved correct through three facts about one call
of `calcLevel`:

* **Shape** (`calcLevel_ok`): a call that returns leaves the stack as it found it, keeps every
  visited node with its level, visits its node, and returns that node's level.
* **Soundness** (the `Good` part of `calcLevel_ok`): every visited node is `Settled`, a source at
  level `0` and a target one above the largest level of its dependencies.
* **No false alarm** (`calcLevel_error`): while every node on the stack reaches the current one
  by dependency edges, an error is a cycle through those edges.
* **Termination** (`calcLevel_ne_outOfFuel`): a call pushes a node that was neither stacked nor
  visited before it recurses, so `pending` falls along every chain of nested calls and the fuel
  never runs out, on every node table.

`BuildGraph_spec` assembles them with the edge pass: `BuildGraph` fails exactly on an
unknown import or an import cycle, whatever the iteration order, and otherwise every target's
level is one above the largest level of its imports. `calculateLevels_terminates` says that the
level computation returns on every table, and so that `BuildGraph` returns a graph, the
circular-dependency error or the unknown-import error of its edge pass.
-/

namespace VaultSecretSync

open Relation

/-- A dependency edge of the node table: `a` is a target node and `b` one of its `Deps`. -/
def Edge (g : GoMap Node) (a b : String) : Prop :=
  ∃ node, g.lookup a = some node ∧ node.type = .target ∧ b ∈ node.deps

/-! ### The running maximum -/

theorem depsMax_congr {f f' : String → Int} {deps : List String}
    (h : ∀ d ∈ deps, f d = f' d) : depsMax f deps = depsMax f' deps :=
  List.foldl_ext _ _ _ fun _ d hd => by rw [h d hd]

theorem le_foldl_max (f : String → Int) : ∀ (deps : List String) (m : Int),
    m ≤ deps.foldl (fun m d => max m (f d)) m ∧
      ∀ d ∈ deps, f d ≤ deps.foldl (fun m d => max m (f d)) m
  | [], m => ⟨le_refl m, by simp⟩
  | a :: as, m => by
    obtain ⟨h1, h2⟩ := le_foldl_max f as (max m (f a))
    simp only [List.foldl_cons, List.mem_cons, forall_eq_or_imp]
    exact ⟨(le_max_left _ _).trans h1, (le_max_right _ _).trans h1, h2⟩

theorem le_depsMax {f : String → Int} {deps : List String} {d : String} (hd : d ∈ deps) :
    f d ≤ depsMax f deps :=
  (le_foldl_max f deps (-1)).2 d hd

theorem ite_gt_eq_max (l m : Int) : (if l > m then l else m) = max m l := by
  rw [max_def]; split_ifs <;> omega

theorem countP_lt_countP {l : List α} {p q : α → Bool} (hpq : ∀ x ∈ l, p x → q x) {a : α}
    (ha : a ∈ l) (hp : p a = false) (hq : q a = true) : l.countP p < l.countP q := by
  induction l with
  | nil => cases ha
  | cons b l ih =>
    have hmono := List.countP_mono_left fun x hx => hpq x (List.mem_cons_of_mem b hx)
    have hb := hpq b (List.mem_cons_self b l)
    rw [List.countP_cons, List.countP_cons]
    rcases List.mem_cons.mp ha with rfl | ha
    · simp [hp, hq]; omega
    · have := ih (fun x hx => hpq x (List.mem_cons_of_mem b hx)) ha
      split <;> split <;> simp_all; omega

namespace LevelState

variable {g : GoMap Node} {st st' st'' : LevelState} {name v : String} {l : Int}

@[simp] theorem push_level : (st.push name).level = st.level := rfl
@[simp] theorem push_visited : (st.push name).visited = st.visited := rfl
@[simp] theorem push_inStack :
    (st.push name).inStack = Function.update st.inStack name true := rfl
@[simp] theorem finish_level : (st.finish name l).level = Function.update st.level name l := rfl
@[simp] theorem finish_visited :
    (st.finish name l).visited = Function.update st.visited name true := rfl
@[simp] theorem finish_inStack :
    (st.finish name l).inStack = Function.update st.inStack name false := rfl

/-! ### The invariants -/

/-- Node `v` holds its level: a source `0`, a target one above the largest level of its
dependencies, all of them visited. -/
def Settled (g : GoMap Node) (st : LevelState) (v : String) : Prop :=
  ∃ node, g.lookup v = some node ∧ (node.type = .source → st.level v = 0) ∧
    (node.type = .target →
      (∀ d ∈ node.deps, st.visited d) ∧ st.level v = 1 + depsMax st.level node.deps)

/-- Every visited node holds its level. -/
def Good (g : GoMap Node) (st : LevelState) : Prop :=
  ∀ v, st.visited v → Settled g st v

/-- `st'` keeps every node `st` visited, with its level. -/
def Keeps (st st' : LevelState) : Prop :=
  ∀ v, st.visited v → st'.visited v ∧ st'.level v = st.level v

/-- What a returning call does to the state: the stack is as before, visited nodes keep their
levels, and a node visited since was off the stack. -/
structure Extends (st st' : LevelState) : Prop where
  inStack : st'.inStack = st.inStack
  keeps : Keeps st st'
  fresh : ∀ v, st'.visited v → st.visited v ∨ st.inStack v = false

/-- The nodes neither on the stack nor visited: the bound on the depth of nested calls. -/
def pending (g : GoMap Node) (st : LevelState) : Nat :=
  g.keys.countP fun k => !st.inStack k && !st.visited k

theorem Extends.refl (st : LevelState) : Extends st st :=
  ⟨rfl, fun _ h => ⟨h, rfl⟩, fun _ h => .inl h⟩

theorem Extends.trans (h1 : Extends st st') (h2 : Extends st' st'') : Extends st st'' where
  inStack := h2.inStack.trans h1.inStack
  keeps v hv :=
    have h := h1.keeps v hv
    ⟨(h2.keeps v h.1).1, (h2.keeps v h.1).2.trans h.2⟩
  fresh v hv := (h2.fresh v hv).elim (h1.fresh v) fun h => .inr (h1.inStack ▸ h)

theorem Settled.of_keeps (h : Settled g st v) (hv : st.visited v) (hk : Keeps st st') :
    Settled g st' v := by
  obtain ⟨node, hn, hs, ht⟩ := h
  refine ⟨node, hn, fun hty => (hk v hv).2 ▸ hs hty, fun hty => ?_⟩
  obtain ⟨hdeps, hlv⟩ := ht hty
  refine ⟨fun d hd => (hk d (hdeps d hd)).1, ?_⟩
  rw [(hk v hv).2, hlv, depsMax_congr fun d hd => (hk d (hdeps d hd)).2]

theorem keeps_finish (h : st.visited name = false) : Keeps st (st.finish name l) := fun v hv => by
  have hne : v ≠ name := fun he => by simp_all
  simp [Function.update_noteq hne, hv]

theorem extends_finish (hs : st.inStack name = false) (hv : st.visited name = false)
    (h : Extends (st.push name) st') : Extends st (st'.finish name l) where
  inStack := by
    funext u
    by_cases hu : u = name
    · subst hu; simp [hs]
    · simp [h.inStack, Function.update_noteq hu]
  keeps := fun u hu =>
    have hk := h.keeps u hu
    have hne : u ≠ name := fun he => by simp_all
    ⟨by simp [Function.update_noteq hne, hk.1], by simp [Function.update_noteq hne, hk.2]⟩
  fresh u hu := by
    by_cases hne : u = name
    · exact .inr (hne ▸ hs)
    · have := h.fresh u (by simpa [Function.update_noteq hne] using hu)
      simpa [Function.update_noteq hne] using this

/-- A name on the stack is never visited by a returning call. -/
theorem not_visited_of_extends (h : Extends (st.push name) st') (hv : st.visited name = false) :
    st'.visited name = false := by
  cases hs : st'.visited name
  · rfl
  · simpa [hv] using h.fresh name hs

theorem pending_le : pending g st ≤ g.keys.length := List.countP_le_length _

theorem pending_mono (h : Extends st st') : pending g st' ≤ pending g st :=
  List.countP_mono_left fun k _ hk => by
    simp only [Bool.and_eq_true, Bool.not_eq_true'] at hk ⊢
    refine ⟨h.inStack ▸ hk.1, ?_⟩
    cases hv : st.visited k
    · rfl
    · simp [(h.keeps k hv).1] at hk

theorem pending_push_lt (hname : name ∈ g) (hs : st.inStack name = false)
    (hv : st.visited name = false) : pending g (st.push name) < pending g st :=
  countP_lt_countP (fun k _ hk => by
      by_cases hk' : k = name
      · subst hk'; simp at hk
      · simpa [Function.update_noteq hk'] using hk)
    (AList.mem_keys.mp hname) (by simp) (by simp [hs, hv])

end LevelState

open LevelState

variable {g : GoMap Node}

/-! ### A returning call -/

theorem maxDepLevel_ok {calcDep : String → LevelState → Except GraphError (Int × LevelState)}
    (hcalc : ∀ d s l s', calcDep d s = .ok (l, s') →
      Extends s s' ∧ s'.visited d ∧ l = s'.level d ∧ (Good g s → Good g s')) :
    ∀ {deps : List String} {m : Int} {st : LevelState} {m' st'},
      maxDepLevel calcDep deps m st = .ok (m', st') →
      Extends st st' ∧ (∀ d ∈ deps, st'.visited d) ∧
        m' = deps.foldl (fun m d => max m (st'.level d)) m ∧ (Good g st → Good g st')
  | [], _, _, _, _, h => by cases h; exact ⟨.refl _, by simp, rfl, id⟩
  | d :: ds, m, st, m', st', h => by
    simp only [maxDepLevel] at h
    split at h
    · cases h
    · next l s1 hc =>
      obtain ⟨hx1, hv1, rfl, hg1⟩ := hcalc d st l s1 hc
      obtain ⟨hx, hv, rfl, hg⟩ := maxDepLevel_ok hcalc h
      have hk := hx.keeps d hv1
      refine ⟨hx1.trans hx, ?_, ?_, hg ∘ hg1⟩
      · simpa [hk.1] using hv
      · simp [hk.2, ite_gt_eq_max]

theorem calcLevel_ok : ∀ {fuel : Nat} {name : String} {st : LevelState} {l : Int} {st'},
    calcLevel g fuel name st = .ok (l, st') →
    Extends st st' ∧ st'.visited name ∧ l = st'.level name ∧ (Good g st → Good g st')
  | 0, _, _, _, _, h => by cases h
  | fuel + 1, name, st, l, st', h => by
    simp only [calcLevel] at h
    split at h
    · cases h
    · next node hnode =>
      split_ifs at h with hs hv
      · cases h; exact ⟨.refl st, hv, rfl, id⟩
      · simp only [Bool.not_eq_true] at hs hv
        split at h
        · next hty =>
          cases h
          refine ⟨extends_finish hs hv (.refl _), by simp, by simp, fun hgood v hvis => ?_⟩
          by_cases hvn : v = name
          · subst hvn
            exact ⟨node, hnode, fun _ => by simp, fun h => by simp [hty] at h⟩
          · have hvis' : st.visited v := by simpa [Function.update_noteq hvn] using hvis
            exact (hgood v hvis').of_keeps hvis' (keeps_finish hv)
        · next hty =>
          split at h
          · cases h
          · next m s1 hloop =>
            cases h
            obtain ⟨hx, hdeps, rfl, hg⟩ :=
              maxDepLevel_ok (fun d s l s' hc => calcLevel_ok hc) hloop
            have hv1 := not_visited_of_extends hx hv
            refine ⟨extends_finish hs hv hx, by simp, by simp, fun hgood v hvis => ?_⟩
            have hgood1 := hg hgood
            by_cases hvn : v = name
            · subst hvn
              have hne : ∀ d ∈ node.deps, d ≠ v := fun d hd he => by
                have h := hdeps d hd
                rw [he, hv1] at h
                cases h
              refine ⟨node, hnode, fun h => by simp [hty] at h, fun _ => ⟨fun d hd => ?_, ?_⟩⟩
              · simp [Function.update_noteq (hne d hd), hdeps d hd]
              · simp only [finish_level, Function.update_same]
                rw [depsMax_congr fun d hd => Function.update_noteq (hne d hd) _ _, depsMax]
                omega
            · have hvis' : s1.visited v := by simpa [Function.update_noteq hvn] using hvis
              exact (hgood1 v hvis').of_keeps hvis' (keeps_finish hv1)

/-! ### No false alarm -/

theorem maxDepLevel_error {calcDep : String → LevelState → Except GraphError (Int × LevelState)}
    {P : GraphError → Prop} {r : LevelState}
    (hok : ∀ d s l s', calcDep d s = .ok (l, s') → Extends s s') :
    ∀ {deps : List String} {m : Int} {st : LevelState} {e : GraphError},
      (∀ d ∈ deps, ∀ s e, s.inStack = r.inStack → pending g s ≤ pending g r →
        calcDep d s = .error e → P e) →
      st.inStack = r.inStack → pending g st ≤ pending g r →
      maxDepLevel calcDep deps m st = .error e → P e
  | [], _, _, _, _, _, _, h => by cases h
  | d :: ds, m, st, e, herr, hs, hp, h => by
    simp only [maxDepLevel] at h
    split at h
    · next e' hc => cases h; exact herr d (List.mem_cons_self _ _) st _ hs hp hc
    · next l s1 hc =>
      have hx := hok d st l s1 hc
      exact maxDepLevel_error hok (fun d' hd' => herr d' (List.mem_cons_of_mem _ hd'))
        (hx.inStack.trans hs) ((pending_mono hx).trans hp) h

/-- While every stacked node reaches `name`, an error of `calcLevel` is a cycle reported as one:
the fuel outlasts the `pending` nodes and every dependency is a node. -/
theorem calcLevel_error (hclosed : ∀ n node, g.lookup n = some node → ∀ d ∈ node.deps, d ∈ g) :
    ∀ {fuel : Nat} {name : String} {st : LevelState} {e : GraphError}, name ∈ g →
      pending g st < fuel → (∀ m, st.inStack m → TransGen (Edge g) m name) →
      calcLevel g fuel name st = .error e →
      (∃ c, TransGen (Edge g) c c) ∧ ∃ m, e = .circular m
  | 0, _, _, _, _, hp, _, _ => absurd hp (Nat.not_lt_zero _)
  | fuel + 1, name, st, e, hname, hp, hpath, h => by
    obtain ⟨node, hnode⟩ := Option.isSome_iff_exists.mp (AList.lookup_isSome.mpr hname)
    simp only [calcLevel, hnode] at h
    split_ifs at h with hs hv
    · cases h; exact ⟨⟨name, hpath name hs⟩, name, rfl⟩
    · simp only [Bool.not_eq_true] at hs hv
      split at h
      · cases h
      · next hty =>
        split at h
        · next e' hloop =>
          cases h
          have hlt := pending_push_lt hname hs hv
          refine maxDepLevel_error (g := g) (r := st.push name) (fun d s l s' hc => (calcLevel_ok hc).1)
            (fun d hd s e' hs' hp' hc => calcLevel_error hclosed (hclosed name node hnode d hd)
              (by omega) (fun m hm => ?_) hc) rfl le_rfl hloop
          have hedge : Edge g name d := ⟨node, hnode, hty, hd⟩
          rw [hs', push_inStack] at hm
          by_cases hmn : m = name
          · subst hmn; exact .single hedge
          · exact (hpath m (by simpa [Function.update_noteq hmn] using hm)).tail hedge
        · cases h

/-! ### The whole search -/

theorem calcAll_ok {fuel : Nat} : ∀ {names : List String} {st st' : LevelState},
    calcAll g fuel names st = .ok st' →
    Extends st st' ∧ (∀ n ∈ names, st'.visited n) ∧ (Good g st → Good g st')
  | [], _, _, h => by cases h; exact ⟨.refl _, by simp, id⟩
  | n :: ns, st, st', h => by
    simp only [calcAll] at h
    split at h
    · cases h
    · next l s1 hc =>
      obtain ⟨hx1, hv1, -, hg1⟩ := calcLevel_ok hc
      obtain ⟨hx, hv, hg⟩ := calcAll_ok h
      refine ⟨hx1.trans hx, ?_, hg ∘ hg1⟩
      simpa [(hx.keeps n hv1).1] using hv

theorem calcAll_error (hclosed : ∀ n node, g.lookup n = some node → ∀ d ∈ node.deps, d ∈ g) :
    ∀ {names : List String} {st : LevelState} {e : GraphError},
      (∀ n ∈ names, n ∈ g) → (∀ m, st.inStack m = false) →
      calcAll g (g.keys.length + 1) names st = .error e →
      (∃ c, TransGen (Edge g) c c) ∧ ∃ m, e = .circular m
  | [], _, _, _, _, h => by cases h
  | n :: ns, st, e, hnames, hs, h => by
    simp only [calcAll] at h
    split at h
    · next e' hc =>
      cases h
      exact calcLevel_error hclosed (hnames n (List.mem_cons_self _ _))
        (Nat.lt_succ_of_le pending_le) (fun m hm => by simp [hs m] at hm) hc
    · next l s1 hc =>
      have hx := (calcLevel_ok hc).1
      exact calcAll_error hclosed (fun m hm => hnames m (List.mem_cons_of_mem _ hm))
        (fun m => by rw [hx.inStack]; exact hs m) h

/-! ### Termination -/

/-- Every chain of nested calls is shorter than the fuel: with more fuel than `pending` nodes,
`calcLevel` never runs out, on every node table, cyclic, self-importing or with dangling
dependencies. A call on a stacked or visited node returns at once, and any other call stacks its
node before it recurses (`pending_push_lt`). -/
theorem calcLevel_ne_outOfFuel : ∀ {fuel : Nat} {name : String} {st : LevelState},
    pending g st < fuel → calcLevel g fuel name st ≠ .error .outOfFuel
  | 0, _, _, hp => absurd hp (Nat.not_lt_zero _)
  | fuel + 1, name, st, hp => by
    simp only [calcLevel]
    split
    · nofun
    · next node hnode =>
      split_ifs with hs hv
      · nofun
      · nofun
      · simp only [Bool.not_eq_true] at hs hv
        have hname : name ∈ g := AList.lookup_isSome.mp (by simp [hnode])
        have hlt := pending_push_lt hname hs hv
        split
        · nofun
        · split
          · next hloop =>
            rintro ⟨⟩
            exact maxDepLevel_error (g := g) (P := (· ≠ .outOfFuel)) (r := st.push name)
              (fun d s l s' hc => (calcLevel_ok hc).1)
              (fun d _ s e _ hp' hc he => calcLevel_ne_outOfFuel (by omega) (he ▸ hc))
              rfl le_rfl hloop rfl
          · nofun

/-- The loop of `calculateLevels` never runs out of fuel: `pending` never exceeds the number of
nodes. -/
theorem calcAll_ne_outOfFuel : ∀ (names : List String) (st : LevelState),
    calcAll g (g.keys.length + 1) names st ≠ .error .outOfFuel
  | [], _ => nofun
  | n :: ns, st => by
    simp only [calcAll]
    split
    · next hc => rintro ⟨⟩; exact calcLevel_ne_outOfFuel (Nat.lt_succ_of_le pending_le) hc
    · exact calcAll_ne_outOfFuel ns _

/-- Once every node is settled, levels fall strictly along dependency edges. -/
theorem level_lt_of_edge {st : LevelState} (hgood : Good g st) (hvis : ∀ n ∈ g, st.visited n)
    {a b : String} (h : Edge g a b) : st.level b < st.level a := by
  obtain ⟨node, hnode, hty, hb⟩ := h
  obtain ⟨node', hnode', -, ht⟩ := hgood a (hvis a (AList.lookup_isSome.mp (by simp [hnode])))
  rw [hnode] at hnode'
  cases hnode'
  have := le_depsMax (f := st.level) hb
  have := (ht hty).2
  omega

theorem not_transGen_edge {st : LevelState} (hgood : Good g st) (hvis : ∀ n ∈ g, st.visited n)
    (c : String) : ¬ TransGen (Edge g) c c := fun h => by
  have key : ∀ a b, TransGen (Edge g) a b → st.level b < st.level a := fun a b hab => by
    induction hab with
    | single h => exact level_lt_of_edge hgood hvis h
    | tail _ h ih => exact (level_lt_of_edge hgood hvis h).trans ih
  exact lt_irrefl _ (key c c h)

theorem good_init : Good g (LevelState.init g) := fun _ h => absurd h (by simp [LevelState.init])

/-- The level computation fails exactly on a cycle of dependency edges, whatever the order. -/
theorem calculateLevels_eq_error (hclosed : ∀ n node, g.lookup n = some node → ∀ d ∈ node.deps, d ∈ g)
    {order : List String} (horder : ∀ n, n ∈ order ↔ n ∈ g) :
    (∃ e, calculateLevels g order = .error e) ↔ ∃ c, TransGen (Edge g) c c := by
  constructor
  · rintro ⟨e, he⟩
    exact (calcAll_error hclosed (fun n hn => (horder n).mp hn) (fun _ => rfl) he).1
  · rintro ⟨c, hc⟩
    cases h : calculateLevels g order with
    | error e => exact ⟨e, rfl⟩
    | ok st =>
      obtain ⟨-, hvis, hgood⟩ := calcAll_ok h
      exact absurd hc (not_transGen_edge (hgood good_init)
        (fun n hn => hvis n ((horder n).mpr hn)) c)

/-! ### The graph `BuildGraph` returns -/

theorem dlookup_map_level (l : List (Σ _ : String, Node)) (level : String → Int) (n : String) :
    (l.map fun e => (⟨e.1, { e.2 with level := level e.1 }⟩ : Σ _ : String, Node)).dlookup n =
      (l.dlookup n).map fun node => { node with level := level n } := by
  induction l with
  | nil => rfl
  | cons e l ih =>
    obtain ⟨k, v⟩ := e
    by_cases h : n = k
    · subst h; simp [List.dlookup_cons_eq]
    · simp only [List.map_cons]
      rw [List.dlookup_cons_ne _ ⟨k, _⟩ h, ih,
        List.dlookup_cons_ne (β := fun _ : String => Node) _ ⟨k, v⟩ h]

theorem lookup_setLevels (g : GoMap Node) (level : String → Int) (n : String) :
    (setLevels g level).lookup n = (g.lookup n).map fun node => { node with level := level n } :=
  dlookup_map_level g.entries level n

section Config

variable {cfg : Config}

/-- The node table after a successful edge pass: each target with its imports as `Deps`, each
other source with none. -/
theorem lookup_edges (h : addEdges cfg.targets.entries (nodeTable cfg) = .ok g) (n : String) :
    g.lookup n = match cfg.targets.lookup n with
      | some t => some ⟨.target, 0, t.imports⟩
      | none => if n ∈ cfg.sources then some ⟨.source, 0, []⟩ else none := by
  rw [lookup_addEdges cfg.targets.nodupKeys h, lookup_nodeTable]
  cases ht : cfg.targets.lookup n with
  | none =>
    have hn : n ∉ cfg.targets := AList.lookup_eq_none.mp ht
    have ht' : cfg.targets.entries.dlookup n = none := ht
    by_cases hs : n ∈ cfg.sources <;> simp [hn, hs, ht']
  | some t =>
    have hn : n ∈ cfg.targets := AList.lookup_isSome.mp (by simp [ht])
    have ht' : cfg.targets.entries.dlookup n = some t := ht
    simp [hn, ht']

theorem mem_edges (h : addEdges cfg.targets.entries (nodeTable cfg) = .ok g) (n : String) :
    n ∈ g ↔ n ∈ cfg.sources ∨ n ∈ cfg.targets := by
  rw [← AList.lookup_isSome, lookup_edges h]
  cases ht : cfg.targets.lookup n with
  | none =>
    have hn : n ∉ cfg.targets := AList.lookup_eq_none.mp ht
    by_cases hs : n ∈ cfg.sources <;> simp [hn, hs]
  | some t => simp [AList.lookup_isSome.mp (by simp [ht] : (cfg.targets.lookup n).isSome)]

/-- The edge pass fails exactly on an import that names neither a source nor a target. -/
theorem addEdges_nodeTable_eq_error :
    (∃ e, addEdges cfg.targets.entries (nodeTable cfg) = .error e) ↔ cfg.HasUnknownImport := by
  rw [addEdges_eq_error fun e he => mem_nodeTable.mpr (.inr (List.mem_keys_of_mem he))]
  simp only [mem_nodeTable, not_or]
  constructor
  · rintro ⟨⟨k, t⟩, he, imp, himp, hs⟩
    exact ⟨k, t, AList.mem_lookup_iff.mpr he, imp, himp, hs⟩
  · rintro ⟨k, t, hl, imp, himp, hs⟩
    exact ⟨⟨k, t⟩, AList.mem_lookup_iff.mp hl, imp, himp, hs⟩

theorem edges_closed (h : addEdges cfg.targets.entries (nodeTable cfg) = .ok g) :
    ∀ n node, g.lookup n = some node → ∀ d ∈ node.deps, d ∈ g := by
  intro n node hn d hd
  have hno : ¬ cfg.HasUnknownImport := fun hu => by
    obtain ⟨e, he⟩ := addEdges_nodeTable_eq_error.mpr hu
    rw [h] at he
    cases he
  rw [lookup_edges h] at hn
  rw [mem_edges h]
  cases ht : cfg.targets.lookup n with
  | none =>
    rw [ht] at hn
    split_ifs at hn
    cases hn
    simp at hd
  | some t =>
    rw [ht] at hn
    cases hn
    by_contra hc
    push_neg at hc
    exact hno ⟨n, t, ht, d, hd, hc⟩

theorem edge_edges (h : addEdges cfg.targets.entries (nodeTable cfg) = .ok g) {a b : String} :
    Edge g a b ↔ ∃ t, cfg.targets.lookup a = some t ∧ b ∈ t.imports := by
  simp only [Edge, lookup_edges h]
  cases cfg.targets.lookup a with
  | none => split_ifs <;> simp
  | some t => simp

/-- A cycle of dependency edges in the table is a cycle of target-to-target imports. -/
theorem hasImportCycle_iff (h : addEdges cfg.targets.entries (nodeTable cfg) = .ok g) :
    cfg.HasImportCycle ↔ ∃ c, TransGen (Edge g) c c := by
  have hsrc : ∀ a b, Edge g a b → a ∈ cfg.targets := fun a b he => by
    obtain ⟨t, ht, -⟩ := (edge_edges h).mp he
    exact AList.lookup_isSome.mp (by simp [ht])
  have hback : ∀ a b, TransGen (Edge g) a b → b ∈ cfg.targets → TransGen cfg.ImportsTarget a b := by
    intro a b hab hb
    induction hab using TransGen.head_induction_on with
    | base hab =>
      obtain ⟨t, ht, hi⟩ := (edge_edges h).mp hab
      exact .single ⟨t, ht, hi, hb⟩
    | ih hac hcb ih =>
      obtain ⟨x, hcx, -⟩ := TransGen.head'_iff.mp hcb
      obtain ⟨t, ht, hi⟩ := (edge_edges h).mp hac
      exact .head ⟨t, ht, hi, hsrc _ x hcx⟩ ih
  constructor
  · rintro ⟨c, hc⟩
    exact ⟨c, hc.mono fun a b ⟨t, ht, hb, _⟩ => (edge_edges h).mpr ⟨t, ht, hb⟩⟩
  · rintro ⟨c, hc⟩
    obtain ⟨x, hcx, -⟩ := TransGen.head'_iff.mp hc
    exact ⟨c, hback c c hc (hsrc c x hcx)⟩

/-- **Graph construction**, error side: for every order listing exactly the nodes,
`BuildGraph` fails exactly on an unknown import or an import cycle. -/
theorem BuildGraph_eq_error_iff {order : List String}
    (horder : ∀ n, n ∈ order ↔ n ∈ cfg.sources ∨ n ∈ cfg.targets) :
    (∃ e, BuildGraph cfg order = .error e) ↔ cfg.HasUnknownImport ∨ cfg.HasImportCycle := by
  cases he : addEdges cfg.targets.entries (nodeTable cfg) with
  | error e =>
    simp only [BuildGraph, he]
    exact iff_of_true ⟨e, rfl⟩ (.inl (addEdges_nodeTable_eq_error.mp ⟨e, he⟩))
  | ok g =>
    have hno : ¬ cfg.HasUnknownImport := fun hu => by
      obtain ⟨e, he'⟩ := addEdges_nodeTable_eq_error.mpr hu
      rw [he] at he'
      cases he'
    have hcyc := calculateLevels_eq_error (edges_closed he)
      fun n => (horder n).trans (mem_edges he n).symm
    simp only [BuildGraph, he, hasImportCycle_iff he, or_iff_right hno, ← hcyc]
    cases calculateLevels g order <;> simp

/-- **Graph construction**, success side: for every order listing exactly the nodes, the graph
`BuildGraph` returns is levelled. -/
theorem levelledGraph_of_BuildGraph {order : List String} {G : Graph}
    (horder : ∀ n, n ∈ order ↔ n ∈ cfg.sources ∨ n ∈ cfg.targets)
    (hG : BuildGraph cfg order = .ok G) : cfg.LevelledGraph G := by
  simp only [BuildGraph] at hG
  split at hG
  · cases hG
  · next g he =>
    split at hG
    · cases hG
    · next st hl =>
      cases hG
      obtain ⟨-, hvis, hgood⟩ := calcAll_ok hl
      have hset : ∀ n, n ∈ g → Settled g st n := fun n hn =>
        hgood good_init n (hvis n ((horder n).trans (mem_edges he n).symm |>.mpr hn))
      refine ⟨fun n => ?_, fun n hs ht => ?_, fun n t ht => ?_⟩
      · rw [← mem_edges he, ← AList.lookup_isSome, ← AList.lookup_isSome, lookup_setLevels]
        simp
      · have hn : g.lookup n = some ⟨.source, 0, []⟩ := by
          rw [lookup_edges he, AList.lookup_eq_none.mpr ht]; simp [hs]
        obtain ⟨node, hnode, hsrc, -⟩ := hset n (AList.lookup_isSome.mp (by simp [hn]))
        rw [hn] at hnode
        cases hnode
        simp [lookup_setLevels, hn, hsrc rfl]
      · have hn : g.lookup n = some ⟨.target, 0, t.imports⟩ := by rw [lookup_edges he, ht]
        obtain ⟨node, hnode, -, htgt⟩ := hset n (AList.lookup_isSome.mp (by simp [hn]))
        rw [hn] at hnode
        cases hnode
        have hlv : depsMax (Graph.levelOf ⟨setLevels g st.level⟩) t.imports =
            depsMax st.level t.imports := depsMax_congr fun d hd => by
          obtain ⟨dn, hdn⟩ := Option.isSome_iff_exists.mp
            (AList.lookup_isSome.mpr (edges_closed he n _ hn d hd))
          simp [Graph.levelOf, lookup_setLevels, hdn]
        simp [lookup_setLevels, hn, hlv, (htgt rfl).2]

/-- **Graph construction** (the contract of `BuildGraph`): for every configuration and every
order listing exactly the nodes (every iteration order of the node table), `BuildGraph` fails
exactly when an import names neither a source nor a target or the target-to-target imports have
a cycle, and otherwise returns the levelled graph of the configuration. -/
theorem BuildGraph_spec (cfg : Config) (order : List String)
    (horder : ∀ n, n ∈ order ↔ n ∈ cfg.sources ∨ n ∈ cfg.targets) :
    ((∃ e, BuildGraph cfg order = .error e) ↔ cfg.HasUnknownImport ∨ cfg.HasImportCycle) ∧
    ∀ G, BuildGraph cfg order = .ok G →
      (∀ n, n ∈ G.nodes ↔ n ∈ cfg.sources ∨ n ∈ cfg.targets) ∧
      (∀ n, n ∈ cfg.sources → n ∉ cfg.targets → G.nodes.lookup n = some ⟨.source, 0, []⟩) ∧
      ∀ n t, cfg.targets.lookup n = some t →
        G.nodes.lookup n = some ⟨.target, 1 + depsMax G.levelOf t.imports, t.imports⟩ :=
  ⟨BuildGraph_eq_error_iff horder, fun _ hG =>
    have h := levelledGraph_of_BuildGraph horder hG
    ⟨h.mem, h.source, h.target⟩⟩

/-- The inheritance chain of the pipeline guide: `Stg` imports two sources, `Prod` imports
`Stg`, and `Demo` imports `Prod`. -/
def chainConfig : Config where
  vault := ⟨"https://vault.example.com"⟩
  aws := ⟨"us-east-1", ⟨""⟩, ⟨false, ⟨"", ""⟩⟩⟩
  sources := ((∅ : GoMap Source).insert "analytics" ⟨some ⟨"analytics", []⟩⟩).insert
    "analytics-engineers" ⟨some ⟨"analytics-engineers", []⟩⟩
  mergeStore := ⟨some ⟨"merged-secrets"⟩, none⟩
  targets := (((∅ : GoMap Target).insert "Stg"
      ⟨"111111111111", ["analytics", "analytics-engineers"], "", "", ""⟩).insert "Prod"
      ⟨"222222222222", ["Stg"], "", "", ""⟩).insert "Demo" ⟨"222222222222", ["Prod"], "", "", ""⟩
  dynamicTargets := ∅

/-- The names the chain configuration's graph is built over. -/
theorem chainConfig_order : ∀ n, n ∈ ["Demo", "analytics", "Stg", "Prod", "analytics-engineers"] ↔
    n ∈ chainConfig.sources ∨ n ∈ chainConfig.targets := fun n => by
  simp only [chainConfig, List.mem_cons, List.mem_singleton, AList.mem_insert,
    AList.not_mem_empty, or_false, List.not_mem_nil]
  tauto

theorem BuildGraph_spec_chain :
    (∀ n, n ∈ ["Demo", "analytics", "Stg", "Prod", "analytics-engineers"] ↔
      n ∈ chainConfig.sources ∨ n ∈ chainConfig.targets) ∧
    ((∃ e, BuildGraph chainConfig ["Demo", "analytics", "Stg", "Prod", "analytics-engineers"] =
        .error e) ↔ chainConfig.HasUnknownImport ∨ chainConfig.HasImportCycle) ∧
    ∀ G, BuildGraph chainConfig ["Demo", "analytics", "Stg", "Prod", "analytics-engineers"] =
        .ok G →
      (∀ n, n ∈ G.nodes ↔ n ∈ chainConfig.sources ∨ n ∈ chainConfig.targets) ∧
      (∀ n, n ∈ chainConfig.sources → n ∉ chainConfig.targets →
        G.nodes.lookup n = some ⟨.source, 0, []⟩) ∧
      ∀ n t, chainConfig.targets.lookup n = some t →
        G.nodes.lookup n = some ⟨.target, 1 + depsMax G.levelOf t.imports, t.imports⟩ :=
  ⟨chainConfig_order, BuildGraph_spec chainConfig _ chainConfig_order⟩

/-! ### Termination of `BuildGraph` -/

/-- **Termination** of the level computation: on every node table, cycles and self-imports
included, and for every visiting order, `calculateLevels` returns without exhausting the fuel
of `calcLevel`. So for every configuration and every iteration order of its nodes, `BuildGraph`
returns a graph, the circular-dependency error, or the unknown-import error of its edge pass,
which comes before the level computation. -/
theorem calculateLevels_terminates :
    (∀ (g : GoMap Node) (order : List String), calculateLevels g order ≠ .error .outOfFuel) ∧
    ∀ (cfg : Config) (order : List String),
      (∀ n, n ∈ order ↔ n ∈ cfg.sources ∨ n ∈ cfg.targets) →
      (∃ G, BuildGraph cfg order = .ok G) ∨ (∃ m, BuildGraph cfg order = .error (.circular m)) ∨
        ∃ t imp, BuildGraph cfg order = .error (.unknownImport t imp) := by
  refine ⟨fun g order => calcAll_ne_outOfFuel order _, fun cfg order horder => ?_⟩
  simp only [BuildGraph]
  split
  · next he =>
    obtain ⟨t, imp, rfl⟩ := addEdges_error he
    exact .inr (.inr ⟨t, imp, rfl⟩)
  · next g he =>
    split
    · next hl =>
      obtain ⟨-, m, rfl⟩ := calcAll_error (edges_closed he)
        (fun n hn => (mem_edges he n).mpr ((horder n).mp hn)) (fun _ => rfl) hl
      exact .inr (.inl ⟨m, rfl⟩)
    · exact .inl ⟨_, rfl⟩

/-- A target that imports itself. -/
def selfImportConfig : Config where
  vault := ⟨"https://vault.example.com"⟩
  aws := ⟨"us-east-1", ⟨""⟩, ⟨false, ⟨"", ""⟩⟩⟩
  sources := ∅
  mergeStore := ⟨some ⟨"merged-secrets"⟩, none⟩
  targets := (∅ : GoMap Target).insert "Stg" ⟨"111111111111", ["Stg"], "", "", ""⟩
  dynamicTargets := ∅

theorem calculateLevels_terminates_selfImport :
    (∀ n, n ∈ ["Stg"] ↔ n ∈ selfImportConfig.sources ∨ n ∈ selfImportConfig.targets) ∧
    ((∃ G, BuildGraph selfImportConfig ["Stg"] = .ok G) ∨
      (∃ m, BuildGraph selfImportConfig ["Stg"] = .error (.circular m)) ∨
      ∃ t imp, BuildGraph selfImportConfig ["Stg"] = .error (.unknownImport t imp)) :=
  have horder : ∀ n, n ∈ ["Stg"] ↔ n ∈ selfImportConfig.sources ∨
      n ∈ selfImportConfig.targets := fun n => by
    simp only [selfImportConfig, List.mem_singleton, AList.mem_insert, AList.not_mem_empty,
      or_false, false_or]
  ⟨horder, calculateLevels_terminates.2 selfImportConfig ["Stg"] horder⟩

/-- A target that imports a name that is neither a source nor a target. -/
def danglingImportConfig : Config :=
  { selfImportConfig with
    targets := (∅ : GoMap Target).insert "Stg" ⟨"111111111111", ["analytics"], "", "", ""⟩ }

/-- On an import that names no node, `BuildGraph` returns neither a graph nor the
circular-dependency error, but the unknown-import error of its edge pass. -/
theorem BuildGraph_danglingImport :
    (∀ n, n ∈ ["Stg"] ↔ n ∈ danglingImportConfig.sources ∨ n ∈ danglingImportConfig.targets) ∧
    BuildGraph danglingImportConfig ["Stg"] = .error (.unknownImport "Stg" "analytics") :=
  ⟨fun n => by
    simp only [danglingImportConfig, selfImportConfig, List.mem_singleton, AList.mem_insert,
      AList.not_mem_empty, or_false, false_or], rfl⟩

end Config

end VaultSecretSync
