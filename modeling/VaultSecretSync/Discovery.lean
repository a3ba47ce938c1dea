import VaultSecretSync.Config

/-!
# Dynamic target discovery

`DiscoveryService.DiscoverTargets` expands every dynamic target of the configuration into one
static target per discovered account, and `ExpandDynamicTargets` adds the discovered targets
whose names no static target has. The discoverers (Identity Center, Organizations, an external
account list) call into AWS; `Discoverers` gives their answer for each discovery setting
(`none` for an error), so a statement over every `Discoverers` holds for every answer the
services can give.

The account loop names a target after the sanitised account name and, when that name is
already taken, appends the first six bytes of the account ID; `none` stands for the panic of
slicing a shorter ID. The results:

* `DiscoverTargets_eq`: when no two surviving (dynamic target, account) pairs share a base
  name, the collision branch is never taken and the result holds one entry per pair;
* `DiscoverTargets_of_distinct_names`: under that condition the map is the same for every
  iteration order of the dynamic targets, and each name denotes its own pair's target;
* `ExpandDynamicTargets_eq_some` and `lookup_addDiscovered`: expansion keeps every static
  target and adds the discovered ones under the remaining names.

Without the condition the loop panics on a short ID, overwrites a suffixed name on a third
collision, and lets the order decide which account a name denotes; the fixed inputs after each
result show these.
-/

namespace VaultSecretSync

/-! ### Accounts and the discoverers -/

/-- A discovered account; only its ID and name are read. -/
structure AccountInfo where
  id : String
  name : String
  deriving DecidableEq, Repr

/-- The answer of each discoverer for its setting: the accounts found, `none` for an error. -/
structure Discoverers where
  identityCenter : IdentityCenterDiscovery → Option (List AccountInfo)
  organizations : OrganizationsDiscovery → Option (List AccountInfo)
  accountsList : AccountsListDiscovery → Option (List AccountInfo)

/-- `isExcluded`: the account ID is on the exclusion list. -/
def isExcluded (accountID : String) (excludeList : List String) : Bool :=
  excludeList.any (· == accountID)

/-- `sanitizeTargetName`: spaces and dashes become underscores, then every rune other than an
ASCII letter, digit or underscore is dropped. -/
def sanitizeTargetName (name : String) : String :=
  ⟨(name.data.map fun r => if r = ' ' ∨ r = '-' then '_' else r).filter fun r =>
    ('a' ≤ r ∧ r ≤ 'z') ∨ ('A' ≤ r ∧ r ≤ 'Z') ∨ ('0' ≤ r ∧ r ≤ '9') ∨ r = '_'⟩

/-- `deduplicateAccounts`: the first account of each ID, in order. -/
def deduplicateAccounts (accounts : List AccountInfo) : List AccountInfo :=
  (accounts.foldl (fun (acc : List String × List AccountInfo) a =>
    if a.id ∈ acc.1 then acc else (acc.1 ++ [a.id], acc.2 ++ [a])) ([], [])).2

/-- The name of an account's target before the collision check: its sanitised name, else
`account_<id>`. -/
def baseTargetName (acct : AccountInfo) : String :=
  let targetName := sanitizeTargetName acct.name
  if targetName = "" then "account_" ++ acct.id else targetName

/-- The characters of `cs` that end within its first `n` bytes of UTF-8. -/
def takeBytes : Nat → List Char → List Char
  | _, [] => []
  | n, c :: cs => if c.utf8Size ≤ n then c :: takeBytes (n - c.utf8Size) cs else []

/-- Go's `id[:6]`: the first six bytes of the ID, a panic (`none`) when it has fewer. Six bytes
that end inside a character are no text a `String` holds; the model then keeps the characters
that end within them, so it parts from Go only on an ID with a character of several bytes that
straddles its sixth byte. Account IDs are twelve ASCII digits. -/
def idPrefix (id : String) : Option String :=
  if id.utf8ByteSize < 6 then none else some ⟨takeBytes 6 id.data⟩

/-- Six bytes are six ASCII characters, and fewer characters of several bytes. -/
example : idPrefix "123456789012" = some "123456" ∧ idPrefix "ééé" = some "ééé" ∧
    idPrefix "abcdéf" = some "abcdé" ∧ idPrefix "abcdeé" = some "abcde" ∧
    idPrefix "abcé" = none := by
  decide

/-- The discovery service: the configuration and the discoverers' answers. -/
structure DiscoveryService where
  config : Config
  discoverers : Discoverers

namespace DiscoveryService

variable (d : DiscoveryService)

/-- A discoverer that is not configured contributes no account. -/
def runDiscoverer {α : Type} (discover : α → Option (List AccountInfo)) :
    Option α → Option (List AccountInfo)
  | some setting => discover setting
  | none => some []

/-- The accounts of a dynamic target: Identity Center's, then those of Organizations and of the
account list appended; an error of any of them makes the loop skip the dynamic target. -/
def discoverAccounts (c : DiscoveryConfig) : Option (List AccountInfo) := do
  let accounts ← runDiscoverer d.discoverers.identityCenter c.identityCenter
  let orgAccounts ← runDiscoverer d.discoverers.organizations c.organizations
  let listAccounts ← runDiscoverer d.discoverers.accountsList c.accountsList
  pure (accounts ++ orgAccounts ++ listAccounts)

/-- The target a dynamic target yields for an account: the account's ID, the dynamic target's
imports and secret prefix, its region (else the default one) and its role with the account ID
put in for the placeholder. -/
def discoveredTarget (dt : DynamicTarget) (acct : AccountInfo) : Target where
  accountID := acct.id
  imports := dt.imports
  region := if dt.region = "" then d.config.aws.region else dt.region
  secretPrefix := dt.secretPrefix
  roleARN := if dt.roleARN = "" then "" else
    dt.roleARN.replace Config.accountIDPlaceholder acct.id

/-- One iteration of the account loop: an excluded account is skipped; otherwise its target is
stored under its base name, suffixed with the first six bytes of its ID when the base name is
taken (the suffixed name is not checked again). -/
def addAccount (dt : DynamicTarget) (discovered : GoMap Target) (acct : AccountInfo) :
    Option (GoMap Target) :=
  if isExcluded acct.id dt.exclude then some discovered
  else
    let targetName := baseTargetName acct
    let targetName? :=
      if targetName ∈ discovered then (idPrefix acct.id).map (targetName ++ "_" ++ ·)
      else some targetName
    targetName?.map fun targetName => discovered.insert targetName (d.discoveredTarget dt acct)

/-- The body of the loop over the dynamic targets: discover, deduplicate, add each account. -/
def discoverFrom (discovered : GoMap Target) (dt : DynamicTarget) : Option (GoMap Target) :=
  match d.discoverAccounts dt.discovery with
  | none => some discovered
  | some accounts => (deduplicateAccounts accounts).foldlM (d.addAccount dt) discovered

/-- `DiscoveryService.DiscoverTargets`: the targets of every dynamic target, visited in map
order; `none` is a panic (the source never returns an error). -/
def DiscoverTargets : Option (GoMap Target) :=
  d.config.dynamicTargets.entries.foldlM (fun discovered e => d.discoverFrom discovered e.2) ∅

end DiscoveryService

/-- The merge of the discovered targets into the static ones: a name a target already has is
skipped. -/
def addDiscovered (targets : GoMap Target) (discovered : List (Σ _ : String, Target)) :
    GoMap Target :=
  discovered.foldl (fun targets e => if e.1 ∈ targets then targets else targets.insert e.1 e.2)
    targets

/-- `ExpandDynamicTargets`: a configuration without dynamic targets is unchanged; otherwise the
discovered targets are added under the names no static target has. -/
def ExpandDynamicTargets (cfg : Config) (disc : Discoverers) : Option Config :=
  if cfg.dynamicTargets.entries = [] then some cfg
  else (DiscoveryService.mk cfg disc).DiscoverTargets.map fun discovered =>
    { cfg with targets := addDiscovered cfg.targets discovered.entries }

/-! ### The account loop without collisions -/

namespace DiscoveryService

variable (d : DiscoveryService)

/-- The accounts of a list that the exclusion list lets through. -/
def notExcluded (dt : DynamicTarget) (accounts : List AccountInfo) : List AccountInfo :=
  accounts.filter fun a => !isExcluded a.id dt.exclude

/-- The accounts of a dynamic target that reach the naming step: discovered without error,
deduplicated, not excluded. -/
def survivingAccounts (dt : DynamicTarget) : List AccountInfo :=
  match d.discoverAccounts dt.discovery with
  | none => []
  | some accounts => notExcluded dt (deduplicateAccounts accounts)

/-- The surviving (dynamic target, account) pairs of one dynamic target. -/
def pairsOf (dt : DynamicTarget) : List (DynamicTarget × AccountInfo) :=
  (d.survivingAccounts dt).map (dt, ·)

/-- Every surviving (dynamic target, account) pair, in iteration order. -/
def survivingPairs : List (DynamicTarget × AccountInfo) :=
  d.config.dynamicTargets.entries.flatMap fun e => d.pairsOf e.2

/-- The map that stores each pair's target under the pair's base name. -/
def insertPairs (m : GoMap Target) (pairs : List (DynamicTarget × AccountInfo)) :
    GoMap Target :=
  pairs.foldl (fun m p => m.insert (baseTargetName p.2) (d.discoveredTarget p.1 p.2)) m

variable {d}

@[simp]
theorem insertPairs_nil (m : GoMap Target) : d.insertPairs m [] = m := rfl

@[simp]
theorem insertPairs_cons (m : GoMap Target) (p : DynamicTarget × AccountInfo) (ps) :
    d.insertPairs m (p :: ps) =
      d.insertPairs (m.insert (baseTargetName p.2) (d.discoveredTarget p.1 p.2)) ps := rfl

theorem insertPairs_append (m : GoMap Target) (ps qs : List (DynamicTarget × AccountInfo)) :
    d.insertPairs m (ps ++ qs) = d.insertPairs (d.insertPairs m ps) qs :=
  List.foldl_append _ _ _ _

theorem mem_insertPairs {n : String} :
    ∀ {m : GoMap Target} {pairs : List (DynamicTarget × AccountInfo)},
      n ∈ d.insertPairs m pairs ↔ n ∈ m ∨ n ∈ pairs.map (baseTargetName ·.2)
  | _, [] => by simp
  | m, p :: ps => by
    rw [insertPairs_cons, mem_insertPairs, AList.mem_insert, List.map_cons, List.mem_cons]
    tauto

/-- With distinct base names, a name of `insertPairs` denotes the target of the one pair that
bears it, or else what it denoted before. -/
theorem lookup_insertPairs {n : String} {t : Target} :
    ∀ {m : GoMap Target} {pairs : List (DynamicTarget × AccountInfo)},
      (pairs.map (baseTargetName ·.2)).Nodup →
      ((d.insertPairs m pairs).lookup n = some t ↔
        (∃ p ∈ pairs, baseTargetName p.2 = n ∧ t = d.discoveredTarget p.1 p.2) ∨
          n ∉ pairs.map (baseTargetName ·.2) ∧ m.lookup n = some t)
  | _, [], _ => by simp
  | m, p :: ps, hnd => by
    rw [List.map_cons, List.nodup_cons] at hnd
    rw [insertPairs_cons, lookup_insertPairs hnd.2]
    by_cases hn : n = baseTargetName p.2
    · subst hn
      have hps : ¬∃ q ∈ ps, baseTargetName q.2 = baseTargetName p.2 ∧
          t = d.discoveredTarget q.1 q.2 :=
        fun ⟨q, hq, he, _⟩ => hnd.1 (List.mem_map.mpr ⟨q, hq, he⟩)
      simp only [AList.lookup_insert, Option.some.injEq, List.mem_cons, List.map_cons,
        exists_eq_or_imp, true_and, not_true, not_or, false_and, or_false, hps, hnd.1, false_or,
        not_false_eq_true]
      exact eq_comm
    · simp only [AList.lookup_insert_ne hn, List.mem_cons, List.map_cons, exists_eq_or_imp,
        Ne.symm hn, false_and, false_or, not_or, hn, not_false_eq_true, true_and]

/-- Excluded accounts are skipped. -/
theorem addAccount_of_excluded {dt : DynamicTarget} {m : GoMap Target} {a : AccountInfo}
    (hx : isExcluded a.id dt.exclude = true) : d.addAccount dt m a = some m := by
  simp [addAccount, hx]

/-- An account whose base name is free is stored under it. -/
theorem addAccount_of_not_mem {dt : DynamicTarget} {m : GoMap Target} {a : AccountInfo}
    (hx : isExcluded a.id dt.exclude = false) (hn : baseTargetName a ∉ m) :
    d.addAccount dt m a = some (m.insert (baseTargetName a) (d.discoveredTarget dt a)) := by
  simp [addAccount, hx, hn]

/-- The account loop, when every surviving account's base name is fresh and no two coincide,
stores one entry per surviving account. -/
theorem foldlM_addAccount (dt : DynamicTarget) :
    ∀ (accounts : List AccountInfo) (m : GoMap Target),
      (∀ a ∈ notExcluded dt accounts, baseTargetName a ∉ m) →
      ((notExcluded dt accounts).map baseTargetName).Nodup →
      accounts.foldlM (d.addAccount dt) m =
        some (d.insertPairs m ((notExcluded dt accounts).map (dt, ·)))
  | [], _, _, _ => rfl
  | a :: as, m, hfresh, hnd => by
    cases hx : isExcluded a.id dt.exclude
    · have hkeep : notExcluded dt (a :: as) = a :: notExcluded dt as := by
        simp [notExcluded, hx]
      rw [hkeep, List.map_cons, List.nodup_cons] at hnd
      rw [hkeep] at hfresh
      rw [List.foldlM_cons, addAccount_of_not_mem hx (hfresh a (List.mem_cons_self _ _)), hkeep]
      refine foldlM_addAccount dt as _ (fun b hb hmem => ?_) hnd.2
      rcases (AList.mem_insert _).mp hmem with he | hm
      · exact hnd.1 (he ▸ List.mem_map_of_mem _ hb)
      · exact hfresh b (List.mem_cons_of_mem _ hb) hm
    · have hdrop : notExcluded dt (a :: as) = notExcluded dt as := by
        simp [notExcluded, hx]
      rw [hdrop] at hfresh hnd ⊢
      rw [List.foldlM_cons, addAccount_of_excluded hx]
      exact foldlM_addAccount dt as m hfresh hnd

theorem map_pairsOf (dt : DynamicTarget) :
    (d.pairsOf dt).map (baseTargetName ·.2) = (d.survivingAccounts dt).map baseTargetName := by
  simp [pairsOf, Function.comp_def]

/-- One dynamic target, when its surviving accounts' base names are fresh and distinct, adds
its pairs. -/
theorem discoverFrom_eq (dt : DynamicTarget) (m : GoMap Target)
    (hfresh : ∀ a ∈ d.survivingAccounts dt, baseTargetName a ∉ m)
    (hnd : ((d.survivingAccounts dt).map baseTargetName).Nodup) :
    d.discoverFrom m dt = some (d.insertPairs m (d.pairsOf dt)) := by
  cases h : d.discoverAccounts dt.discovery with
  | none => simp [discoverFrom, pairsOf, survivingAccounts, h]
  | some accounts =>
    simp only [survivingAccounts, h] at hfresh hnd
    simp only [discoverFrom, pairsOf, survivingAccounts, h]
    exact foldlM_addAccount dt _ m hfresh hnd

/-- The loop over the dynamic targets, when every surviving pair's base name is fresh and no
two coincide, stores one entry per pair. -/
theorem foldlM_discoverFrom :
    ∀ (es : List (Σ _ : String, DynamicTarget)) (m : GoMap Target),
      (∀ p ∈ es.flatMap (d.pairsOf ·.2), baseTargetName p.2 ∉ m) →
      ((es.flatMap (d.pairsOf ·.2)).map (baseTargetName ·.2)).Nodup →
      es.foldlM (fun m e => d.discoverFrom m e.2) m =
        some (d.insertPairs m (es.flatMap (d.pairsOf ·.2)))
  | [], _, _, _ => rfl
  | e :: es, m, hfresh, hnd => by
    rw [List.flatMap_cons] at hfresh hnd ⊢
    rw [List.map_append, List.nodup_append] at hnd
    obtain ⟨hnd₁, hnd₂, hdisj⟩ := hnd
    have hfresh₁ : ∀ a ∈ d.survivingAccounts e.2, baseTargetName a ∉ m := fun a ha =>
      hfresh (e.2, a) (List.mem_append_left _ (List.mem_map_of_mem _ ha))
    rw [map_pairsOf] at hnd₁ hdisj
    rw [List.foldlM_cons, discoverFrom_eq e.2 m hfresh₁ hnd₁, insertPairs_append]
    refine foldlM_discoverFrom es _ (fun p hp hmem => ?_) hnd₂
    rcases mem_insertPairs.mp hmem with hm | hm
    · exact hfresh p (List.mem_append_right _ hp) hm
    · rw [map_pairsOf] at hm
      exact hdisj hm (List.mem_map_of_mem _ hp)

/-- **Discovery without collisions.** When no two surviving pairs share a base name,
`DiscoverTargets` does not panic and stores each pair's target under the pair's base name. -/
theorem DiscoverTargets_eq (hnd : (d.survivingPairs.map (baseTargetName ·.2)).Nodup) :
    d.DiscoverTargets = some (d.insertPairs ∅ d.survivingPairs) :=
  foldlM_discoverFrom _ ∅ (fun _ _ => AList.not_mem_empty _) hnd

end DiscoveryService

/-! ### Collisions and iteration order -/

/-- The answer of an account list that returns the given accounts, the other discoverers
returning none. -/
def listDiscoverers (accounts : List AccountInfo) : Discoverers :=
  ⟨fun _ => some [], fun _ => some [], fun _ => some accounts⟩

/-- A valid configuration with one source and one dynamic target fed by an account list; the
dynamic target imports the source and a name that exists nowhere. -/
def sandboxConfig : Config where
  vault := ⟨"https://vault.example.com"⟩
  aws := ⟨"us-east-1", ⟨""⟩, ⟨false, ⟨"", ""⟩⟩⟩
  sources := (∅ : GoMap Source).insert "analytics" ⟨some ⟨"analytics", []⟩⟩
  mergeStore := ⟨some ⟨"merged-secrets"⟩, none⟩
  targets := ∅
  dynamicTargets := (∅ : GoMap DynamicTarget).insert "sandboxes"
    ⟨⟨none, none, some ⟨"ssm:/platform/sandboxes"⟩⟩, ["analytics", "payments"], [], "", "", ""⟩

/-- Two collisions on one name: an ID shorter than six bytes panics, and a third account of a
name overwrites the second, whose suffixed name it shares. -/
theorem DiscoverTargets_collisions :
    (DiscoveryService.mk sandboxConfig
        (listDiscoverers [⟨"12345", "dev"⟩, ⟨"67890", "dev"⟩])).DiscoverTargets = none ∧
      (DiscoveryService.mk sandboxConfig
          (listDiscoverers [⟨"123456000001", "dev"⟩, ⟨"123456000002", "dev"⟩,
            ⟨"123456000003", "dev"⟩])).DiscoverTargets.map
        (fun m => (m.keys, (m.lookup "dev_123456").map (·.accountID))) =
        some (["dev_123456", "dev"], some "123456000003") := by
  decide

/-- A dynamic target fed by the account list of its region, with that region. -/
def regionalSandboxes (region : String) : DynamicTarget :=
  ⟨⟨none, none, some ⟨"ssm:/platform/" ++ region⟩⟩, ["analytics"], [], region, "", ""⟩

/-- Two dynamic targets, `us` and `eu`, each fed by its own account list. -/
def regionalConfig : Config :=
  { sandboxConfig with
    dynamicTargets := ((∅ : GoMap DynamicTarget).insert "us" (regionalSandboxes "us-east-1")).insert
      "eu" (regionalSandboxes "eu-west-1") }

/-- The same two dynamic targets, iterated in the other order. -/
def regionalTargetsSwapped : GoMap DynamicTarget :=
  ((∅ : GoMap DynamicTarget).insert "eu" (regionalSandboxes "eu-west-1")).insert
    "us" (regionalSandboxes "us-east-1")

/-- When both account lists return the same account, the name `Dev` denotes the account in the
region of whichever dynamic target the loop visits first. -/
theorem DiscoverTargets_order_dependent :
    regionalTargetsSwapped.entries.Perm regionalConfig.dynamicTargets.entries ∧
      ((DiscoveryService.mk regionalConfig
          (listDiscoverers [⟨"111111111111", "Dev"⟩])).DiscoverTargets.bind
        (·.lookup "Dev")).map (·.region) = some "eu-west-1" ∧
      ((DiscoveryService.mk { regionalConfig with dynamicTargets := regionalTargetsSwapped }
          (listDiscoverers [⟨"111111111111", "Dev"⟩])).DiscoverTargets.bind
        (·.lookup "Dev")).map (·.region) = some "us-east-1" :=
  ⟨List.Perm.swap _ _ _, by decide, by decide⟩

namespace DiscoveryService

/-- **Order independence.** When no two surviving (dynamic target, account) pairs share a base
name, `DiscoverTargets` returns, for every iteration order of the dynamic targets, the map that
stores each pair's target (its account's ID, the dynamic target's imports, region and role)
under the pair's base name. -/
theorem DiscoverTargets_of_distinct_names (d : DiscoveryService) (dyn : GoMap DynamicTarget)
    (hperm : dyn.entries.Perm d.config.dynamicTargets.entries)
    (hnames : (d.survivingPairs.map fun p => baseTargetName p.2).Nodup) :
    ∃ m m', d.DiscoverTargets = some m ∧
      { d with config := { d.config with dynamicTargets := dyn } }.DiscoverTargets = some m' ∧
      (∀ n, m.lookup n = m'.lookup n) ∧
      ∀ n t, m.lookup n = some t ↔
        ∃ p ∈ d.survivingPairs, baseTargetName p.2 = n ∧ t = d.discoveredTarget p.1 p.2 := by
  set d' : DiscoveryService := { d with config := { d.config with dynamicTargets := dyn } }
  have hpairs : d'.survivingPairs.Perm d.survivingPairs := hperm.flatMap_right _
  have hnames' : (d'.survivingPairs.map fun p => baseTargetName p.2).Nodup :=
    (hpairs.map _).nodup_iff.mpr hnames
  have hlookup : ∀ {pairs : List (DynamicTarget × AccountInfo)} n t,
      (pairs.map fun p => baseTargetName p.2).Nodup →
      ((d.insertPairs ∅ pairs).lookup n = some t ↔
        ∃ p ∈ pairs, baseTargetName p.2 = n ∧ t = d.discoveredTarget p.1 p.2) := by
    intro pairs n t hnd
    simp [lookup_insertPairs hnd]
  refine ⟨_, _, DiscoverTargets_eq hnames, DiscoverTargets_eq hnames', fun n => ?_,
    fun n t => hlookup n t hnames⟩
  refine Option.ext fun t => ?_
  simp only [Option.mem_def]
  change _ ↔ (d.insertPairs ∅ d'.survivingPairs).lookup n = some t
  rw [hlookup n t hnames, hlookup n t hnames']
  exact exists_congr fun p => and_congr_left' hpairs.mem_iff.symm

end DiscoveryService

/-- The two account lists of `regionalConfig` returning different accounts. -/
def regionalService : DiscoveryService where
  config := regionalConfig
  discoverers := ⟨fun _ => some [], fun _ => some [], fun l =>
    if l.source = "ssm:/platform/us-east-1" then some [⟨"111111111111", "Dev"⟩]
    else some [⟨"222222222222", "Prod"⟩]⟩

theorem DiscoverTargets_of_distinct_names_regional :
    (regionalTargetsSwapped.entries.Perm regionalService.config.dynamicTargets.entries ∧
      (regionalService.survivingPairs.map fun p => baseTargetName p.2).Nodup) ∧
    ∃ m m', regionalService.DiscoverTargets = some m ∧
      ({ regionalService with
          config := { regionalService.config with dynamicTargets := regionalTargetsSwapped } }
        ).DiscoverTargets = some m' ∧
      (∀ n, m.lookup n = m'.lookup n) ∧
      ∀ n t, m.lookup n = some t ↔
        ∃ p ∈ regionalService.survivingPairs,
          baseTargetName p.2 = n ∧ t = regionalService.discoveredTarget p.1 p.2 :=
  have hperm : regionalTargetsSwapped.entries.Perm regionalService.config.dynamicTargets.entries :=
    List.Perm.swap _ _ _
  have hnames : (regionalService.survivingPairs.map fun p => baseTargetName p.2).Nodup := by
    decide
  ⟨⟨hperm, hnames⟩, DiscoveryService.DiscoverTargets_of_distinct_names _ _ hperm hnames⟩

/-! ### Expansion into the configuration -/

/-- Merging the discovered entries keeps every name a target already has and adds the first
discovered entry of each other name. -/
theorem lookup_addDiscovered (n : String) :
    ∀ (targets : GoMap Target) (es : List (Σ _ : String, Target)),
      (addDiscovered targets es).lookup n = (targets.lookup n).orElse fun _ => es.dlookup n
  | targets, [] => by
    show targets.lookup n = _
    cases targets.lookup n <;> rfl
  | targets, ⟨k, v⟩ :: es => by
    rw [addDiscovered, List.foldl_cons, ← addDiscovered, lookup_addDiscovered n]
    by_cases hmem : k ∈ targets
    · obtain ⟨t, ht⟩ := Option.isSome_iff_exists.mp (AList.lookup_isSome.mpr hmem)
      by_cases hn : n = k
      · subst hn; simp [hmem, ht]
      · simp [hmem, List.dlookup_cons_ne es ⟨k, v⟩ hn]
    · by_cases hn : n = k
      · subst hn; simp [hmem, AList.lookup_eq_none.mpr hmem]
      · simp [hmem, AList.lookup_insert_ne hn, List.dlookup_cons_ne es ⟨k, v⟩ hn]

/-- `ExpandDynamicTargets` succeeds exactly when discovery does, and then adds the discovered
targets to the static ones; the rest of the configuration is unchanged. -/
theorem ExpandDynamicTargets_eq_some (cfg cfg' : Config) (disc : Discoverers) :
    ExpandDynamicTargets cfg disc = some cfg' ↔
      ∃ m, (DiscoveryService.mk cfg disc).DiscoverTargets = some m ∧
        cfg' = { cfg with targets := addDiscovered cfg.targets m.entries } := by
  unfold ExpandDynamicTargets
  split
  · rename_i hnil
    have hd : (DiscoveryService.mk cfg disc).DiscoverTargets = some ∅ := by
      simp [DiscoveryService.DiscoverTargets, hnil]
    simp only [hd, Option.some.injEq, exists_eq_left']
    exact ⟨fun h => h ▸ rfl, fun h => h ▸ rfl⟩
  · rw [Option.map_eq_some']
    exact exists_congr fun m => and_congr_right' eq_comm

/-- Expansion can leave a configuration that `Validate` rejects, and a discovered target can
take the name of a source: discovered IDs and dynamic imports are never validated. -/
theorem ExpandDynamicTargets_invalidates :
    sandboxConfig.Validate = .ok () ∧
      (∃ c, ExpandDynamicTargets sandboxConfig (listDiscoverers [⟨"123", "analytics"⟩]) =
          some c ∧
        c.Validate =
          .error "target \"analytics\": invalid account_id format \"123\" (must be 12 digits)" ∧
        "analytics" ∈ c.sources ∧ "analytics" ∈ c.targets) ∧
      ∃ c, ExpandDynamicTargets sandboxConfig
          (listDiscoverers [⟨"111111111111", "Sandbox"⟩]) = some c ∧
        c.Validate =
          .error "target \"Sandbox\": import \"payments\" not found in sources or targets" :=
  ⟨rfl, ⟨_, rfl, rfl, by decide, by decide⟩, ⟨_, rfl, rfl⟩⟩

end VaultSecretSync
