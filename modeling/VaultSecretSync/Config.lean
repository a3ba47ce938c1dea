import Mathlib.Data.List.AList
import VaultSecretSync.Utils.Unicode

/-!
# The pipeline configuration

`Config` is the declarative pipeline document: its sources, its merge store, its static and
dynamic targets, and the AWS settings the role resolvers read. Go maps are modelled by `GoMap`,
an association list with distinct keys whose `entries` are the order in which `range` visits
the map, so a statement over every `GoMap` holds for every iteration order.

* `Config.Validate` runs the checks of the source in its order and returns the first error,
  with the source's text; `Validate_eq_ok` says which configurations pass them all.
* `Config.GetRoleARN` resolves the role assumed for an account: the explicit role of a target
  of that account, then the Control Tower pattern, then the custom pattern, then a default.
* `Config.GetSourcePath` resolves an import name: a Vault source's mount, then the merge-store
  path of a target, then the name itself.

Only the fields some modelled function reads are kept; the logging, authentication, Identity
Center and Organizations settings and the pipeline tuning knobs are left out.
-/

namespace VaultSecretSync

/-- A Go `map[string]V`: distinct keys, iterated in the order of `entries`. -/
abbrev GoMap (V : Type) := AList (fun _ : String => V)

/-- The last `k` hexadecimal digits of `n`, most significant first, in lower case as
`strconv`'s `lowerhex`. -/
def lowerHex (n : Nat) : Nat → List Char
  | 0 => []
  | k + 1 => lowerHex (n / 16) k ++ [Nat.digitChar (n % 16)]

/-- `appendEscapedRune` of `strconv.Quote`: a rune as `%q` writes it between its quotes. The
quote and the backslash are backslashed, a printable rune is kept, the seven control characters
Go names are written `\a` to `\v`, the other ones below a space and DEL as `\x` and two hex
digits, and any other rune as `\u` and four or `\U` and eight. -/
def escapeRune (r : Char) : List Char :=
  if r = '"' ∨ r = '\\' then ['\\', r]
  else if Unicode.IsPrint r then [r]
  else
    match r with
    | '\x07' => ['\\', 'a']
    | '\x08' => ['\\', 'b']
    | '\x0c' => ['\\', 'f']
    | '\n' => ['\\', 'n']
    | '\r' => ['\\', 'r']
    | '\t' => ['\\', 't']
    | '\x0b' => ['\\', 'v']
    | _ =>
      if r.toNat < 0x20 ∨ r.toNat = 0x7F then '\\' :: 'x' :: lowerHex r.toNat 2
      else if r.toNat < 0x10000 then '\\' :: 'u' :: lowerHex r.toNat 4
      else '\\' :: 'U' :: lowerHex r.toNat 8

/-- Go's `%q` verb on a string, `strconv.Quote`: the string between double quotes, each rune
written by `escapeRune`. -/
def goQuote (s : String) : String := ⟨'"' :: s.data.flatMap escapeRune ++ ['"']⟩

/-- A quote, a tab, an escape character, a no-break space and a plain letter. -/
example : goQuote "a\"\t\x1b\u00A0é" = "\"a\\\"\\t\\x1b\\u00a0é\"" := by decide

/-- A Vault KV2 mount secrets are imported from, and the paths under it; the source's own
address and namespace are read by no modelled function. -/
structure VaultSource where
  mount : String
  paths : List String
  deriving DecidableEq, Repr

/-- A named source; only its Vault source is modelled. -/
structure Source where
  vault : Option VaultSource
  deriving DecidableEq, Repr

/-- A static sync destination: an account, the imports merged into it, and its options. -/
structure Target where
  accountID : String
  imports : List String
  region : String
  secretPrefix : String
  roleARN : String
  deriving DecidableEq, Repr

/-- Discovery from an Identity Center group or permission set. -/
structure IdentityCenterDiscovery where
  group : String
  permissionSet : String
  deriving DecidableEq, Repr

/-- Discovery from an Organizations OU. -/
structure OrganizationsDiscovery where
  ou : String
  recursive : Bool
  deriving DecidableEq, Repr

/-- Discovery from an external account list such as `ssm:<parameter>`. -/
structure AccountsListDiscovery where
  source : String
  deriving DecidableEq, Repr

/-- The discoverers a dynamic target enables; a missing one is Go's `nil`. -/
structure DiscoveryConfig where
  identityCenter : Option IdentityCenterDiscovery
  organizations : Option OrganizationsDiscovery
  accountsList : Option AccountsListDiscovery
  deriving DecidableEq, Repr

/-- A target template expanded at run time into one target per discovered account. -/
structure DynamicTarget where
  discovery : DiscoveryConfig
  imports : List String
  exclude : List String
  region : String
  secretPrefix : String
  roleARN : String
  deriving DecidableEq, Repr

/-- The Vault merge store. -/
structure MergeStoreVault where
  mount : String
  deriving DecidableEq, Repr

/-- The S3 merge store: its bucket and key prefix. -/
structure MergeStoreS3 where
  bucket : String
  keyPrefix : String
  deriving DecidableEq, Repr

/-- Exactly one of these is meant to be set. -/
structure MergeStoreConfig where
  vault : Option MergeStoreVault
  s3 : Option MergeStoreS3
  deriving DecidableEq, Repr

/-- The Control Tower execution role. -/
structure ExecutionRoleConfig where
  name : String
  path : String
  deriving DecidableEq, Repr

/-- Control Tower integration. -/
structure ControlTowerConfig where
  enabled : Bool
  executionRole : ExecutionRoleConfig
  deriving DecidableEq, Repr

/-- Where the pipeline runs from; only the custom role pattern is read. -/
structure ExecutionContextConfig where
  customRolePattern : String
  deriving DecidableEq, Repr

/-- The AWS settings read by the role resolvers and by discovery. -/
structure AWSConfig where
  region : String
  executionContext : ExecutionContextConfig
  controlTower : ControlTowerConfig
  deriving DecidableEq, Repr

/-- The Vault connection; only its address is checked. Its namespace, which the pipeline copies
into the Vault clients of the syncs it registers, is read back by no modelled function and is
left out. -/
structure VaultConfig where
  address : String
  deriving DecidableEq, Repr

/-- The unified pipeline configuration. -/
structure Config where
  vault : VaultConfig
  aws : AWSConfig
  sources : GoMap Source
  mergeStore : MergeStoreConfig
  targets : GoMap Target
  dynamicTargets : GoMap DynamicTarget

/-! ### Maps built by a loop -/

/-- After a loop whose step writes the entry `f x` when there is one (`m[k] = v`), a key holds
the value of the last entry written to it, or else what it held before. -/
theorem lookup_foldl_insertSome {α V : Type} (f : α → Option (String × V))
    (step : GoMap V → α → GoMap V)
    (hstep : ∀ m x, step m x = match f x with | some p => m.insert p.1 p.2 | none => m)
    (n : String) : ∀ (l : List α) (m : GoMap V),
      (l.foldl step m).lookup n = ((l.filterMap f).reverse.lookup n).or (m.lookup n)
  | [], m => rfl
  | x :: l, m => by
    rw [List.foldl_cons, lookup_foldl_insertSome f step hstep n l, List.filterMap_cons, hstep]
    cases f x with
    | none => rfl
    | some p =>
      obtain ⟨k, v⟩ := p
      simp only [List.reverse_cons, List.lookup_append, Option.or_assoc]
      by_cases hn : n = k
      · subst hn; simp
      · simp [List.lookup_cons, beq_false_of_ne hn, AList.lookup_insert_ne hn]

/-! ### Checks in sequence -/

/-- Two checks in sequence succeed exactly when both do. -/
theorem bind_eq_ok {x y : Except String Unit} :
    (x >>= fun _ => y) = .ok () ↔ x = .ok () ∧ y = .ok () := by
  cases x <;> simp [bind, Except.bind]

/-- A loop of checks succeeds exactly when every check does. -/
theorem forM_eq_ok {α : Type} (f : α → Except String Unit) :
    ∀ l : List α, l.forM f = .ok () ↔ ∀ x ∈ l, f x = .ok ()
  | [] => by simp [List.forM, pure, Except.pure]
  | x :: l => by
    show (f x >>= fun _ => l.forM f) = .ok () ↔ _
    rw [bind_eq_ok, forM_eq_ok f l, List.forall_mem_cons]

theorem isSome_iff_not_isNone {α : Type} (o : Option α) : o.isSome = true ↔ ¬o.isNone = true := by
  cases o <;> simp

namespace Config

/-! ### Validation -/

/-- The template placeholder `{{.AccountID}}` of role patterns. -/
def accountIDPlaceholder : String := "\x7b\x7b.AccountID\x7d\x7d"

/-- An AWS account ID is exactly twelve bytes, each a decimal digit. -/
def isValidAWSAccountID (accountID : String) : Bool :=
  accountID.utf8ByteSize == 12 && accountID.data.all fun c => '0' ≤ c && c ≤ '9'

/-- The checks `Validate` makes on one static target, in the source's order. -/
def validateTarget (c : Config) (name : String) (target : Target) : Except String Unit :=
  if target.accountID = "" then
    .error ("target " ++ goQuote name ++ ": account_id is required")
  else if !isValidAWSAccountID target.accountID then
    .error ("target " ++ goQuote name ++ ": invalid account_id format " ++
      goQuote target.accountID ++ " (must be 12 digits)")
  else
    target.imports.forM fun imp =>
      if imp ∉ c.sources ∧ imp ∉ c.targets then
        .error ("target " ++ goQuote name ++ ": import " ++ goQuote imp ++
          " not found in sources or targets")
      else .ok ()

/-- The check `Validate` makes on one dynamic target. -/
def validateDynamicTarget (name : String) (dt : DynamicTarget) : Except String Unit :=
  if dt.discovery.identityCenter.isNone ∧ dt.discovery.organizations.isNone ∧
      dt.discovery.accountsList.isNone then
    .error ("dynamic_target " ++ goQuote name ++
      ": must specify identity_center, organizations, or accounts_list discovery")
  else .ok ()

/-- `Config.Validate`: the first failing check, in the order the source makes them; the
targets and dynamic targets are checked in map iteration order. -/
def Validate (c : Config) : Except String Unit :=
  if c.vault.address = "" then .error "vault.address is required"
  else if c.mergeStore.vault.isNone ∧ c.mergeStore.s3.isNone then
    .error "merge_store must specify either vault or s3"
  else if c.mergeStore.s3.any (·.bucket = "") then .error "merge_store.s3.bucket is required"
  else if c.targets.entries = [] ∧ c.dynamicTargets.entries = [] then
    .error "at least one target or dynamic_target is required"
  else do
    c.targets.entries.forM fun e => c.validateTarget e.1 e.2
    c.dynamicTargets.entries.forM fun e => validateDynamicTarget e.1 e.2

/-- A target passes its checks exactly when its account ID is twelve digits and each of its
imports names a source or a target. -/
theorem validateTarget_eq_ok (c : Config) (name : String) (t : Target) :
    c.validateTarget name t = .ok () ↔
      isValidAWSAccountID t.accountID ∧ ∀ imp ∈ t.imports, imp ∈ c.sources ∨ imp ∈ c.targets := by
  unfold validateTarget
  have hempty : isValidAWSAccountID "" = false := by decide
  by_cases he : t.accountID = ""
  · simp [he, hempty]
  · by_cases hv : isValidAWSAccountID t.accountID
    · simp only [he, hv, Bool.not_true, Bool.false_eq_true, ↓reduceIte, true_and, forM_eq_ok]
      refine forall₂_congr fun imp _ => ?_
      by_cases hs : imp ∈ c.sources <;> simp [hs]
    · simp [he, hv]

/-- A dynamic target passes its check exactly when it enables some discovery. -/
theorem validateDynamicTarget_eq_ok (name : String) (dt : DynamicTarget) :
    validateDynamicTarget name dt = .ok () ↔
      dt.discovery.identityCenter.isSome ∨ dt.discovery.organizations.isSome ∨
        dt.discovery.accountsList.isSome := by
  unfold validateDynamicTarget
  split_ifs with h
  · simp [h]
  · simp only [true_iff]
    simpa only [not_and_or, ← isSome_iff_not_isNone] using h

/-- **What `Validate` accepts**: a Vault address, a merge store, a named bucket for an S3 merge
store, some target, and targets and dynamic targets that pass their own checks. -/
theorem Validate_eq_ok (c : Config) : c.Validate = .ok () ↔
    c.vault.address ≠ "" ∧ (c.mergeStore.vault.isSome ∨ c.mergeStore.s3.isSome) ∧
    (∀ s3 ∈ c.mergeStore.s3, s3.bucket ≠ "") ∧
    (c.targets.entries ≠ [] ∨ c.dynamicTargets.entries ≠ []) ∧
    (∀ e ∈ c.targets.entries, c.validateTarget e.1 e.2 = .ok ()) ∧
    ∀ e ∈ c.dynamicTargets.entries, validateDynamicTarget e.1 e.2 = .ok () := by
  have hb : (∀ s3 ∈ c.mergeStore.s3, s3.bucket ≠ "") ↔ ¬c.mergeStore.s3.any (·.bucket = "") := by
    cases c.mergeStore.s3 <;> simp
  unfold Validate
  rw [hb]
  split_ifs with h1 h2 h3 h4
  · simp [h1]
  · simp_all
  · simp [h3]
  · simp_all [not_and_or]
  · rw [bind_eq_ok, forM_eq_ok, forM_eq_ok]
    simp only [not_and_or, ← isSome_iff_not_isNone] at h2
    simp only [not_and_or] at h4
    exact ⟨fun h => ⟨h1, h2, h3, h4, h⟩, fun h => h.2.2.2.2⟩

/-! ### Role and path resolution -/

/-- The Control Tower role path in leading-and-trailing-slash form, as `Config.GetRoleARN`
normalises it. -/
def controlTowerPath (path : String) : String :=
  if path = "" then "/"
  else
    let path := if path.startsWith "/" then path else "/" ++ path
    if path.endsWith "/" then path else path ++ "/"

/-- The Control Tower role name, defaulted when empty. -/
def controlTowerRoleName (name : String) : String :=
  if name = "" then "AWSControlTowerExecution" else name

/-- `Config.GetRoleARN`: the non-empty role of the first target (in map order) of the account,
else the Control Tower role, else the custom pattern, else the default Control Tower role. -/
def GetRoleARN (c : Config) (accountID : String) : String :=
  match c.targets.entries.find? fun e => e.2.accountID = accountID ∧ e.2.roleARN ≠ "" with
  | some e => e.2.roleARN
  | none =>
    if c.aws.controlTower.enabled then
      "arn:aws:iam::" ++ accountID ++ ":role" ++
        controlTowerPath c.aws.controlTower.executionRole.path ++
        controlTowerRoleName c.aws.controlTower.executionRole.name
    else if c.aws.executionContext.customRolePattern ≠ "" then
      c.aws.executionContext.customRolePattern.replace accountIDPlaceholder accountID
    else "arn:aws:iam::" ++ accountID ++ ":role/AWSControlTowerExecution"

/-- `Config.GetSourcePath`: a Vault source's mount, else the merge-store path of a target when
the merge store is Vault, else the import name itself. -/
def GetSourcePath (c : Config) (importName : String) : String :=
  match c.sources.lookup importName with
  | some { vault := some v } => v.mount
  | _ =>
    match c.targets.lookup importName, c.mergeStore.vault with
    | some _, some mv => mv.mount ++ "/" ++ importName
    | _, _ => importName

/-- `GetSourcePath` takes its inherited-target branch: the name is no source with a Vault mount,
it is a target, and the merge store is Vault. -/
def InheritedImport (c : Config) (importName : String) : Prop :=
  (c.sources.lookup importName).bind (·.vault) = none ∧ importName ∈ c.targets ∧
    c.mergeStore.vault.isSome

instance (c : Config) : DecidablePred c.InheritedImport := fun _ =>
  inferInstanceAs (Decidable (_ ∧ _ ∧ _))

/-- Through its inherited-target branch `GetSourcePath` returns the merge-store path. -/
theorem GetSourcePath_of_inheritedImport {c : Config} {importName : String}
    {mv : MergeStoreVault} (hmv : c.mergeStore.vault = some mv) (h : c.InheritedImport importName) :
    c.GetSourcePath importName = mv.mount ++ "/" ++ importName := by
  obtain ⟨hs, hi, -⟩ := h
  obtain ⟨t, ht⟩ := Option.isSome_iff_exists.1 (AList.lookup_isSome.2 hi)
  unfold GetSourcePath
  rcases hl : c.sources.lookup importName with _ | ⟨_ | v⟩
  all_goals simp_all

end Config

end VaultSecretSync
