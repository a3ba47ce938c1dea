import VaultSecretSync.Config
import VaultSecretSync.Utils.DeepMerge
import VaultSecretSync.Utils.Strings
import VaultSecretSync.Backend.File
import Mathlib.Data.List.Dedup

/-!
# Migrating a terraform secrets-manager pipeline

`vss migrate --from terraform-secretsmanager` reads a targets file, a secrets file and an
accounts file, and writes the pipeline configuration `migrateTerraformSecretManager` builds from
them:

* every secret becomes a Vault source, named by `sanitizeSourceName` of the secret's name, with
  the secret's mount (`secret` by default) and its path;
* every target with an account becomes a target of that account, importing the sanitized names
  of the secrets it lists and then the targets it inherits from; a target with no account is
  skipped.

The file reads and `yaml.Unmarshal` are oracles (`readFile`, `TerraformDecoder`); the YAML
output and its write are left out, so the model returns the configuration written, which is
`migratedConfig` of the three loaded files (`migrateTerraformSecretManager_eq_ok`).

The source map is keyed by sanitized names, and a later secret replaces an earlier one of the
same sanitized name (`lookup_migrateSources`). So the migration has one source per secret
exactly when the sanitized names are distinct (`length_migrateSources`), and then every import a
target derives from a secret it lists denotes that secret's source (`migratedConfig_imports`). The
configuration passes `Config.Validate` exactly when its targets' account IDs and imports do
(`Validate_migratedConfig`).
`sanitizeSourceName` is not injective: it folds case, maps `/` and `-` to `_`, and drops a dotted
suffix, so `Db/Prod.yaml`, `db-prod` and `db_prod` all become `db_prod`.
-/

namespace VaultSecretSync

/-- A target of the terraform targets file; its description is read by no modelled function. -/
structure TerraformTarget where
  name : String
  imports : List String
  secrets : List String
  deriving DecidableEq, Repr

/-- A secret of the terraform secrets file; its keys and transforms are not carried over. -/
structure TerraformSecret where
  name : String
  vaultPath : String
  vaultMount : String
  deriving DecidableEq, Repr

/-- An account of the terraform accounts file. -/
structure TerraformAccount where
  name : String
  accountID : String
  region : String
  roleARN : String
  deriving DecidableEq, Repr

/-- What `yaml.Unmarshal` makes of a file's text in each shape the loaders try: the file's
document (its list field), a bare list, and for the accounts a map from names to accounts, or
the decoder's error. -/
structure TerraformDecoder where
  targetsFile : String → Except String (List TerraformTarget)
  targetList : String → Except String (List TerraformTarget)
  secretsFile : String → Except String (List TerraformSecret)
  secretList : String → Except String (List TerraformSecret)
  accountsFile : String → Except String (List TerraformAccount)
  accountMap : String → Except String (GoMap TerraformAccount)
  accountList : String → Except String (List TerraformAccount)

/-- The flags of `vss migrate` that `migrateTerraformSecretManager` reads. -/
structure MigrateFlags where
  targetsFile : String
  secretsFile : String
  accountsFile : String
  vaultAddr : String
  vaultMergeMount : String
  deriving DecidableEq, Repr

namespace Migrate

/-! ### Loading the files -/

/-- The fallback of `loadTerraformTargets` and `loadTerraformSecrets`: the file's document, else
a bare list, else the first decoding error. -/
def parseWithFallback {α : Type} (what : String) (asFile asList : String → Except String (List α))
    (data : String) : Except String (List α) :=
  match asFile data with
  | .ok xs => .ok xs
  | .error err =>
    match asList data with
    | .ok xs => .ok xs
    | .error _ => .error ("failed to parse " ++ what ++ ": " ++ err)

/-- `loadTerraformTargets`. -/
def loadTerraformTargets (readFile : String → Except String String) (dec : TerraformDecoder)
    (path : String) : Except String (List TerraformTarget) :=
  readFile path >>= parseWithFallback "targets" dec.targetsFile dec.targetList

/-- `loadTerraformSecrets`. -/
def loadTerraformSecrets (readFile : String → Except String String) (dec : TerraformDecoder)
    (path : String) : Except String (List TerraformSecret) :=
  readFile path >>= parseWithFallback "secrets" dec.secretsFile dec.secretList

/-- `loadTerraformAccounts`: the file's document, else a map from names, each account named by
its key, in map iteration order, else a bare list, else the first decoding error. -/
def loadTerraformAccounts (readFile : String → Except String String) (dec : TerraformDecoder)
    (path : String) : Except String (List TerraformAccount) :=
  readFile path >>= fun data =>
    match dec.accountsFile data with
    | .ok accounts => .ok accounts
    | .error err =>
      match dec.accountMap data with
      | .ok m => .ok (m.entries.map fun e => { e.2 with name := e.1 })
      | .error _ =>
        match dec.accountList data with
        | .ok accounts => .ok accounts
        | .error _ => .error ("failed to parse accounts: " ++ err)

/-! ### Building the configuration -/

/-- `sanitizeSourceName`: lower case, `/` and `-` replaced by `_`, and the extension
`filepath.Ext` finds cut off. -/
def sanitizeSourceName (name : String) : String :=
  let name := Strings.ToLower name
  let name := Strings.ReplaceAll name "/" "_"
  let name := Strings.ReplaceAll name "-" "_"
  Strings.TrimSuffix name (Filepath.Ext name)

example : sanitizeSourceName "Db/Prod.yaml" = sanitizeSourceName "db-prod" := by decide

/-- The source built from a secret: its Vault mount, `secret` when none is given, and its
path. -/
def secretSource (sec : TerraformSecret) : Source :=
  ⟨some ⟨if sec.vaultMount = "" then "secret" else sec.vaultMount, [sec.vaultPath]⟩⟩

/-- One iteration of the secrets loop: `cfg.Sources[sourceName] = source`. -/
def insertSource (sources : GoMap Source) (sec : TerraformSecret) : GoMap Source :=
  sources.insert (sanitizeSourceName sec.name) (secretSource sec)

/-- The loop converting the secrets to sources, in file order. -/
def migrateSources (secrets : List TerraformSecret) : GoMap Source :=
  secrets.foldl insertSource ∅

/-- The account lookup map: a later account of the same name replaces an earlier one. -/
def accountMap (accounts : List TerraformAccount) : GoMap TerraformAccount :=
  accounts.foldl (fun m acc => m.insert acc.name acc) ∅

/-- The target built from a terraform target and its account: the sanitized names of the
secrets it lists, then the targets it inherits from. -/
def migrateTarget (target : TerraformTarget) (account : TerraformAccount) : Target :=
  ⟨account.accountID, target.secrets.map sanitizeSourceName ++ target.imports, account.region, "",
    account.roleARN⟩

/-- One iteration of the targets loop: a target with no account is skipped (with a warning),
any other is written under its name. -/
def insertTarget (accounts : GoMap TerraformAccount) (cfgTargets : GoMap Target)
    (target : TerraformTarget) : GoMap Target :=
  match accounts.lookup target.name with
  | none => cfgTargets
  | some account => cfgTargets.insert target.name (migrateTarget target account)

/-- The loop converting the targets, in file order. -/
def migrateTargets (accounts : GoMap TerraformAccount) (targets : List TerraformTarget) :
    GoMap Target :=
  targets.foldl (insertTarget accounts) ∅

/-- `getVaultAddr`: the flag, else `VAULT_ADDR`, else a placeholder address. -/
def getVaultAddr (vaultAddr : String) (getenv : String → String) : String :=
  if vaultAddr ≠ "" then vaultAddr
  else if getenv "VAULT_ADDR" ≠ "" then getenv "VAULT_ADDR"
  else "https://vault.example.com"

/-- The migrated Vault address is never empty. -/
theorem getVaultAddr_ne_empty (vaultAddr : String) (getenv : String → String) :
    getVaultAddr vaultAddr getenv ≠ "" := by
  unfold getVaultAddr
  split_ifs with h₁ h₂
  exacts [h₁, h₂, by decide]

/-- The configuration `migrateTerraformSecretManager` writes for the loaded files. -/
def migratedConfig (flags : MigrateFlags) (getenv : String → String)
    (targets : List TerraformTarget) (secrets : List TerraformSecret)
    (accounts : List TerraformAccount) : Config where
  vault := ⟨getVaultAddr flags.vaultAddr getenv⟩
  aws := ⟨"us-east-1", ⟨""⟩, ⟨true, ⟨"AWSControlTowerExecution", ""⟩⟩⟩
  sources := migrateSources secrets
  mergeStore := ⟨some ⟨flags.vaultMergeMount⟩, none⟩
  targets := migrateTargets (accountMap accounts) targets
  dynamicTargets := ∅

/-- `migrateTerraformSecretManager`: the configuration it writes, or its error. -/
def migrateTerraformSecretManager (flags : MigrateFlags) (readFile : String → Except String String)
    (dec : TerraformDecoder) (getenv : String → String) : Except String Config :=
  if flags.targetsFile = "" then
    .error "--targets is required for terraform-secretsmanager migration"
  else if flags.secretsFile = "" then
    .error "--secrets is required for terraform-secretsmanager migration"
  else if flags.accountsFile = "" then
    .error "--accounts is required for terraform-secretsmanager migration"
  else do
    let targets ← (loadTerraformTargets readFile dec flags.targetsFile).mapError
      ("failed to load targets: " ++ ·)
    let secrets ← (loadTerraformSecrets readFile dec flags.secretsFile).mapError
      ("failed to load secrets: " ++ ·)
    let accounts ← (loadTerraformAccounts readFile dec flags.accountsFile).mapError
      ("failed to load accounts: " ++ ·)
    .ok (migratedConfig flags getenv targets secrets accounts)

/-- `runMigrate`: the migration of the `--from` format, the only one supported being
`terraform-secretsmanager`. -/
def runMigrate (migrateFrom : String) (flags : MigrateFlags)
    (readFile : String → Except String String) (dec : TerraformDecoder)
    (getenv : String → String) : Except String Config :=
  if migrateFrom = "terraform-secretsmanager" then
    migrateTerraformSecretManager flags readFile dec getenv
  else .error ("unsupported migration source: " ++ migrateFrom)

/-- The migration writes a configuration exactly when the three file flags are set and the three
files load, and then it writes `migratedConfig` of what they hold. -/
theorem migrateTerraformSecretManager_eq_ok {flags : MigrateFlags}
    {readFile : String → Except String String} {dec : TerraformDecoder}
    {getenv : String → String} {cfg : Config} :
    migrateTerraformSecretManager flags readFile dec getenv = .ok cfg ↔
      flags.targetsFile ≠ "" ∧ flags.secretsFile ≠ "" ∧ flags.accountsFile ≠ "" ∧
      ∃ targets secrets accounts,
        loadTerraformTargets readFile dec flags.targetsFile = .ok targets ∧
        loadTerraformSecrets readFile dec flags.secretsFile = .ok secrets ∧
        loadTerraformAccounts readFile dec flags.accountsFile = .ok accounts ∧
        cfg = migratedConfig flags getenv targets secrets accounts := by
  unfold migrateTerraformSecretManager
  split_ifs with h₁ h₂ h₃
  · simp [h₁]
  · simp [h₁, h₂]
  · simp [h₁, h₂, h₃]
  · cases loadTerraformTargets readFile dec flags.targetsFile <;>
    cases loadTerraformSecrets readFile dec flags.secretsFile <;>
    cases loadTerraformAccounts readFile dec flags.accountsFile <;>
    simp [h₁, h₂, h₃, Except.mapError, bind, Except.bind, eq_comm]

/-! ### The sources and targets written -/

/-- A sanitized name holds the source of the last secret with that sanitized name. -/
theorem lookup_migrateSources (secrets : List TerraformSecret) (n : String) :
    (migrateSources secrets).lookup n =
      (secrets.map fun sec => (sanitizeSourceName sec.name, secretSource sec)).reverse.lookup n := by
  rw [migrateSources, lookup_foldl_insertSome
    (some ∘ fun sec => (sanitizeSourceName sec.name, secretSource sec)) insertSource
    (fun _ _ => by simp only [insertSource, Function.comp]),
    AList.lookup_empty, Option.or_none, List.filterMap_eq_map]

/-- A name holds the target built from the last target of that name that has an account. -/
theorem lookup_migrateTargets (accounts : GoMap TerraformAccount)
    (targets : List TerraformTarget) (n : String) :
    (migrateTargets accounts targets).lookup n =
      (targets.filterMap fun t =>
        (accounts.lookup t.name).map fun acc => (t.name, migrateTarget t acc)).reverse.lookup n := by
  rw [migrateTargets, lookup_foldl_insertSome
    (fun t => (accounts.lookup t.name).map fun acc => (t.name, migrateTarget t acc)) _
    (fun m t => by unfold insertTarget; cases h : accounts.lookup t.name <;> simp [h]),
    AList.lookup_empty, Option.or_none]

theorem mem_migrateSources {secrets : List TerraformSecret} {n : String} :
    n ∈ migrateSources secrets ↔ ∃ sec ∈ secrets, sanitizeSourceName sec.name = n := by
  rw [← AList.lookup_isSome, lookup_migrateSources, List.lookup_isSome_iff]
  simp only [List.mem_reverse, List.mem_map, beq_iff_eq, exists_exists_and_eq_and]
  exact exists_congr fun _ => and_congr_right fun _ => eq_comm

/-- **One source per secret** exactly when the sanitized names of the secrets are distinct. -/
theorem length_migrateSources (secrets : List TerraformSecret) :
    (migrateSources secrets).entries.length = secrets.length ↔
      (secrets.map fun sec => sanitizeSourceName sec.name).Nodup := by
  have hperm : (migrateSources secrets).keys.Perm
      (secrets.map fun sec => sanitizeSourceName sec.name).dedup :=
    (List.perm_ext_iff_of_nodup (AList.keys_nodup _) (List.nodup_dedup _)).mpr fun n => by
      rw [List.mem_dedup, List.mem_map]
      exact mem_migrateSources
  rw [← List.length_map _ Sigma.fst, show (migrateSources secrets).entries.map Sigma.fst =
      (migrateSources secrets).keys from rfl, hperm.length_eq, ← List.dedup_eq_self,
    ← (List.dedup_sublist _).length_eq, List.length_map]

/-- With distinct sanitized names, the source named after a secret is the one built from it. -/
theorem lookup_migrateSources_of_nodup {secrets : List TerraformSecret} {sec : TerraformSecret}
    (hnd : (secrets.map fun sec => sanitizeSourceName sec.name).Nodup) (hsec : sec ∈ secrets) :
    (migrateSources secrets).lookup (sanitizeSourceName sec.name) = some (secretSource sec) := by
  rw [lookup_migrateSources]
  refine lookup_of_mem ?_ (List.mem_reverse.mpr (List.mem_map_of_mem _ hsec))
  simpa only [List.map_reverse, List.nodup_reverse, List.map_map, Function.comp_def] using hnd

/-- Every target written comes from a terraform target of its name with an account. -/
theorem exists_of_lookup_migrateTargets {accounts : GoMap TerraformAccount}
    {targets : List TerraformTarget} {n : String} {pt : Target}
    (h : (migrateTargets accounts targets).lookup n = some pt) :
    ∃ t ∈ targets, t.name = n ∧ ∃ acc, accounts.lookup t.name = some acc ∧
      pt = migrateTarget t acc := by
  rw [lookup_migrateTargets] at h
  obtain ⟨t, ht, hf⟩ := List.mem_filterMap.mp (List.mem_reverse.mp (mem_of_lookup_eq_some h))
  obtain ⟨acc, hacc, he⟩ := Option.map_eq_some'.mp hf
  cases he
  exact ⟨t, ht, rfl, acc, hacc, rfl⟩

/-- **Imports keep their meaning** when the sanitized names of the secrets are distinct: the
migration writes one source per secret, and every import a written target derives from a secret
it lists names the source built from that secret, with its mount and its path. -/
theorem migratedConfig_imports (flags : MigrateFlags) (getenv : String → String)
    (targets : List TerraformTarget) (secrets : List TerraformSecret)
    (accounts : List TerraformAccount)
    (hnd : (secrets.map fun sec => sanitizeSourceName sec.name).Nodup) :
    (migratedConfig flags getenv targets secrets accounts).sources.entries.length =
      secrets.length ∧
    ∀ n pt, (migratedConfig flags getenv targets secrets accounts).targets.lookup n = some pt →
      ∃ t ∈ targets, t.name = n ∧ ∀ sec ∈ secrets, sec.name ∈ t.secrets →
        sanitizeSourceName sec.name ∈ pt.imports ∧
        (migratedConfig flags getenv targets secrets accounts).sources.lookup
          (sanitizeSourceName sec.name) = some (secretSource sec) := by
  refine ⟨(length_migrateSources secrets).mpr hnd, fun n pt h => ?_⟩
  obtain ⟨t, ht, rfl, acc, -, rfl⟩ := exists_of_lookup_migrateTargets h
  exact ⟨t, ht, rfl, fun sec hsec hname =>
    ⟨List.mem_append_left _ (List.mem_map_of_mem _ hname), lookup_migrateSources_of_nodup hnd hsec⟩⟩

/-- **Validation of the migration.** The configuration the migration writes passes
`Config.Validate` exactly when some target has an account, and every target written has a
twelve-digit account ID and imports only written sources and targets: its address, merge store
and dynamic targets always pass. -/
theorem Validate_migratedConfig (flags : MigrateFlags) (getenv : String → String)
    (targets : List TerraformTarget) (secrets : List TerraformSecret)
    (accounts : List TerraformAccount) :
    (migratedConfig flags getenv targets secrets accounts).Validate = .ok () ↔
      (migrateTargets (accountMap accounts) targets).entries ≠ [] ∧
      ∀ e ∈ (migrateTargets (accountMap accounts) targets).entries,
        Config.isValidAWSAccountID e.2.accountID ∧ ∀ imp ∈ e.2.imports,
          imp ∈ migrateSources secrets ∨ imp ∈ migrateTargets (accountMap accounts) targets := by
  rw [Config.Validate_eq_ok]
  simp only [migratedConfig, Config.validateTarget_eq_ok]
  simp [getVaultAddr_ne_empty]

/-! ### Secret names that sanitize alike -/

/-- Two secrets whose names differ only in `-` against `_`. -/
def collidingSecrets : List TerraformSecret :=
  [⟨"db-prod", "database/prod", ""⟩, ⟨"db_prod", "database/staging", ""⟩]

/-- A target listing the first of them. -/
def apiTargets : List TerraformTarget := [⟨"api", [], ["db-prod"]⟩]

/-- The account of that target. -/
def apiAccounts : List TerraformAccount := [⟨"api", "111111111111", "us-east-1", ""⟩]

/-- The secrets `db-prod` and `db_prod` have distinct names and the target has an account, yet
the migration writes one source for the two secrets, and the import the target derives from
`db-prod` names the source built from `db_prod`, with its path `database/staging`. -/
theorem migratedConfig_name_collision (flags : MigrateFlags) (getenv : String → String) :
    collidingSecrets.Pairwise (fun a b => a.name ≠ b.name) ∧
    (∀ t ∈ apiTargets, ∃ acc ∈ apiAccounts, acc.name = t.name) ∧
    (migratedConfig flags getenv apiTargets collidingSecrets apiAccounts).sources.entries.length =
      1 ∧
    (migratedConfig flags getenv apiTargets collidingSecrets apiAccounts).targets.lookup "api" =
      some ⟨"111111111111", ["db_prod"], "us-east-1", "", ""⟩ ∧
    (migratedConfig flags getenv apiTargets collidingSecrets apiAccounts).sources.lookup
      "db_prod" = some ⟨some ⟨"secret", ["database/staging"]⟩⟩ :=
  ⟨by decide, by decide, rfl, rfl, rfl⟩

end Migrate

end VaultSecretSync
