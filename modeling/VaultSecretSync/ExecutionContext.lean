import VaultSecretSync.Pipeline.Steps

/-!
# Role resolution

Two functions of the source resolve the role assumed in a target account. The execution
context's `AWSExecutionContext.GetRoleARN` assumes no role in the caller's own account, and
otherwise takes the custom role pattern, then the Control Tower role, then
`OrganizationAccountAccessRole`. The configuration's `Config.GetRoleARN`, which the sync phase
calls, first takes the explicit role of any target of the account, then the Control Tower
role, then the custom pattern, then `AWSControlTowerExecution`.

`GetRoleARN_eq_of_agree` says where the two agree: for an account that is not the caller's,
that no target gives an explicit role, and when exactly one of the Control Tower role and the
custom pattern is configured. Both normalise the Control Tower path alike
(`executionRolePath_eq`). Outside these conditions they part: `GetRoleARN_diverges` shows a
valid configuration where the sync phase assumes another target's role, and one where it falls
back to a role the execution context would not choose.
-/

namespace VaultSecretSync

/-- The execution context as role resolution reads it: the AWS settings and the caller's
account. -/
structure AWSExecutionContext where
  config : AWSConfig
  callerAccountID : String

/-- The Control Tower role path as `AWSExecutionContext.GetRoleARN` normalises it: a leading and
a trailing slash added to a non-empty path, and `/` for an empty one. -/
def executionRolePath (path : String) : String :=
  let path := if path ≠ "" ∧ !path.startsWith "/" then "/" ++ path else path
  let path := if path ≠ "" ∧ !path.endsWith "/" then path ++ "/" else path
  if path = "" then "/" else path

/-- `AWSExecutionContext.GetRoleARN`: no role for the caller's own account, else the custom
pattern with the account ID put in, else the Control Tower role, else the role Organizations
creates. -/
def AWSExecutionContext.GetRoleARN (ec : AWSExecutionContext) (accountID : String) : String :=
  if accountID = ec.callerAccountID then ""
  else if ec.config.executionContext.customRolePattern ≠ "" then
    ec.config.executionContext.customRolePattern.replace Config.accountIDPlaceholder accountID
  else if ec.config.controlTower.enabled then
    "arn:aws:iam::" ++ accountID ++ ":role" ++
      executionRolePath ec.config.controlTower.executionRole.path ++
      Config.controlTowerRoleName ec.config.controlTower.executionRole.name
  else "arn:aws:iam::" ++ accountID ++ ":role/OrganizationAccountAccessRole"

theorem append_eq_empty {s t : String} (h : s ++ t = "") : s = "" ∧ t = "" := by
  have hd := congrArg String.data h
  rw [String.data_append] at hd
  obtain ⟨hs, ht⟩ := List.append_eq_nil.mp hd
  exact ⟨String.ext hs, String.ext ht⟩

/-- The two resolvers normalise the Control Tower path alike. -/
theorem executionRolePath_eq (path : String) :
    executionRolePath path = Config.controlTowerPath path := by
  unfold executionRolePath Config.controlTowerPath
  by_cases hp : path = ""
  · simp [hp]
  · set path' := if path.startsWith "/" = true then path else "/" ++ path with hdef
    have hne : path' ≠ "" := by
      rw [hdef]; split
      · exact hp
      · exact fun h => hp (append_eq_empty h).2
    have hstep : (if path ≠ "" ∧ !path.startsWith "/" then "/" ++ path else path) = path' := by
      rw [hdef]; by_cases hs : path.startsWith "/" = true <;> simp [hp, hs]
    simp only [hstep, hp, if_false]
    by_cases he : path'.endsWith "/" = true
    · simp [hne, he]
    · have hne' : path' ++ "/" ≠ "" := fun h => hne (append_eq_empty h).1
      simp [hne, he, hne']

/-- **Where the resolvers agree.** For an account that is not the caller's and for which no
target gives an explicit role, `Config.GetRoleARN` and `AWSExecutionContext.GetRoleARN` agree
when exactly one of the Control Tower role and the custom pattern is configured. -/
theorem GetRoleARN_eq_of_agree (c : Config) (caller accountID : String)
    (hcaller : accountID ≠ caller)
    (hnone : ∀ n t, c.targets.lookup n = some t → t.accountID = accountID → t.roleARN = "")
    (hone : c.aws.controlTower.enabled = true ↔ c.aws.executionContext.customRolePattern = "") :
    c.GetRoleARN accountID = (AWSExecutionContext.mk c.aws caller).GetRoleARN accountID := by
  have hfind : c.targets.entries.find?
      (fun e => e.2.accountID = accountID ∧ e.2.roleARN ≠ "") = none := by
    rw [List.find?_eq_none]
    rintro ⟨n, t⟩ he
    have hn := hnone n t ((AList.mem_lookup_iff).mpr he)
    simpa using hn
  unfold Config.GetRoleARN AWSExecutionContext.GetRoleARN
  rw [hfind, if_neg hcaller]
  cases hct : c.aws.controlTower.enabled
  · have hp : c.aws.executionContext.customRolePattern ≠ "" := fun h => by
      simpa [hct] using hone.mpr h
    simp [hp]
  · have hp := hone.mp hct
    simp [hp, executionRolePath_eq]

/-! ### Two targets of one account -/

/-- A valid configuration in which the targets `app` and `audit` share an account with roles
of their own, and `web` has no role; neither Control Tower nor a custom pattern is set. -/
def sharedAccountConfig : Config where
  vault := ⟨"https://vault.example.com"⟩
  aws := ⟨"us-east-1", ⟨""⟩, ⟨false, ⟨"", ""⟩⟩⟩
  sources := (∅ : GoMap Source).insert "analytics" ⟨some ⟨"analytics", []⟩⟩
  mergeStore := ⟨some ⟨"merged-secrets"⟩, none⟩
  targets := (((∅ : GoMap Target).insert "web"
      ⟨"222222222222", ["analytics"], "", "", ""⟩).insert "audit"
      ⟨"111111111111", ["analytics"], "", "", "arn:aws:iam::111111111111:role/AuditSync"⟩).insert
      "app" ⟨"111111111111", ["analytics"], "", "", "arn:aws:iam::111111111111:role/AppSync"⟩
  dynamicTargets := ∅

/-- The pipeline over `sharedAccountConfig`, with a backend whose calls all succeed. -/
def sharedAccountPipeline : Pipeline := ⟨sharedAccountConfig, ⟨∅⟩, none, false⟩

/-- A backend whose every call succeeds. -/
def okBackend : Backend := ⟨none, fun _ => none, fun _ => none, fun _ _ => none⟩

/-- The sync phase gives `audit` the role of `app`, which shares its account and comes first in
map order, and gives `web` the Control Tower default where the execution context would assume
`OrganizationAccountAccessRole`. -/
theorem GetRoleARN_diverges :
    sharedAccountConfig.Validate = .ok () ∧
      (sharedAccountPipeline.syncTarget okBackend false "audit").details.roleARN =
        "arn:aws:iam::111111111111:role/AppSync" ∧
      (sharedAccountPipeline.syncTarget okBackend false "web").details.roleARN =
        "arn:aws:iam::222222222222:role/AWSControlTowerExecution" ∧
      (AWSExecutionContext.mk sharedAccountConfig.aws "999999999999").GetRoleARN "222222222222" =
        "arn:aws:iam::222222222222:role/OrganizationAccountAccessRole" :=
  ⟨rfl, by decide, by decide, by decide⟩

/-- `sharedAccountConfig` with only the Control Tower role configured and only the target
`web`, which has no role of its own. -/
def controlTowerConfig : Config :=
  { sharedAccountConfig with
    aws := ⟨"us-east-1", ⟨""⟩, ⟨true, ⟨"", ""⟩⟩⟩
    targets := (∅ : GoMap Target).insert "web" ⟨"222222222222", ["analytics"], "", "", ""⟩ }

/-- With only the Control Tower role configured, both resolvers give `web`'s account the Control
Tower role. -/
theorem GetRoleARN_eq_of_agree_controlTower :
    ("222222222222" : String) ≠ "999999999999" ∧
      (∀ n t, controlTowerConfig.targets.lookup n = some t → t.accountID = "222222222222" →
        t.roleARN = "") ∧
      (controlTowerConfig.aws.controlTower.enabled = true ↔
        controlTowerConfig.aws.executionContext.customRolePattern = "") ∧
      controlTowerConfig.GetRoleARN "222222222222" =
        (AWSExecutionContext.mk controlTowerConfig.aws "999999999999").GetRoleARN "222222222222" := by
  have hcaller : ("222222222222" : String) ≠ "999999999999" := by decide
  have hnone : ∀ n t, controlTowerConfig.targets.lookup n = some t →
      t.accountID = "222222222222" → t.roleARN = "" := fun n t h _ => by
    by_cases hn : n = "web"
    · subst hn
      simp only [controlTowerConfig, AList.lookup_insert, Option.some.injEq] at h
      rw [← h]
    · simp only [controlTowerConfig, AList.lookup_insert_ne hn, AList.lookup_empty,
        reduceCtorEq] at h
  have hone : controlTowerConfig.aws.controlTower.enabled = true ↔
      controlTowerConfig.aws.executionContext.customRolePattern = "" := by decide
  exact ⟨hcaller, hnone, hone, GetRoleARN_eq_of_agree _ _ _ hcaller hnone hone⟩

end VaultSecretSync
