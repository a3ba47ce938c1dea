import VaultSecretSync.Discovery.Organizations
import VaultSecretSync.Discovery.AccountsList

/-!
# Discovery from AWS Identity Center

`discoverFromIdentityCenter` finds the accounts of a dynamic target from Identity Center: the
accounts assigned to a group, the accounts a permission set is provisioned to, or both, each
account once. It first checks that the execution context may use Identity Center and that
Identity Center is enabled, and then uses the first SSO instance.

* **The group** (`findGroupByName`): the Identity Store's groups are read page by page, and the
  first group with the display name wins. A failed page ends the search with its error.
* **Its accounts** (`getAccountsForGroup`): every permission set is read page by page, and for
  each its account assignments. Each account assigned to the group is kept once, in the order
  first met. A failed page of permission sets ends the loop with its error. When the context may
  use Organizations, each account takes the name Organizations lists for it.
* **The permission set** (`getAccountsWithPermissionSet`): the first permission set whose
  description has the name, then the accounts it is provisioned to, page by page.

`IdentityCenterAnswers` gives the answers of Identity Center and the Identity Store, so a
statement over every `IdentityCenterAnswers` holds for every answer the services can give. A
failed page of account assignments is not modelled: the SDK's paginator keeps its token when a
page fails, so the loop's `continue` asks for the same page again, and the loop never ends
while that page keeps failing. The model takes every page of assignments as answered.

The result (`discoverFromIdentityCenter_spec`): a successful discovery lists each account once.
Its accounts are exactly those assigned to the configured group and those the configured
permission set is provisioned to. A missing group fails with an error that names it
(`discoverFromIdentityCenter_group_not_found`).

`awsDiscoverers` puts the three discoverers behind the `Discoverers` answers the discovery loop
reads. For a dynamic target discovered from Identity Center alone, the loop's second
deduplication changes nothing, and the accounts that reach the naming step are Identity
Center's less the excluded ones (`survivingAccounts_identityCenter`).
-/

namespace VaultSecretSync

namespace DiscoveryService

open Organizations

/-! ### The services' answers -/

/-- The answers of Identity Center and the Identity Store for the first SSO instance. -/
structure IdentityCenterAnswers where
  /-- `Config.IdentityCenter.Enabled` of the execution context. -/
  enabled : Bool
  /-- `ListInstances`: the identity store ID and the ARN of each instance. -/
  listInstances : Except String (List (String × String))
  /-- The pages of `ListGroups`: the display name and the ID of each group. -/
  groupPages : List (Except String (List (String × String)))
  /-- The pages of `ListPermissionSets`: the ARN of each permission set. -/
  permissionSetPages : List (Except String (List String))
  /-- `ListAccountAssignments` of a permission set, all pages: principal and account of each
  assignment. -/
  accountAssignments : String → List (String × String)
  /-- `DescribePermissionSet`: the name of a permission set. -/
  describePermissionSet : String → Except String String
  /-- The pages of `ListAccountsForProvisionedPermissionSet` of a permission set. -/
  provisionedAccountPages : String → List (Except String (List String))

/-- `GetIdentityCenterClient`: Identity Center must be enabled and accessible. -/
def GetIdentityCenterClient (ans : IdentityCenterAnswers) (info : Option OrganizationInfo) :
    Except String Unit :=
  if !ans.enabled then .error "identity center not enabled in config"
  else if !CanAccessIdentityCenter info then
    .error "no access to Identity Center from this execution context"
  else .ok ()

/-- `findGroupByName` over the pages of groups left to read. -/
def findGroupByName (groupName : String) :
    List (Except String (List (String × String))) → Except String String
  | [] => .error ("group not found: " ++ groupName)
  | .error err :: _ => .error err
  | .ok groups :: pages =>
    match groups.find? (·.1 = groupName) with
    | some group => .ok group.2
    | none => findGroupByName groupName pages

/-- One assignment of `getAccountsForGroup`'s loop: its account is kept when the assignment is
to the group and the account was not seen yet. -/
def addAssigned (groupID : String) (seen : List String) (assignment : String × String) :
    List String :=
  if assignment.1 = groupID ∧ assignment.2 ∉ seen then seen ++ [assignment.2] else seen

/-- The loop of `getAccountsForGroup` over the pages of permission sets left to read: the
accounts kept so far, in the order first met. -/
def groupAssignments (ans : IdentityCenterAnswers) (groupID : String) :
    List (Except String (List String)) → List String → Except String (List String)
  | [], seen => .ok seen
  | .error err :: _, _ => .error err
  | .ok psARNs :: pages, seen =>
    groupAssignments ans groupID pages
      (psARNs.foldl (fun seen psARN => (ans.accountAssignments psARN).foldl (addAssigned groupID) seen)
        seen)

/-- The accounts of the organization by ID: the last account of each ID. -/
def accountMap (allAccounts : List AccountInfo) : GoMap AccountInfo :=
  allAccounts.foldl (fun m a => m.insert a.id a) ∅

/-- The enrichment of `getAccountsForGroup`: each account the organization lists takes the
organization's record. -/
def enrichAccounts (allAccounts accounts : List AccountInfo) : List AccountInfo :=
  accounts.map fun a => ((accountMap allAccounts).lookup a.id).getD a

/-- `getAccountsForGroup`: the accounts assigned to the group, named from Organizations when the
context may list them (a failed listing names none). -/
def getAccountsForGroup (info : Option OrganizationInfo) (org : Organization)
    (ans : IdentityCenterAnswers) (groupID : String) : Except String (List AccountInfo) :=
  match groupAssignments ans groupID ans.permissionSetPages [] with
  | .error err => .error err
  | .ok ids =>
    let accounts : List AccountInfo := ids.map (⟨·, ""⟩)
    if CanAccessOrganizations info then
      let allAccounts := match ListOrganizationAccounts info org with
        | .ok listed => listed.map (·.info)
        | .error _ => []
      .ok (enrichAccounts allAccounts accounts)
    else .ok accounts

/-- The permission set has the name, by its description; a failed description does not. -/
def describesAs (ans : IdentityCenterAnswers) (name psARN : String) : Bool :=
  match ans.describePermissionSet psARN with
  | .ok psName => psName == name
  | .error _ => false

/-- The search of `getAccountsWithPermissionSet` over the pages of permission sets left to read:
the ARN of the first permission set with the name, `""` for none. -/
def findPermissionSet (ans : IdentityCenterAnswers) (name : String) :
    List (Except String (List String)) → Except String String
  | [] => .ok ""
  | .error err :: _ => .error err
  | .ok psARNs :: pages =>
    let found := (psARNs.find? (describesAs ans name)).getD ""
    if found ≠ "" then .ok found else findPermissionSet ans name pages

/-- The accounts of the pages of `ListAccountsForProvisionedPermissionSet` left to read. -/
def provisionedAccounts : List (Except String (List String)) → Except String (List AccountInfo)
  | [] => .ok []
  | .error err :: _ => .error err
  | .ok accountIDs :: pages =>
    (provisionedAccounts pages).map (accountIDs.map (⟨·, ""⟩) ++ ·)

/-- `getAccountsWithPermissionSet`. -/
def getAccountsWithPermissionSet (ans : IdentityCenterAnswers) (permissionSetName : String) :
    Except String (List AccountInfo) :=
  match findPermissionSet ans permissionSetName ans.permissionSetPages with
  | .error err => .error err
  | .ok permissionSetARN =>
    if permissionSetARN = "" then .error ("permission set not found: " ++ permissionSetName)
    else provisionedAccounts (ans.provisionedAccountPages permissionSetARN)

/-- The group step of `discoverFromIdentityCenter`. -/
def groupAccounts (info : Option OrganizationInfo) (org : Organization)
    (ans : IdentityCenterAnswers) (cfg : IdentityCenterDiscovery) :
    Except String (List AccountInfo) :=
  if cfg.group ≠ "" then
    match findGroupByName cfg.group ans.groupPages with
    | .error err => .error ("failed to find group " ++ goQuote cfg.group ++ ": " ++ err)
    | .ok groupID => getAccountsForGroup info org ans groupID
  else .ok []

/-- The permission-set step of `discoverFromIdentityCenter`. -/
def permissionSetAccounts (ans : IdentityCenterAnswers) (cfg : IdentityCenterDiscovery) :
    Except String (List AccountInfo) :=
  if cfg.permissionSet ≠ "" then getAccountsWithPermissionSet ans cfg.permissionSet else .ok []

/-- `discoverFromIdentityCenter`. -/
def discoverFromIdentityCenter (info : Option OrganizationInfo) (org : Organization)
    (ans : IdentityCenterAnswers) (cfg : IdentityCenterDiscovery) :
    Except String (List AccountInfo) :=
  if !CanAccessIdentityCenter info then
    .error "no access to Identity Center from this execution context"
  else
    match GetIdentityCenterClient ans info with
    | .error err => .error err
    | .ok () =>
      match ans.listInstances with
      | .error err => .error ("failed to list SSO instances: " ++ err)
      | .ok [] => .error "no SSO instances found"
      | .ok (_ :: _) =>
        groupAccounts info org ans cfg >>= fun accounts =>
        permissionSetAccounts ans cfg >>= fun psAccounts =>
        .ok (deduplicateAccounts (accounts ++ psAccounts))

/-! ### Each account once -/

/-- The loop of `deduplicateAccounts` keeps its seen list equal to the IDs it kept, without
repeats, and meets every ID of the accounts it reads. -/
theorem foldl_deduplicate (l : List AccountInfo) :
    ∀ acc : List String × List AccountInfo, acc.1 = acc.2.map (·.id) → acc.1.Nodup →
      let r := l.foldl (fun (acc : List String × List AccountInfo) a =>
        if a.id ∈ acc.1 then acc else (acc.1 ++ [a.id], acc.2 ++ [a])) acc
      r.1 = r.2.map (·.id) ∧ r.1.Nodup ∧ ∀ x, x ∈ r.1 ↔ x ∈ acc.1 ∨ x ∈ l.map (·.id) := by
  induction l with
  | nil => exact fun acc h hn => ⟨h, hn, fun x => by simp⟩
  | cons a l ih =>
    intro acc h hn
    by_cases ha : a.id ∈ acc.1
    · obtain ⟨h₁, h₂, h₃⟩ := ih acc h hn
      simp only [List.foldl_cons, if_pos ha, List.map_cons, List.mem_cons]
      refine ⟨h₁, h₂, fun x => ?_⟩
      rw [h₃]
      constructor
      · rintro (hx | hx)
        exacts [.inl hx, .inr (.inr hx)]
      · rintro (hx | rfl | hx)
        exacts [.inl hx, .inl ha, .inr hx]
    · obtain ⟨h₁, h₂, h₃⟩ := ih (acc.1 ++ [a.id], acc.2 ++ [a]) (by simp [h])
        (List.nodup_append.2 ⟨hn, List.nodup_singleton _, by simpa using ha⟩)
      simp only [List.foldl_cons, if_neg ha, List.map_cons, List.mem_cons]
      refine ⟨h₁, h₂, fun x => ?_⟩
      rw [h₃]
      simp [or_assoc]

/-- `deduplicateAccounts` keeps one account of each ID. -/
theorem deduplicateAccounts_ids (l : List AccountInfo) :
    ((deduplicateAccounts l).map (·.id)).Nodup ∧
      ∀ x, x ∈ (deduplicateAccounts l).map (·.id) ↔ x ∈ l.map (·.id) := by
  obtain ⟨h₁, h₂, h₃⟩ := foldl_deduplicate l ([], []) rfl List.nodup_nil
  rw [deduplicateAccounts, ← h₁]
  exact ⟨h₂, fun x => by simpa using h₃ x⟩

/-! ### The group's accounts -/

theorem mem_addAssigned {g x : String} {seen : List String} {assignment : String × String} :
    x ∈ addAssigned g seen assignment ↔ x ∈ seen ∨ (assignment.1 = g ∧ x = assignment.2) := by
  unfold addAssigned
  split_ifs with h
  · simp [h.1]
  · constructor
    · exact .inl
    · rintro (hx | ⟨hg, rfl⟩)
      · exact hx
      · exact not_not.1 fun hs => h ⟨hg, hs⟩

theorem nodup_addAssigned {g : String} {seen : List String} (hn : seen.Nodup)
    (assignment : String × String) : (addAssigned g seen assignment).Nodup := by
  unfold addAssigned
  split_ifs with h
  · exact List.nodup_append.2 ⟨hn, List.nodup_singleton _, by simpa using h.2⟩
  · exact hn

/-- The loop over the assignments of one permission set. -/
theorem foldl_addAssigned (g : String) :
    ∀ (l : List (String × String)) (seen : List String), seen.Nodup →
      (l.foldl (addAssigned g) seen).Nodup ∧
        ∀ x, x ∈ l.foldl (addAssigned g) seen ↔ x ∈ seen ∨ (g, x) ∈ l
  | [], _, hn => by simp [hn]
  | assignment :: l, seen, hn => by
    obtain ⟨h₁, h₂⟩ := foldl_addAssigned g l _ (nodup_addAssigned hn assignment)
    refine ⟨h₁, fun x => ?_⟩
    rw [List.foldl_cons, h₂, mem_addAssigned, List.mem_cons]
    obtain ⟨p, a⟩ := assignment
    constructor
    · rintro ((hx | ⟨rfl, rfl⟩) | hx)
      exacts [.inl hx, .inr (.inl rfl), .inr (.inr hx)]
    · rintro (hx | hx | hx)
      · exact .inl (.inl hx)
      · obtain ⟨rfl, rfl⟩ := Prod.mk.inj hx
        exact .inl (.inr ⟨rfl, rfl⟩)
      · exact .inr hx

/-- The loop over the permission sets of one page. -/
theorem foldl_permissionSets (ans : IdentityCenterAnswers) (g : String) :
    ∀ (psARNs : List String) (seen : List String), seen.Nodup →
      let r := psARNs.foldl
        (fun seen psARN => (ans.accountAssignments psARN).foldl (addAssigned g) seen) seen
      r.Nodup ∧ ∀ x, x ∈ r ↔ x ∈ seen ∨ ∃ psARN ∈ psARNs, (g, x) ∈ ans.accountAssignments psARN
  | [], _, hn => by simp [hn]
  | psARN :: psARNs, seen, hn => by
    obtain ⟨hn', hmem'⟩ := foldl_addAssigned g (ans.accountAssignments psARN) seen hn
    obtain ⟨h₁, h₂⟩ := foldl_permissionSets ans g psARNs _ hn'
    refine ⟨h₁, fun x => ?_⟩
    simp only [List.foldl_cons] at h₂ ⊢
    rw [h₂, hmem', List.exists_mem_cons_iff, or_assoc]

/-- The account is assigned to the group through a permission set of a page of permission
sets. -/
def Assigned (ans : IdentityCenterAnswers) (groupID accountID : String) : Prop :=
  ∃ psARNs, .ok psARNs ∈ ans.permissionSetPages ∧
    ∃ psARN ∈ psARNs, (groupID, accountID) ∈ ans.accountAssignments psARN

/-- The loop over the pages of permission sets: when no page fails, it keeps each account
assigned to the group once. -/
theorem groupAssignments_eq_ok (ans : IdentityCenterAnswers) (g : String) :
    ∀ (pages : List (Except String (List String))) (seen r : List String), seen.Nodup →
      groupAssignments ans g pages seen = .ok r →
      r.Nodup ∧ ∀ x, x ∈ r ↔ x ∈ seen ∨ ∃ psARNs, .ok psARNs ∈ pages ∧
        ∃ psARN ∈ psARNs, (g, x) ∈ ans.accountAssignments psARN
  | [], seen, r, hn, h => by
    cases h
    simp [hn]
  | .error err :: _, _, _, _, h => by cases h
  | .ok psARNs :: pages, seen, r, hn, h => by
    obtain ⟨hn', hmem'⟩ := foldl_permissionSets ans g psARNs seen hn
    obtain ⟨h₁, h₂⟩ := groupAssignments_eq_ok ans g pages _ r hn' h
    refine ⟨h₁, fun x => ?_⟩
    rw [h₂, hmem']
    simp only [List.mem_cons, Except.ok.injEq]
    constructor
    · rintro ((hx | hx) | ⟨l, hl, hx⟩)
      exacts [.inl hx, .inr ⟨_, .inl rfl, hx⟩, .inr ⟨l, .inr hl, hx⟩]
    · rintro (hx | ⟨l, rfl | hl, hx⟩)
      exacts [.inl (.inl hx), .inl (.inr hx), .inr ⟨l, hl, hx⟩]

/-- A record of the organization's account map has its key as ID. -/
theorem id_of_lookup_accountMap {allAccounts : List AccountInfo} {k : String} {a : AccountInfo}
    (h : (accountMap allAccounts).lookup k = some a) : a.id = k := by
  suffices ∀ (l : List AccountInfo) (m : GoMap AccountInfo),
      (∀ k a, m.lookup k = some a → a.id = k) →
      ∀ k a, (l.foldl (fun m a => m.insert a.id a) m).lookup k = some a → a.id = k from
    this allAccounts ∅ (by simp) k a h
  intro l
  induction l with
  | nil => exact fun m hm => hm
  | cons b l ih =>
    refine fun m hm => ih _ fun k a hk => ?_
    by_cases hb : k = b.id
    · subst hb
      rw [AList.lookup_insert, Option.some.injEq] at hk
      rw [← hk]
    · rw [AList.lookup_insert_ne hb] at hk
      exact hm k a hk

/-- The enrichment keeps each account's ID. -/
theorem map_id_enrichAccounts (allAccounts accounts : List AccountInfo) :
    (enrichAccounts allAccounts accounts).map (·.id) = accounts.map (·.id) := by
  rw [enrichAccounts, List.map_map]
  refine List.map_congr_left fun a _ => ?_
  show (((accountMap allAccounts).lookup a.id).getD a).id = a.id
  cases h : (accountMap allAccounts).lookup a.id with
  | none => rfl
  | some b => exact id_of_lookup_accountMap h

/-- `getAccountsForGroup` lists each account assigned to the group once. -/
theorem getAccountsForGroup_eq_ok {info : Option OrganizationInfo} {org : Organization}
    {ans : IdentityCenterAnswers} {g : String} {accounts : List AccountInfo}
    (h : getAccountsForGroup info org ans g = .ok accounts) :
    (accounts.map (·.id)).Nodup ∧ ∀ x, x ∈ accounts.map (·.id) ↔ Assigned ans g x := by
  unfold getAccountsForGroup at h
  split at h
  · cases h
  next ids hids =>
    obtain ⟨hn, hmem⟩ := groupAssignments_eq_ok ans g _ [] ids List.nodup_nil hids
    have hmap : accounts.map (·.id) = ids := by
      split_ifs at h <;> cases h
      · rw [map_id_enrichAccounts, List.map_map]
        exact List.map_id' _
      · rw [List.map_map]
        exact List.map_id' _
    rw [hmap]
    exact ⟨hn, fun x => by simp [hmem, Assigned]⟩

/-! ### The permission set's accounts -/

/-- The accounts of the provisioned pages, when none fails: those the pages list. -/
theorem provisionedAccounts_eq_ok :
    ∀ {pages : List (Except String (List String))} {accounts : List AccountInfo},
      provisionedAccounts pages = .ok accounts →
      ∀ x, x ∈ accounts.map (·.id) ↔ ∃ accountIDs, .ok accountIDs ∈ pages ∧ x ∈ accountIDs
  | [], _, h, x => by
    cases h
    simp
  | .error _ :: _, _, h, _ => by cases h
  | .ok accountIDs :: pages, accounts, h, x => by
    unfold provisionedAccounts at h
    cases hp : provisionedAccounts pages with
    | error _ => rw [hp] at h; cases h
    | ok rest =>
      rw [hp] at h
      cases h
      rw [List.map_append, List.mem_append, provisionedAccounts_eq_ok hp x, List.map_map]
      simp [Function.comp_def]

/-- The account is provisioned with the permission set that the search finds under the name. -/
def Provisioned (ans : IdentityCenterAnswers) (name accountID : String) : Prop :=
  ∃ psARN, findPermissionSet ans name ans.permissionSetPages = .ok psARN ∧ psARN ≠ "" ∧
    ∃ accountIDs, .ok accountIDs ∈ ans.provisionedAccountPages psARN ∧ accountID ∈ accountIDs

theorem getAccountsWithPermissionSet_eq_ok {ans : IdentityCenterAnswers} {name : String}
    {accounts : List AccountInfo} (h : getAccountsWithPermissionSet ans name = .ok accounts) :
    ∀ x, x ∈ accounts.map (·.id) ↔ Provisioned ans name x := by
  unfold getAccountsWithPermissionSet at h
  split at h
  · cases h
  next psARN hps =>
    by_cases he : psARN = ""
    · rw [if_pos he] at h
      cases h
    · rw [if_neg he] at h
      intro x
      rw [provisionedAccounts_eq_ok h x]
      simp only [Provisioned, hps, Except.ok.injEq, exists_eq_left']
      exact ⟨fun hx => ⟨he, hx⟩, fun hx => hx.2⟩

/-! ### The discovery -/

/-- The group step lists the accounts assigned to the group it finds, none without a group. -/
theorem mem_groupAccounts {info : Option OrganizationInfo} {org : Organization}
    {ans : IdentityCenterAnswers} {cfg : IdentityCenterDiscovery} {accounts : List AccountInfo}
    (h : groupAccounts info org ans cfg = .ok accounts) (x : String) :
    x ∈ accounts.map (·.id) ↔ cfg.group ≠ "" ∧ ∃ groupID,
      findGroupByName cfg.group ans.groupPages = .ok groupID ∧ Assigned ans groupID x := by
  unfold groupAccounts at h
  split_ifs at h with hgroup
  · split at h
    · cases h
    next groupID hfind =>
      rw [(getAccountsForGroup_eq_ok h).2 x]
      simp [hgroup, hfind]
  · cases h
    simp [hgroup]

/-- The permission-set step lists the accounts the permission set is provisioned to, none
without a permission set. -/
theorem mem_permissionSetAccounts {ans : IdentityCenterAnswers} {cfg : IdentityCenterDiscovery}
    {accounts : List AccountInfo} (h : permissionSetAccounts ans cfg = .ok accounts) (x : String) :
    x ∈ accounts.map (·.id) ↔ cfg.permissionSet ≠ "" ∧ Provisioned ans cfg.permissionSet x := by
  unfold permissionSetAccounts at h
  split_ifs at h with hset
  · rw [getAccountsWithPermissionSet_eq_ok h x]
    simp [hset]
  · cases h
    simp [hset]

/-- A successful discovery is the deduplicated result of its two steps. -/
theorem discoverFromIdentityCenter_eq_ok {info : Option OrganizationInfo} {org : Organization}
    {ans : IdentityCenterAnswers} {cfg : IdentityCenterDiscovery} {accounts : List AccountInfo}
    (h : discoverFromIdentityCenter info org ans cfg = .ok accounts) :
    ∃ groupAccs psAccs, groupAccounts info org ans cfg = .ok groupAccs ∧
      permissionSetAccounts ans cfg = .ok psAccs ∧
      accounts = deduplicateAccounts (groupAccs ++ psAccs) := by
  unfold discoverFromIdentityCenter at h
  split at h
  · cases h
  split at h
  · cases h
  split at h
  · cases h
  · cases h
  obtain ⟨groupAccs, hg, h⟩ := except_bind_eq_ok.1 h
  obtain ⟨psAccs, hps, h⟩ := except_bind_eq_ok.1 h
  exact ⟨groupAccs, psAccs, hg, hps, (Except.ok.inj h).symm⟩

/-- A successful discovery lists each account once. -/
theorem nodup_discoverFromIdentityCenter {info : Option OrganizationInfo} {org : Organization}
    {ans : IdentityCenterAnswers} {cfg : IdentityCenterDiscovery} {accounts : List AccountInfo}
    (h : discoverFromIdentityCenter info org ans cfg = .ok accounts) :
    (accounts.map (·.id)).Nodup := by
  obtain ⟨groupAccs, psAccs, -, -, rfl⟩ := discoverFromIdentityCenter_eq_ok h
  exact (deduplicateAccounts_ids _).1

/-- **Identity Center discovery.** A successful discovery lists each account once, and its
accounts are exactly those assigned to the configured group and those the configured permission
set is provisioned to. -/
theorem discoverFromIdentityCenter_spec {info : Option OrganizationInfo} {org : Organization}
    {ans : IdentityCenterAnswers} {cfg : IdentityCenterDiscovery} {accounts : List AccountInfo}
    (h : discoverFromIdentityCenter info org ans cfg = .ok accounts) :
    (accounts.map (·.id)).Nodup ∧ ∀ accountID, accountID ∈ accounts.map (·.id) ↔
      (cfg.group ≠ "" ∧ ∃ groupID, findGroupByName cfg.group ans.groupPages = .ok groupID ∧
        Assigned ans groupID accountID) ∨
      (cfg.permissionSet ≠ "" ∧ Provisioned ans cfg.permissionSet accountID) := by
  obtain ⟨groupAccs, psAccs, hg, hps, rfl⟩ := discoverFromIdentityCenter_eq_ok h
  refine ⟨(deduplicateAccounts_ids _).1, fun x => ?_⟩
  rw [(deduplicateAccounts_ids _).2, List.map_append, List.mem_append, mem_groupAccounts hg,
    mem_permissionSetAccounts hps]

/-- A demo Identity Center: the group `platform-admins` is assigned two accounts through
`ps-admin`, and `ReadOnly` is provisioned to two accounts, one of them shared. -/
def adminsCenter : IdentityCenterAnswers where
  enabled := true
  listInstances := .ok [("d-1", "arn:sso-instance")]
  groupPages := [.ok [("developers", "g-2")], .ok [("platform-admins", "g-1")]]
  permissionSetPages := [.ok ["ps-admin", "ps-read"]]
  accountAssignments psARN := if psARN = "ps-admin" then
      [("g-1", "111111111111"), ("g-2", "222222222222"), ("g-1", "333333333333"),
        ("g-1", "111111111111")]
    else []
  describePermissionSet psARN := .ok (if psARN = "ps-read" then "ReadOnly" else "Admin")
  provisionedAccountPages psARN := if psARN = "ps-read" then
      [.ok ["333333333333"], .ok ["444444444444"]]
    else []

/-- The group's accounts, the first named from Organizations, and the permission set's, each
once. -/
theorem discoverFromIdentityCenter_spec_admins :
    discoverFromIdentityCenter managementInfo prodOrganization adminsCenter
        ⟨"platform-admins", "ReadOnly"⟩ =
      .ok [⟨"111111111111", "prod"⟩, ⟨"333333333333", ""⟩, ⟨"444444444444", ""⟩] ∧
    ["111111111111", "333333333333", "444444444444"].Nodup ∧
    ("444444444444" ∈ ["111111111111", "333333333333", "444444444444"] ↔
      ("platform-admins" ≠ "" ∧ ∃ groupID,
        findGroupByName "platform-admins" adminsCenter.groupPages = .ok groupID ∧
          Assigned adminsCenter groupID "444444444444") ∨
      ("ReadOnly" ≠ "" ∧ Provisioned adminsCenter "ReadOnly" "444444444444")) :=
  have h : discoverFromIdentityCenter managementInfo prodOrganization adminsCenter
      ⟨"platform-admins", "ReadOnly"⟩ =
        .ok [⟨"111111111111", "prod"⟩, ⟨"333333333333", ""⟩, ⟨"444444444444", ""⟩] := rfl
  ⟨h, (discoverFromIdentityCenter_spec h).1, (discoverFromIdentityCenter_spec h).2 _⟩

/-- A search over pages that all succeed and name no group `name` ends in "group not found". -/
theorem findGroupByName_of_absent {name : String} :
    ∀ {pages : List (Except String (List (String × String)))},
      (∀ page ∈ pages, ∃ groups, page = .ok groups ∧ ∀ group ∈ groups, group.1 ≠ name) →
      findGroupByName name pages = .error ("group not found: " ++ name)
  | [], _ => rfl
  | page :: pages, h => by
    obtain ⟨groups, rfl, hg⟩ := h page (List.mem_cons_self _ _)
    have hnone : groups.find? (·.1 = name) = none :=
      List.find?_eq_none.2 fun group hm => by simpa using hg group hm
    rw [findGroupByName, hnone]
    exact findGroupByName_of_absent fun p hp => h p (List.mem_cons_of_mem _ hp)

/-- **A missing group.** When Identity Center is reachable and no group has the configured
name, the discovery fails with an error that names the group twice, whatever the permission
set. -/
theorem discoverFromIdentityCenter_group_not_found {info : Option OrganizationInfo}
    {org : Organization} {ans : IdentityCenterAnswers} {cfg : IdentityCenterDiscovery}
    {inst : String × String} {insts : List (String × String)}
    (hacc : CanAccessIdentityCenter info = true) (hen : ans.enabled = true)
    (hinst : ans.listInstances = .ok (inst :: insts)) (hgroup : cfg.group ≠ "")
    (hpages : ∀ page ∈ ans.groupPages, ∃ groups, page = .ok groups ∧
      ∀ group ∈ groups, group.1 ≠ cfg.group) :
    discoverFromIdentityCenter info org ans cfg =
      .error ("failed to find group " ++ goQuote cfg.group ++ ": " ++
        ("group not found: " ++ cfg.group)) := by
  have hclient : GetIdentityCenterClient ans info = .ok () := by
    simp [GetIdentityCenterClient, hen, hacc]
  have hg : groupAccounts info org ans cfg = .error ("failed to find group " ++
      goQuote cfg.group ++ ": " ++ ("group not found: " ++ cfg.group)) := by
    rw [groupAccounts, if_pos hgroup, findGroupByName_of_absent hpages]
  simp only [discoverFromIdentityCenter, hacc, Bool.not_true, hclient, hinst, hg]
  rfl

/-- The group `ops` is missing from `adminsCenter`. -/
theorem discoverFromIdentityCenter_group_not_found_ops :
    CanAccessIdentityCenter managementInfo = true ∧ adminsCenter.enabled = true ∧
    adminsCenter.listInstances = .ok [("d-1", "arn:sso-instance")] ∧ "ops" ≠ "" ∧
    (∀ page ∈ adminsCenter.groupPages, ∃ groups, page = .ok groups ∧
      ∀ group ∈ groups, group.1 ≠ "ops") ∧
    discoverFromIdentityCenter managementInfo prodOrganization adminsCenter ⟨"ops", ""⟩ =
      .error ("failed to find group " ++ goQuote "ops" ++ ": " ++ ("group not found: " ++ "ops")) :=
  have hpages : ∀ page ∈ adminsCenter.groupPages, ∃ groups, page = .ok groups ∧
      ∀ group ∈ groups, group.1 ≠ "ops" := by
    simp [adminsCenter]
  ⟨rfl, rfl, rfl, by decide, hpages,
    @discoverFromIdentityCenter_group_not_found _ _ _ ⟨"ops", ""⟩ _ _ rfl rfl rfl (by decide) hpages⟩

/-! ### The discovery service against AWS -/

/-- The discoverers of `DiscoveryService` as the source runs them: Identity Center and
Organizations against the execution context's organization, the account list against SSM; an
error is `none`. The configuration model leaves out the tags of an Organizations setting, which
`orgTags` gives. -/
def awsDiscoverers (info : Option OrganizationInfo) (org : Organization)
    (ans : IdentityCenterAnswers) (orgTags : OrganizationsDiscovery → GoMap String)
    (getSSMParameter : String → Except String String) (json : JsonDecoder) : Discoverers where
  identityCenter cfg := (discoverFromIdentityCenter info org ans cfg).toOption
  organizations cfg :=
    ((discoverFromOrganizations info org cfg (orgTags cfg)).map (·.map (·.info))).toOption
  accountsList cfg := (discoverFromAccountsList getSSMParameter json cfg).toOption

/-- The loop of `deduplicateAccounts` keeps every account of a list without repeated IDs that
it has not seen. -/
theorem foldl_deduplicate_of_nodup :
    ∀ (l : List AccountInfo) (acc : List String × List AccountInfo),
      (l.map (·.id)).Nodup → (∀ a ∈ l, a.id ∉ acc.1) →
      l.foldl (fun (acc : List String × List AccountInfo) a =>
        if a.id ∈ acc.1 then acc else (acc.1 ++ [a.id], acc.2 ++ [a])) acc =
        (acc.1 ++ l.map (·.id), acc.2 ++ l)
  | [], acc, _, _ => by simp
  | a :: l, acc, hn, hfresh => by
    rw [List.map_cons, List.nodup_cons] at hn
    have hl : ∀ b ∈ l, b.id ∉ acc.1 ++ [a.id] := fun b hb => by
      rw [List.mem_append, List.mem_singleton, not_or]
      exact ⟨hfresh b (List.mem_cons_of_mem _ hb), fun he => hn.1 (he ▸ List.mem_map_of_mem _ hb)⟩
    rw [List.foldl_cons, if_neg (hfresh a (List.mem_cons_self _ _)),
      foldl_deduplicate_of_nodup l _ hn.2 hl]
    simp

/-- `deduplicateAccounts` leaves a list without repeated IDs as it is. -/
theorem deduplicateAccounts_of_nodup {l : List AccountInfo} (hn : (l.map (·.id)).Nodup) :
    deduplicateAccounts l = l := by
  rw [deduplicateAccounts, foldl_deduplicate_of_nodup l ([], []) hn (fun _ _ => List.not_mem_nil _)]
  rfl

/-- **Identity Center in the discovery loop.** For a dynamic target discovered from Identity
Center alone, the accounts that reach the naming step are Identity Center's, in its order, less
the excluded ones; a failed discovery yields none. -/
theorem survivingAccounts_identityCenter (cfg : Config) (info : Option OrganizationInfo)
    (org : Organization) (ans : IdentityCenterAnswers)
    (orgTags : OrganizationsDiscovery → GoMap String)
    (getSSMParameter : String → Except String String) (json : JsonDecoder)
    {dt : DynamicTarget} {ic : IdentityCenterDiscovery}
    (hdisc : dt.discovery = ⟨some ic, none, none⟩) :
    (DiscoveryService.mk cfg
        (awsDiscoverers info org ans orgTags getSSMParameter json)).survivingAccounts dt =
      match discoverFromIdentityCenter info org ans ic with
      | .ok accounts => notExcluded dt accounts
      | .error _ => [] := by
  unfold survivingAccounts discoverAccounts
  rw [hdisc]
  cases h : discoverFromIdentityCenter info org ans ic with
  | error err => simp [runDiscoverer, awsDiscoverers, h, Except.toOption]
  | ok accounts =>
    simp only [runDiscoverer, awsDiscoverers, h, Except.toOption]
    show notExcluded dt (deduplicateAccounts (accounts ++ [] ++ [])) = _
    rw [List.append_nil, List.append_nil,
      deduplicateAccounts_of_nodup (nodup_discoverFromIdentityCenter h)]

/-- The administrators' dynamic target excludes one of the three accounts Identity Center
finds. -/
def adminsTarget : DynamicTarget :=
  ⟨⟨some ⟨"platform-admins", "ReadOnly"⟩, none, none⟩, ["analytics"], ["444444444444"], "", "", ""⟩

theorem survivingAccounts_identityCenter_admins :
    adminsTarget.discovery = ⟨some ⟨"platform-admins", "ReadOnly"⟩, none, none⟩ ∧
    (DiscoveryService.mk sandboxConfig (awsDiscoverers managementInfo prodOrganization adminsCenter
        (fun _ => ∅) (fun _ => .error "unused") ⟨fun _ => none, fun _ => none⟩)).survivingAccounts
        adminsTarget = [⟨"111111111111", "prod"⟩, ⟨"333333333333", ""⟩] :=
  ⟨rfl, (survivingAccounts_identityCenter sandboxConfig managementInfo prodOrganization
    adminsCenter (fun _ => ∅) (fun _ => .error "unused") ⟨fun _ => none, fun _ => none⟩
    (rfl : adminsTarget.discovery = _)).trans rfl⟩

end DiscoveryService

end VaultSecretSync
