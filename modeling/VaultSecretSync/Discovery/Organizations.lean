import VaultSecretSync.Discovery
import VaultSecretSync.Utils.Strings

/-!
# Discovery from AWS Organizations

`discoverFromOrganizations` lists the accounts of an organizational unit, either directly or,
with `listAccountsInOURecursive`, through the unit and every unit below it. When no unit is set
but tags are, it lists every account of the organization instead. When tags are set it then
keeps the accounts that carry them (`filterAccountsByTags`). Every listing first asks
`CanAccessOrganizations`.

The organization is the tree of answers the Organizations API gives. Each unit holds the answer
of `ListAccountsForParent` for it (its accounts, or the error of a page) and the answer of
`ListOrganizationalUnitsForParent` (its child units, or `none` for an error, which the code
only logs). The listings build each account from the API's ID and name and never set its
`Tags`. The configuration model keeps a discovery's unit and recursion flag; its tags are passed
beside it.

* **The recursive listing** (`listAccountsInOURecursive_eq_error`,
  `mem_listAccountsInOURecursive`): the listing fails exactly when the unit's own account
  listing fails, with that error wrapped twice in the unit's ID. Otherwise it returns the
  accounts of the units `Visible` from it: the unit, and the units visible from each of its
  children when its child listing succeeds. A child whose own listing fails is skipped
  together with everything below it; no other account is lost.
* **Tags select nothing** (`discoverFromOrganizations_of_tags`): no listing sets an account's
  tags, and the filter drops every account without tags. So a discovery with tags never
  finds an account, whatever the organization.
-/

namespace VaultSecretSync

namespace Organizations

/-! ### The execution context and the API -/

/-- What the execution context knows of the caller's place in the organization; the
organization's own ID and ARN are only logged. -/
structure OrganizationInfo where
  masterAccountID : String
  isManagementAccount : Bool
  isDelegatedAdmin : Bool
  delegatedServices : List String
  deriving DecidableEq, Repr

/-- The check shared by `CanAccessIdentityCenter` and `CanAccessOrganizations`: the caller is
the management account, or a delegated administrator for a service whose name contains
`service`. -/
def canAccessService (service : String) : Option OrganizationInfo → Bool
  | some i => i.isManagementAccount ||
      (i.isDelegatedAdmin && i.delegatedServices.any fun svc => Strings.Contains svc service)
  | none => false

/-- `CanAccessIdentityCenter`. -/
def CanAccessIdentityCenter : Option OrganizationInfo → Bool := canAccessService "sso"

/-- `CanAccessOrganizations`. -/
def CanAccessOrganizations : Option OrganizationInfo → Bool := canAccessService "organizations"

/-- An account as the Organizations listings build it: `AccountInfo` with its `Tags` map,
`none` for Go's nil map. -/
structure OrgAccount where
  info : AccountInfo
  tags : Option (GoMap String)

/-- An organizational unit with the API's answers for it: its ID, the accounts of
`ListAccountsForParent` (or the error of a page), and the units of
`ListOrganizationalUnitsForParent` (`none` for an error). -/
inductive OrgUnit where
  | mk (id : String) (accounts : Except String (List AccountInfo)) (children : Option (List OrgUnit))

namespace OrgUnit

/-- The unit's ID. -/
def id : OrgUnit → String
  | mk id _ _ => id

/-- The answer of `ListAccountsForParent` for the unit. -/
def accounts : OrgUnit → Except String (List AccountInfo)
  | mk _ accounts _ => accounts

/-- The answer of `ListOrganizationalUnitsForParent` for the unit. -/
def children : OrgUnit → Option (List OrgUnit)
  | mk _ _ children => children

end OrgUnit

/-- The organization: the answer of `ListAccounts` for the whole organization, and the unit
the API shows under each ID. -/
structure Organization where
  allAccounts : Except String (List AccountInfo)
  unit : String → OrgUnit
  unit_id : ∀ ou, (unit ou).id = ou

/-- The error of every listing made without access. -/
def noAccessError : String := "no access to Organizations API from this execution context"

/-- An account as a listing builds it: the API's ID and name, no tags. -/
def listedAccount (a : AccountInfo) : OrgAccount := ⟨a, none⟩

/-- `ListOrganizationAccounts`. -/
def ListOrganizationAccounts (info : Option OrganizationInfo) (org : Organization) :
    Except String (List OrgAccount) :=
  if !CanAccessOrganizations info then .error noAccessError
  else
    match org.allAccounts with
    | .error err => .error ("failed to list accounts: " ++ err)
    | .ok accounts => .ok (accounts.map listedAccount)

/-- `ListAccountsInOU`. -/
def ListAccountsInOU (info : Option OrganizationInfo) (ou : OrgUnit) :
    Except String (List OrgAccount) :=
  if !CanAccessOrganizations info then .error noAccessError
  else
    match ou.accounts with
    | .error err => .error ("failed to list accounts in OU " ++ ou.id ++ ": " ++ err)
    | .ok accounts => .ok (accounts.map listedAccount)

/-- `ListChildOUs`; its error is only logged by its caller. -/
def ListChildOUs (info : Option OrganizationInfo) (ou : OrgUnit) : Option (List OrgUnit) :=
  if !CanAccessOrganizations info then none else ou.children

/-! ### The recursive listing -/

mutual

/-- `listAccountsInOURecursive`: the unit's own accounts, then those of each child unit in
turn. The child listing is the unit's answer: it makes the same access check as
`ListAccountsInOU`, which has just passed (`ListChildOUs_of_ListAccountsInOU`). -/
def listAccountsInOURecursive (info : Option OrganizationInfo) :
    OrgUnit → Except String (List OrgAccount)
  | .mk id accounts children =>
    match ListAccountsInOU info (.mk id accounts children) with
    | .error err => .error ("failed to list accounts in OU " ++ id ++ ": " ++ err)
    | .ok ouAccounts =>
      match children with
      | none => .ok ouAccounts
      | some childOUs => .ok (ouAccounts ++ listChildAccounts info childOUs)

/-- The loop over the child units: a child whose listing fails is skipped. -/
def listChildAccounts (info : Option OrganizationInfo) : List OrgUnit → List OrgAccount
  | [] => []
  | childOU :: childOUs =>
    (match listAccountsInOURecursive info childOU with
      | .ok childAccounts => childAccounts
      | .error _ => []) ++ listChildAccounts info childOUs

end

/-- `filterAccountsByTags`: the accounts with tags that carry every required tag with its
value; a missing tag reads as the empty string. -/
def filterAccountsByTags (accounts : List OrgAccount) (requiredTags : GoMap String) :
    List OrgAccount :=
  accounts.filter fun a =>
    match a.tags with
    | none => false
    | some tags => requiredTags.entries.all fun e => (tags.lookup e.1).getD "" == e.2

/-- The first listing of `discoverFromOrganizations`: the accounts of the discovery's unit,
with those of the units below it when the discovery is recursive. -/
def listOUAccounts (info : Option OrganizationInfo) (org : Organization)
    (cfg : OrganizationsDiscovery) : Except String (List OrgAccount) :=
  if cfg.ou ≠ "" then
    if cfg.recursive then listAccountsInOURecursive info (org.unit cfg.ou)
    else ListAccountsInOU info (org.unit cfg.ou)
  else .ok []

/-- The second listing of `discoverFromOrganizations`: every account of the organization, when
no unit is set but tags are. -/
def listAllAccounts (info : Option OrganizationInfo) (org : Organization)
    (cfg : OrganizationsDiscovery) (tags : GoMap String) : Except String (List OrgAccount) :=
  if cfg.ou = "" ∧ tags.entries ≠ [] then ListOrganizationAccounts info org else .ok []

/-- `discoverFromOrganizations` for a discovery setting and its tags. -/
def discoverFromOrganizations (info : Option OrganizationInfo) (org : Organization)
    (cfg : OrganizationsDiscovery) (tags : GoMap String) : Except String (List OrgAccount) :=
  if !CanAccessOrganizations info then .error noAccessError
  else
    listOUAccounts info org cfg >>= fun ouAccounts =>
    listAllAccounts info org cfg tags >>= fun allAccounts =>
    let accounts := ouAccounts ++ allAccounts
    .ok (if tags.entries ≠ [] then filterAccountsByTags accounts tags else accounts)

/-! ### The listings -/

variable {info : Option OrganizationInfo}

/-- The child listing makes the same access check as the account listing. -/
theorem ListChildOUs_of_ListAccountsInOU {ou : OrgUnit} {accounts : List OrgAccount}
    (h : ListAccountsInOU info ou = .ok accounts) : ListChildOUs info ou = ou.children := by
  unfold ListAccountsInOU at h
  unfold ListChildOUs
  split_ifs at h ⊢
  rfl

/-- With access, the account listing of a unit is its answer, its error wrapped in its ID. -/
theorem ListAccountsInOU_of_access (hacc : CanAccessOrganizations info = true) (ou : OrgUnit) :
    ListAccountsInOU info ou =
      match ou.accounts with
      | .error err => .error ("failed to list accounts in OU " ++ ou.id ++ ": " ++ err)
      | .ok accounts => .ok (accounts.map listedAccount) := by
  simp [ListAccountsInOU, hacc]

/-- The message of a failed recursive listing of unit `id` whose account page failed with
`err`. -/
def recursiveListingError (id err : String) : String :=
  "failed to list accounts in OU " ++ id ++ ": " ++ ("failed to list accounts in OU " ++ id ++ ": " ++ err)

/-- **The recursive listing fails** exactly when the unit's own account listing does, with
that error wrapped twice in the unit's ID. -/
theorem listAccountsInOURecursive_eq_error (hacc : CanAccessOrganizations info = true)
    (ou : OrgUnit) (e : String) :
    listAccountsInOURecursive info ou = .error e ↔
      ∃ err, ou.accounts = .error err ∧ e = recursiveListingError ou.id err := by
  obtain ⟨id, accounts, children⟩ := ou
  rw [listAccountsInOURecursive, ListAccountsInOU_of_access hacc]
  cases accounts with
  | error err => simp [OrgUnit.accounts, OrgUnit.id, recursiveListingError, eq_comm]
  | ok accs => cases children <;> simp [OrgUnit.accounts]

/-- The units whose accounts the recursive listing of a unit returns: the unit itself when its
account listing succeeds, and, when its child listing succeeds too, the units visible from
each child. -/
inductive Visible : OrgUnit → OrgUnit → Prop
  | self {u : OrgUnit} {accounts : List AccountInfo} :
      u.accounts = .ok accounts → Visible u u
  | child {u c v : OrgUnit} {accounts : List AccountInfo} {childOUs : List OrgUnit} :
      u.accounts = .ok accounts → u.children = some childOUs → c ∈ childOUs → Visible c v →
      Visible u v

/-- A visible unit lists its accounts, and so does every unit it is seen from. -/
theorem Visible.accounts_ok {u v : OrgUnit} (h : Visible u v) :
    ∃ accounts, u.accounts = .ok accounts := by
  cases h with
  | self h => exact ⟨_, h⟩
  | child h _ _ _ => exact ⟨_, h⟩

/-- The units visible from a unit whose account listing succeeds: the unit, and those visible
from its children when its child listing succeeds. -/
theorem visible_mk_iff {id : String} {accounts : List AccountInfo}
    {children : Option (List OrgUnit)} {v : OrgUnit} :
    Visible (.mk id (.ok accounts) children) v ↔
      v = .mk id (.ok accounts) children ∨
        ∃ childOUs, children = some childOUs ∧ ∃ c ∈ childOUs, Visible c v := by
  constructor
  · rintro (_ | ⟨-, hc, hmem, hv⟩)
    · exact .inl rfl
    · exact .inr ⟨_, hc, _, hmem, hv⟩
  · rintro (rfl | ⟨childOUs, rfl, c, hmem, hv⟩)
    · exact .self rfl
    · exact .child rfl rfl hmem hv

/-- The accounts a listing of the units visible from `u` holds: each account of a visible unit,
without tags. -/
def VisibleAccount (u : OrgUnit) (a : OrgAccount) : Prop :=
  a.tags = none ∧ ∃ v accounts, Visible u v ∧ v.accounts = .ok accounts ∧ a.info ∈ accounts

/-- A listed account is an account of the answer, without tags. -/
theorem mem_map_listedAccount {accounts : List AccountInfo} {a : OrgAccount} :
    a ∈ accounts.map listedAccount ↔ a.tags = none ∧ a.info ∈ accounts := by
  obtain ⟨info, tags⟩ := a
  simp only [List.mem_map, listedAccount, OrgAccount.mk.injEq]
  constructor
  · rintro ⟨b, hb, rfl, rfl⟩
    exact ⟨rfl, hb⟩
  · rintro ⟨rfl, hb⟩
    exact ⟨info, hb, rfl, rfl⟩

/-- With access, the account listing of a unit succeeds exactly when its answer does. -/
theorem ListAccountsInOU_eq_ok (hacc : CanAccessOrganizations info = true) {ou : OrgUnit}
    {listed : List OrgAccount} :
    ListAccountsInOU info ou = .ok listed ↔
      ∃ accounts, ou.accounts = .ok accounts ∧ listed = accounts.map listedAccount := by
  rw [ListAccountsInOU_of_access hacc]
  cases ou.accounts <;> simp [eq_comm]

/-- The accounts visible from a unit whose account listing succeeds: its own, and those
visible from its children when its child listing succeeds. -/
theorem visibleAccount_mk_iff {id : String} {accounts : List AccountInfo}
    {children : Option (List OrgUnit)} {a : OrgAccount} :
    VisibleAccount (.mk id (.ok accounts) children) a ↔
      (a.tags = none ∧ a.info ∈ accounts) ∨
        ∃ childOUs, children = some childOUs ∧ ∃ c ∈ childOUs, VisibleAccount c a := by
  simp only [VisibleAccount, visible_mk_iff]
  constructor
  · rintro ⟨ht, v, l, (rfl | ⟨childOUs, hc, c, hmem, hv⟩), hl, ha⟩
    · cases hl
      exact .inl ⟨ht, ha⟩
    · exact .inr ⟨childOUs, hc, c, hmem, ht, v, l, hv, hl, ha⟩
  · rintro (⟨ht, ha⟩ | ⟨childOUs, hc, c, hmem, ht, v, l, hv, hl, ha⟩)
    · exact ⟨ht, _, _, .inl rfl, rfl, ha⟩
    · exact ⟨ht, v, l, .inr ⟨childOUs, hc, c, hmem, hv⟩, hl, ha⟩

/-- Nothing is visible from a unit whose recursive listing fails. -/
theorem not_visibleAccount_of_error (hacc : CanAccessOrganizations info = true) {ou : OrgUnit}
    {e : String} (h : listAccountsInOURecursive info ou = .error e) (a : OrgAccount) :
    ¬ VisibleAccount ou a := by
  obtain ⟨err, herr, -⟩ := (listAccountsInOURecursive_eq_error hacc ou e).1 h
  rintro ⟨-, v, -, hv, -⟩
  obtain ⟨_, hok⟩ := hv.accounts_ok
  rw [herr] at hok
  cases hok

/-- **The recursive listing** returns exactly the accounts of the units visible from the unit. -/
theorem mem_listAccountsInOURecursive (hacc : CanAccessOrganizations info = true) (u : OrgUnit) :
    ∀ listed, listAccountsInOURecursive info u = .ok listed →
      ∀ a, a ∈ listed ↔ VisibleAccount u a := by
  refine listAccountsInOURecursive.induct info
    (fun u => ∀ listed, listAccountsInOURecursive info u = .ok listed →
      ∀ a, a ∈ listed ↔ VisibleAccount u a)
    (fun childOUs => ∀ a, a ∈ listChildAccounts info childOUs ↔ ∃ c ∈ childOUs, VisibleAccount c a)
    ?_ ?_ ?_ ?_ ?_ u
  case refine_1 =>
    intro id accounts children err h listed hl
    rw [listAccountsInOURecursive, h] at hl
    cases hl
  case refine_2 =>
    intro id accounts ouAccounts h listed hl a
    obtain ⟨l, rfl, rfl⟩ := (ListAccountsInOU_eq_ok hacc).1 h
    simp only [listAccountsInOURecursive, h, Except.ok.injEq] at hl
    rw [← hl, mem_map_listedAccount, visibleAccount_mk_iff]
    simp
  case refine_3 =>
    intro id accounts ouAccounts childOUs h ih listed hl a
    obtain ⟨l, rfl, rfl⟩ := (ListAccountsInOU_eq_ok hacc).1 h
    simp only [listAccountsInOURecursive, h, Except.ok.injEq] at hl
    rw [← hl, List.mem_append, mem_map_listedAccount, visibleAccount_mk_iff, ih]
    simp
  case refine_4 => simp [listChildAccounts]
  case refine_5 =>
    intro c childOUs ihc ih a
    rw [listChildAccounts, List.mem_append, ih]
    cases hc : listAccountsInOURecursive info c with
    | ok l => simp [ihc l hc]
    | error e => simp [not_visibleAccount_of_error hacc hc]

/-- **The recursive listing**, both ways it can end: it fails exactly when the unit's own account
listing fails, and otherwise returns exactly the accounts of the units visible from the unit. -/
theorem listAccountsInOURecursive_spec (hacc : CanAccessOrganizations info = true) (u : OrgUnit) :
    (∀ e, listAccountsInOURecursive info u = .error e ↔
      ∃ err, u.accounts = .error err ∧ e = recursiveListingError u.id err) ∧
    (∀ listed, listAccountsInOURecursive info u = .ok listed →
      ∀ a, a ∈ listed ↔ VisibleAccount u a) :=
  ⟨listAccountsInOURecursive_eq_error hacc u, mem_listAccountsInOURecursive hacc u⟩

/-- The management account of an organization. -/
def managementInfo : Option OrganizationInfo := some ⟨"111111111111", true, false, []⟩

/-- A unit whose page of accounts fails, with a unit below it. -/
def brokenUnit : OrgUnit :=
  .mk "ou-broken" (.error "AccessDenied") (some [.mk "ou-hidden" (.ok [⟨"444444444444", "hidden"⟩]) none])

/-- A root unit with one account and three children: one whose child listing fails, the broken
unit, and one with an account and no children. -/
def sandboxUnit : OrgUnit :=
  .mk "ou-root" (.ok [⟨"111111111111", "platform"⟩]) (some [
    .mk "ou-dev" (.ok [⟨"222222222222", "dev"⟩]) none,
    brokenUnit,
    .mk "ou-prod" (.ok [⟨"333333333333", "prod"⟩]) (some [])])

/-- The listing of `sandboxUnit` skips the broken unit and the unit below it and keeps the
others; the broken unit's own listing fails with its error wrapped twice. -/
theorem listAccountsInOURecursive_spec_sandbox :
    CanAccessOrganizations managementInfo = true ∧
      listAccountsInOURecursive managementInfo brokenUnit =
        .error "failed to list accounts in OU ou-broken: failed to list accounts in OU ou-broken: AccessDenied" ∧
      (listedAccount ⟨"333333333333", "prod"⟩ ∈
          [listedAccount ⟨"111111111111", "platform"⟩, listedAccount ⟨"222222222222", "dev"⟩,
            listedAccount ⟨"333333333333", "prod"⟩] ↔
        VisibleAccount sandboxUnit (listedAccount ⟨"333333333333", "prod"⟩)) :=
  ⟨rfl, ((listAccountsInOURecursive_spec (rfl : CanAccessOrganizations managementInfo = true) brokenUnit).1 _).2 ⟨_, rfl, rfl⟩,
    (listAccountsInOURecursive_spec (rfl : CanAccessOrganizations managementInfo = true) sandboxUnit).2 _ rfl _⟩

/-! ### Tags -/

theorem except_bind_eq_ok {α β : Type} {x : Except String α} {f : α → Except String β} {b : β} :
    (x >>= f) = .ok b ↔ ∃ a, x = .ok a ∧ f a = .ok b := by
  cases x <;> simp [bind, Except.bind]

/-- The filter drops every account without tags. -/
theorem filterAccountsByTags_of_untagged {accounts : List OrgAccount}
    (h : ∀ a ∈ accounts, a.tags = none) (requiredTags : GoMap String) :
    filterAccountsByTags accounts requiredTags = [] := by
  rw [filterAccountsByTags, List.filter_eq_nil_iff]
  intro a ha
  simp [h a ha]

theorem untagged_of_ListAccountsInOU {ou : OrgUnit} {listed : List OrgAccount}
    (h : ListAccountsInOU info ou = .ok listed) : ∀ a ∈ listed, a.tags = none := by
  unfold ListAccountsInOU at h
  split_ifs at h
  split at h <;> simp only [Except.ok.injEq, reduceCtorEq] at h
  subst h
  exact fun a ha => (mem_map_listedAccount.1 ha).1

theorem untagged_of_ListOrganizationAccounts {org : Organization} {listed : List OrgAccount}
    (h : ListOrganizationAccounts info org = .ok listed) : ∀ a ∈ listed, a.tags = none := by
  unfold ListOrganizationAccounts at h
  split_ifs at h
  split at h <;> simp only [Except.ok.injEq, reduceCtorEq] at h
  subst h
  exact fun a ha => (mem_map_listedAccount.1 ha).1

theorem untagged_of_listOUAccounts (hacc : CanAccessOrganizations info = true)
    {org : Organization} {cfg : OrganizationsDiscovery} {listed : List OrgAccount}
    (h : listOUAccounts info org cfg = .ok listed) : ∀ a ∈ listed, a.tags = none := by
  unfold listOUAccounts at h
  split_ifs at h
  · exact fun a ha => ((mem_listAccountsInOURecursive hacc _ _ h a).1 ha).1
  · exact untagged_of_ListAccountsInOU h
  · cases h
    simp

theorem untagged_of_listAllAccounts {org : Organization} {cfg : OrganizationsDiscovery}
    {tags : GoMap String} {listed : List OrgAccount}
    (h : listAllAccounts info org cfg tags = .ok listed) : ∀ a ∈ listed, a.tags = none := by
  unfold listAllAccounts at h
  split_ifs at h
  · exact untagged_of_ListOrganizationAccounts h
  · cases h
    simp

/-- **Tags select nothing.** A discovery with tags never finds an account: the listings leave
every account's tags unset and the filter drops the accounts without tags. -/
theorem discoverFromOrganizations_of_tags (org : Organization) (cfg : OrganizationsDiscovery)
    {tags : GoMap String} (htags : tags.entries ≠ []) {accounts : List OrgAccount}
    (h : discoverFromOrganizations info org cfg tags = .ok accounts) : accounts = [] := by
  by_cases hacc : CanAccessOrganizations info = true
  swap
  · rw [discoverFromOrganizations, if_pos (by simpa using hacc)] at h
    cases h
  rw [discoverFromOrganizations, if_neg (by simp [hacc])] at h
  obtain ⟨ouAccounts, hou, h⟩ := except_bind_eq_ok.1 h
  obtain ⟨allAccounts, hall, h⟩ := except_bind_eq_ok.1 h
  simp only [if_pos htags, Except.ok.injEq] at h
  rw [← h, filterAccountsByTags_of_untagged]
  intro a ha
  rcases List.mem_append.1 ha with ha | ha
  · exact untagged_of_listOUAccounts hacc hou a ha
  · exact untagged_of_listAllAccounts hall a ha

/-- A unit with one production account. -/
def prodUnit : OrgUnit := .mk "ou-prod" (.ok [⟨"111111111111", "prod"⟩]) (some [])

/-- An organization whose only unit is `prodUnit`. -/
def prodOrganization : Organization where
  allAccounts := .ok [⟨"111111111111", "prod"⟩]
  unit ou := if ou = "ou-prod" then prodUnit else .mk ou (.error "not found") none
  unit_id ou := by
    by_cases h : ou = "ou-prod"
    · simp [h, prodUnit, OrgUnit.id]
    · simp [h, OrgUnit.id]

/-- The management account finds the production account of `ou-prod`, but not once a tag is
required. -/
theorem discoverFromOrganizations_of_tags_prod :
    (discoverFromOrganizations managementInfo prodOrganization ⟨"ou-prod", true⟩ ∅).map
        (·.map (·.info)) = .ok [⟨"111111111111", "prod"⟩] ∧
      ((∅ : GoMap String).insert "team" "data").entries ≠ [] ∧
      discoverFromOrganizations managementInfo prodOrganization ⟨"ou-prod", true⟩
        ((∅ : GoMap String).insert "team" "data") = .ok [] :=
  ⟨rfl, by decide, by
    have h : discoverFromOrganizations managementInfo prodOrganization ⟨"ou-prod", true⟩
        ((∅ : GoMap String).insert "team" "data") = .ok [] := rfl
    exact h.trans (congrArg _ (discoverFromOrganizations_of_tags prodOrganization _ (by decide) h))⟩

end Organizations

end VaultSecretSync
