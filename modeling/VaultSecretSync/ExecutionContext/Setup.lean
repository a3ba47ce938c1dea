import VaultSecretSync.Discovery.Organizations

/-!
# Setting up the AWS execution context

`NewAWSExecutionContext` loads the AWS configuration, asks STS for the caller's account, asks
Organizations about the organization, and validates what it found against the configured
execution context. The organization step is not fatal. When `DescribeOrganization` fails, the
context has no organization info and every Organizations or Identity Center listing is refused.
When the caller is not the management account, `discoverDelegatedServices` reads the pages of
delegated administrators. A page that lists the caller marks it delegated and adds the service
principals of its delegation. A page that fails ends the loop, and what was found stays.

`AWSAnswers` gives AWS's answer to each call, so a statement over every `AWSAnswers` holds for
every answer AWS can give. The configured execution context's type and account ID are passed
beside the configuration model.

* **Who may list** (`canAccessService_NewAWSExecutionContext`): in a context that
  `NewAWSExecutionContext` builds, the caller may use a service exactly in two cases. Either the
  organization was described and the caller is its management account. Or the caller is listed
  as a delegated administrator on a page before the first failed page, and one of its delegated
  service principals names the service. `CanAccessOrganizations` and `CanAccessIdentityCenter`
  are the cases `organizations` and `sso`.
* **The management check** (`NewAWSExecutionContext_management`): a context validated as the
  management account may list Organizations and Identity Center, unless the organization could
  not be described.
-/

namespace VaultSecretSync

namespace Organizations

/-! ### The calls -/

/-- AWS's answers to the calls `NewAWSExecutionContext` makes. -/
structure AWSAnswers where
  /-- `config.LoadDefaultConfig`. -/
  loadDefaultConfig : Except String Unit
  /-- The account of `GetCallerIdentity`; its ARN and user ID are only logged. -/
  callerAccount : Except String String
  /-- The management account of `DescribeOrganization`. -/
  describeOrganization : Except String String
  /-- The pages of `ListDelegatedAdministrators`, each with the accounts it lists. -/
  delegatedAdministrators : List (Except String (List String))
  /-- The service principals of `ListDelegatedServicesForAccount` for an account. -/
  delegatedServicesForAccount : String → Except String (List String)

/-- The service principals the context records for a delegated administrator: none when their
listing fails. -/
def delegatedServicesOf (aws : AWSAnswers) (account : String) : List String :=
  match aws.delegatedServicesForAccount account with
  | .ok services => services
  | .error _ => []

/-- `discoverDelegatedServices` over the pages left to read: a page that lists the caller marks
it delegated and adds its service principals, and a failed page ends the loop. -/
def discoverDelegatedServices (aws : AWSAnswers) (caller : String) (info : OrganizationInfo) :
    List (Except String (List String)) → OrganizationInfo
  | [] => info
  | .error _ :: _ => info
  | .ok admins :: pages =>
    discoverDelegatedServices aws caller
      (if caller ∈ admins then
        { info with
          isDelegatedAdmin := true
          delegatedServices := info.delegatedServices ++ delegatedServicesOf aws caller }
      else info) pages

/-- `discoverOrganizationContext`: the organization info, `none` when the organization cannot be
described. -/
def discoverOrganizationContext (aws : AWSAnswers) (caller : String) : Option OrganizationInfo :=
  match aws.describeOrganization with
  | .error _ => none
  | .ok master =>
    let info : OrganizationInfo := ⟨master, caller == master, false, []⟩
    if !info.isManagementAccount then
      some (discoverDelegatedServices aws caller info aws.delegatedAdministrators)
    else some info

/-- The execution context type of the management account. -/
def ExecutionContextManagement : String := "management_account"

/-- `validateExecutionContext` for the configured type and account ID; the checks of the other
types only log. -/
def validateExecutionContext (configuredType configuredAccountID caller : String)
    (info : Option OrganizationInfo) : Except String Unit :=
  if configuredAccountID ≠ "" ∧ configuredAccountID ≠ caller then
    .error ("execution context mismatch: config specifies account " ++ configuredAccountID ++
      " but running as " ++ caller)
  else if configuredType = ExecutionContextManagement then
    match info with
    | some i =>
      if !i.isManagementAccount then
        .error ("execution context configured as management_account but running in member account " ++
          caller ++ " (management is " ++ i.masterAccountID ++ ")")
      else .ok ()
    | none => .ok ()
  else .ok ()

/-- The execution context `NewAWSExecutionContext` builds: the caller's account and the
organization info. -/
structure ExecutionState where
  callerAccountID : String
  organizationInfo : Option OrganizationInfo

/-- `NewAWSExecutionContext`. -/
def NewAWSExecutionContext (aws : AWSAnswers) (configuredType configuredAccountID : String) :
    Except String ExecutionState :=
  match aws.loadDefaultConfig with
  | .error err => .error ("failed to load AWS config: " ++ err)
  | .ok () =>
    match aws.callerAccount with
    | .error err => .error ("failed to get caller identity: " ++ err)
    | .ok caller =>
      let info := discoverOrganizationContext aws caller
      match validateExecutionContext configuredType configuredAccountID caller info with
      | .error err => .error err
      | .ok () => .ok ⟨caller, info⟩

/-! ### Delegated administrators -/

/-- The caller is listed on a page of delegated administrators that comes after a prefix of
pages read without error. -/
def ListedAdmin (pages : List (Except String (List String))) (caller : String) : Prop :=
  ∃ before admins after, pages = before ++ .ok admins :: after ∧
    (∀ p ∈ before, ∃ l, p = .ok l) ∧ caller ∈ admins

theorem not_listedAdmin_nil (caller : String) : ¬ ListedAdmin [] caller := by
  rintro ⟨before, admins, after, h, -⟩
  simp at h

theorem not_listedAdmin_error (err : String) (pages : List (Except String (List String)))
    (caller : String) : ¬ ListedAdmin (.error err :: pages) caller := by
  rintro ⟨_ | ⟨p, before⟩, admins, after, h, hb, -⟩
  · cases h
  · obtain ⟨rfl, -⟩ := List.cons.inj h
    obtain ⟨l, hl⟩ := hb _ (List.mem_cons_self _ _)
    cases hl

theorem listedAdmin_ok {admins : List String} {pages : List (Except String (List String))}
    {caller : String} :
    ListedAdmin (.ok admins :: pages) caller ↔ caller ∈ admins ∨ ListedAdmin pages caller := by
  constructor
  · rintro ⟨_ | ⟨p, before⟩, admins', after, h, hb, hc⟩
    · obtain ⟨h₁, -⟩ := List.cons.inj h
      cases h₁
      exact .inl hc
    · obtain ⟨-, rfl⟩ := List.cons.inj h
      exact .inr ⟨before, admins', after, rfl, fun q hq => hb q (List.mem_cons_of_mem _ hq), hc⟩
  · rintro (hc | ⟨before, admins', after, rfl, hb, hc⟩)
    · exact ⟨[], admins, pages, rfl, by simp, hc⟩
    · refine ⟨.ok admins :: before, admins', after, rfl, ?_, hc⟩
      rintro q (_ | ⟨_, hq⟩)
      · exact ⟨_, rfl⟩
      · exact hb q hq

/-- **The delegated-administrator loop.** It keeps the management fields, marks the caller
delegated exactly when a page read without error lists it, and then adds the caller's service
principals to those already recorded. -/
theorem discoverDelegatedServices_spec (aws : AWSAnswers) (caller : String) :
    ∀ (pages : List (Except String (List String))) (info : OrganizationInfo),
      (discoverDelegatedServices aws caller info pages).masterAccountID = info.masterAccountID ∧
      (discoverDelegatedServices aws caller info pages).isManagementAccount =
        info.isManagementAccount ∧
      ((discoverDelegatedServices aws caller info pages).isDelegatedAdmin = true ↔
        info.isDelegatedAdmin = true ∨ ListedAdmin pages caller) ∧
      ∀ svc, svc ∈ (discoverDelegatedServices aws caller info pages).delegatedServices ↔
        svc ∈ info.delegatedServices ∨
          (ListedAdmin pages caller ∧ svc ∈ delegatedServicesOf aws caller)
  | [], info => by simp [discoverDelegatedServices, not_listedAdmin_nil]
  | .error err :: pages, info => by
    simp [discoverDelegatedServices, not_listedAdmin_error]
  | .ok admins :: pages, info => by
    obtain ⟨hm, hmg, hd, hs⟩ := discoverDelegatedServices_spec aws caller pages
      (if caller ∈ admins then
        { info with
          isDelegatedAdmin := true
          delegatedServices := info.delegatedServices ++ delegatedServicesOf aws caller }
      else info)
    rw [discoverDelegatedServices, listedAdmin_ok]
    refine ⟨by rw [hm]; split_ifs <;> rfl, by rw [hmg]; split_ifs <;> rfl, ?_, fun svc => ?_⟩
    · rw [hd]
      by_cases hc : caller ∈ admins <;> simp [hc]
    · rw [hs]
      by_cases hc : caller ∈ admins
      · simp only [hc, if_true, true_or, true_and, List.mem_append]
        exact or_iff_left_of_imp fun h => .inr h.2
      · simp [hc]

/-! ### Access -/

/-- The access check reads the management flag, or the delegation and its service principals. -/
theorem canAccessService_some (service : String) (i : OrganizationInfo) :
    canAccessService service (some i) = true ↔
      i.isManagementAccount = true ∨
        (i.isDelegatedAdmin = true ∧ ∃ svc ∈ i.delegatedServices, Strings.Contains svc service) := by
  simp [canAccessService]

/-- What a described organization grants the caller: the management account may use every
service, and a member account the services its delegation names. -/
theorem canAccessService_discoverOrganizationContext (aws : AWSAnswers) (caller service : String) :
    canAccessService service (discoverOrganizationContext aws caller) = true ↔
      ∃ master, aws.describeOrganization = .ok master ∧
        (caller = master ∨ (ListedAdmin aws.delegatedAdministrators caller ∧
          ∃ svc ∈ delegatedServicesOf aws caller, Strings.Contains svc service)) := by
  unfold discoverOrganizationContext
  cases aws.describeOrganization with
  | error err => simp [canAccessService]
  | ok master =>
    by_cases hm : caller = master
    · simp [hm, canAccessService]
    · have hb : (caller == master) = false := beq_false_of_ne hm
      obtain ⟨-, hmg, hd, hs⟩ :=
        discoverDelegatedServices_spec aws caller aws.delegatedAdministrators ⟨master, false, false, []⟩
      simp only [hb, Bool.not_false, if_true, canAccessService_some, hmg, hd, hs]
      simp +contextual [hm]

/-- A context that `NewAWSExecutionContext` builds is the caller's, with the organization info
it discovers, and passed the validation. -/
theorem NewAWSExecutionContext_eq_ok {aws : AWSAnswers} {configuredType configuredAccountID : String}
    {st : ExecutionState}
    (h : NewAWSExecutionContext aws configuredType configuredAccountID = .ok st) :
    ∃ caller, aws.callerAccount = .ok caller ∧
      validateExecutionContext configuredType configuredAccountID caller
        (discoverOrganizationContext aws caller) = .ok () ∧
      st = ⟨caller, discoverOrganizationContext aws caller⟩ := by
  unfold NewAWSExecutionContext at h
  split at h
  · cases h
  split at h
  · cases h
  next caller hcaller =>
    dsimp only at h
    split at h
    · cases h
    next hv =>
      cases h
      exact ⟨caller, hcaller, hv, rfl⟩

/-- The management setting passes validation only in the management account. -/
theorem isManagementAccount_of_validate {configuredAccountID caller : String}
    {i : OrganizationInfo}
    (h : validateExecutionContext ExecutionContextManagement configuredAccountID caller (some i) =
      .ok ()) : i.isManagementAccount = true := by
  by_contra hm
  simp only [validateExecutionContext, if_true, hm, Bool.not_false, ite_true] at h
  split at h <;> cases h

/-- **Who may list.** In a context that `NewAWSExecutionContext` builds, the caller may use a
service exactly when the organization was described and the caller is its management account,
or a delegated administrator listed before the first failed page whose service principals name
the service. -/
theorem canAccessService_NewAWSExecutionContext {aws : AWSAnswers}
    {configuredType configuredAccountID : String} {st : ExecutionState}
    (h : NewAWSExecutionContext aws configuredType configuredAccountID = .ok st) (service : String) :
    canAccessService service st.organizationInfo = true ↔
      ∃ master, aws.describeOrganization = .ok master ∧
        (st.callerAccountID = master ∨ (ListedAdmin aws.delegatedAdministrators st.callerAccountID ∧
          ∃ svc ∈ delegatedServicesOf aws st.callerAccountID, Strings.Contains svc service)) := by
  obtain ⟨caller, -, -, rfl⟩ := NewAWSExecutionContext_eq_ok h
  exact canAccessService_discoverOrganizationContext aws caller service

/-- A member account that the second page of administrators lists as delegated for
Organizations; the third page fails. -/
def delegatedAnswers : AWSAnswers where
  loadDefaultConfig := .ok ()
  callerAccount := .ok "222222222222"
  describeOrganization := .ok "111111111111"
  delegatedAdministrators := [.ok ["333333333333"], .ok ["222222222222"], .error "ThrottlingException"]
  delegatedServicesForAccount _ := .ok ["organizations.amazonaws.com"]

/-- The context built for `delegatedAnswers`. -/
def delegatedState : ExecutionState :=
  ⟨"222222222222", some ⟨"111111111111", false, true, ["organizations.amazonaws.com"]⟩⟩

/-- The delegated member account may list Organizations: it is listed before the failed page and
its service principal names the service. -/
theorem canAccessService_NewAWSExecutionContext_delegated :
    NewAWSExecutionContext delegatedAnswers "delegated_admin" "" = .ok delegatedState ∧
      (CanAccessOrganizations delegatedState.organizationInfo = true ↔
        ∃ master, delegatedAnswers.describeOrganization = .ok master ∧
          ("222222222222" = master ∨
            (ListedAdmin delegatedAnswers.delegatedAdministrators "222222222222" ∧
              ∃ svc ∈ delegatedServicesOf delegatedAnswers "222222222222",
                Strings.Contains svc "organizations"))) :=
  ⟨rfl, canAccessService_NewAWSExecutionContext
    (rfl : NewAWSExecutionContext delegatedAnswers "delegated_admin" "" = .ok delegatedState) _⟩

/-- **The management check.** A context validated as the management account may list
Organizations and Identity Center, unless the organization could not be described. -/
theorem NewAWSExecutionContext_management {aws : AWSAnswers} {configuredAccountID : String}
    {st : ExecutionState}
    (h : NewAWSExecutionContext aws ExecutionContextManagement configuredAccountID = .ok st) :
    st.organizationInfo = none ∨
      (CanAccessOrganizations st.organizationInfo = true ∧
        CanAccessIdentityCenter st.organizationInfo = true) := by
  obtain ⟨caller, -, hv, rfl⟩ := NewAWSExecutionContext_eq_ok h
  cases hi : discoverOrganizationContext aws caller with
  | none => exact .inl rfl
  | some i =>
    rw [hi] at hv
    have hm := isManagementAccount_of_validate hv
    exact .inr ⟨by simp [CanAccessOrganizations, canAccessService, hm],
      by simp [CanAccessIdentityCenter, canAccessService, hm]⟩

end Organizations

end VaultSecretSync
