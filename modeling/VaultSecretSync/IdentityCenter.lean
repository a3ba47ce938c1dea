import VaultSecretSync.Config
import VaultSecretSync.Utils.Strings

/-!
# Matching Identity Center users to accounts

The Identity Center store lists the members of a group, each with the primary email of the user
(else the first one) in lower case, and assigns each member to every account configuration of
`AccountMapping` whose key, an email pattern, `matchEmailPattern` accepts.

`matchEmailPattern` accepts every email for the pattern `*`; for a pattern with exactly one `*`
it checks that the email starts with the text before the star and ends with the text after it,
both compared case by case; otherwise it compares email and pattern ignoring case, a star
included. `globMatches` is the reading of a pattern as a glob, each `*` standing for any text
and the other characters compared ignoring case; the two agree on star-free patterns
(`matchEmailPattern_of_star_free`). `matchEmailPattern_not_glob` gives one input of each kind
where they part: a prefix and a suffix that overlap in a short email, a pattern with capitals
after its star, and a pattern with two stars.
-/

namespace VaultSecretSync

/-- The account configuration an email pattern maps to. -/
structure AccountConfig where
  accountID : String
  accountName : String
  executionRoleArn : String
  classification : String
  tags : List (String × String)
  deriving DecidableEq, Repr

/-- A member of the group, with the email in lower case. -/
structure GroupMember where
  userID : String
  username : String
  email : String
  deriving DecidableEq, Repr

/-- An account assignment of a member. -/
structure DiscoveredAccount where
  email : String
  userID : String
  username : String
  accountID : String
  accountName : String
  executionRoleArn : String
  classification : String
  tags : List (String × String)
  deriving DecidableEq, Repr

namespace IdentityCenter

/-- The email `listGroupMembers` keeps for a user with the emails `emails` (each with its
`Primary` flag): the first primary one, else (none, or an empty one) the first one, in lower
case; `none` when that is empty. -/
def memberEmail (emails : List (Bool × String)) : Option String :=
  let primary := ((emails.find? (·.1)).map (·.2)).getD ""
  let email := if primary = "" then (emails.head?.map (·.2)).getD "" else primary
  if email = "" then none else some (Strings.ToLower email)

/-- `matchEmailPattern`: `*` accepts every email; a pattern with exactly one `*` checks the text
before and after it as prefix and suffix; any other pattern is compared ignoring case. -/
def matchEmailPattern (email pattern : String) : Bool :=
  if pattern = "*" then true
  else
    match Strings.Contains pattern "*", Strings.Split pattern "*" with
    | true, [pre, suf] => Strings.HasPrefix email pre && Strings.HasSuffix email suf
    | _, _ => Strings.EqualFold email pattern

/-- `matchMembersToAccounts`: for each member, in order, an assignment to each account
configuration whose pattern accepts the member's email, in the map's iteration order. -/
def matchMembersToAccounts (accountMapping : GoMap AccountConfig) (members : List GroupMember) :
    List DiscoveredAccount :=
  members.flatMap fun member =>
    (accountMapping.entries.filter fun e => matchEmailPattern member.email e.1).map fun e =>
      ⟨member.email, member.userID, member.username, e.2.accountID, e.2.accountName,
        e.2.executionRoleArn, e.2.classification, e.2.tags⟩

/-- A member is assigned to an account configuration exactly when `matchEmailPattern` accepts
the member's email for the configuration's pattern. -/
theorem mem_matchMembersToAccounts {accountMapping : GoMap AccountConfig}
    {members : List GroupMember} {a : DiscoveredAccount} :
    a ∈ matchMembersToAccounts accountMapping members ↔
      ∃ m ∈ members, ∃ pattern cfg, accountMapping.lookup pattern = some cfg ∧
        matchEmailPattern m.email pattern = true ∧
        a = ⟨m.email, m.userID, m.username, cfg.accountID, cfg.accountName, cfg.executionRoleArn,
          cfg.classification, cfg.tags⟩ := by
  simp only [matchMembersToAccounts, List.mem_flatMap, List.mem_map, List.mem_filter]
  constructor
  · rintro ⟨m, hm, ⟨pattern, cfg⟩, ⟨he, hmatch⟩, rfl⟩
    exact ⟨m, hm, pattern, cfg, AList.mem_lookup_iff.2 he, hmatch, rfl⟩
  · rintro ⟨m, hm, pattern, cfg, hl, hmatch, rfl⟩
    exact ⟨m, hm, ⟨pattern, cfg⟩, ⟨AList.mem_lookup_iff.1 hl, hmatch⟩, rfl⟩

/-! ### Glob matching -/

/-- The glob reading of a pattern: each `*` stands for any text, possibly empty, and the other
characters compare by simple case folding, as `EqualFold` compares. -/
def globMatches : List Char → List Char → Bool
  | [], email => email.isEmpty
  | '*' :: pattern, email =>
    (List.range (email.length + 1)).any fun i => globMatches pattern (email.drop i)
  | _ :: _, [] => false
  | c :: pattern, x :: email =>
    Unicode.caseFold c == Unicode.caseFold x && globMatches pattern email

/-- On a star-free pattern the glob is equality ignoring case. -/
theorem globMatches_of_star_free : ∀ {pattern : List Char} (email : List Char),
    '*' ∉ pattern →
      globMatches pattern email =
        (pattern.map Unicode.caseFold == email.map Unicode.caseFold)
  | [], email, _ => by cases email <;> rfl
  | c :: pattern, [], h => by
    have hc : c ≠ '*' := fun hc => h (hc ▸ List.mem_cons_self c pattern)
    simp [globMatches, hc]
  | c :: pattern, x :: email, h => by
    have hc : c ≠ '*' := fun hc => h (hc ▸ List.mem_cons_self c pattern)
    rw [globMatches, globMatches_of_star_free email fun hm => h (List.mem_cons_of_mem c hm)]
    · simp [List.map_cons, List.cons.injEq]
    · exact hc

theorem split_of_star_free {pattern : String} (h : '*' ∉ pattern.data) :
    Strings.Contains pattern "*" = false :=
  Bool.eq_false_iff.2 fun hc => h (Strings.Contains_singleton_iff.1 hc)

/-- On a star-free pattern `matchEmailPattern` is the glob. -/
theorem matchEmailPattern_of_star_free (email : String) {pattern : String}
    (h : '*' ∉ pattern.data) :
    matchEmailPattern email pattern = globMatches pattern.data email.data := by
  have hstar : pattern ≠ "*" := by
    rintro rfl
    exact h (List.mem_singleton_self _)
  rw [matchEmailPattern, if_neg hstar, split_of_star_free h, globMatches_of_star_free _ h]
  exact Bool.beq_comm

/-- Three lower-case emails the matcher and the glob judge differently: the prefix `admin` and
the suffix `n@corp.com` overlap in `admin@corp.com`; the suffix `@Corp.com` is compared with
its case; and the two-star pattern `a*@*.com` is compared as text. -/
theorem matchEmailPattern_not_glob :
    (Strings.ToLower "admin@corp.com" = "admin@corp.com" ∧
      matchEmailPattern "admin@corp.com" "admin*n@corp.com" = true ∧
      globMatches "admin*n@corp.com".data "admin@corp.com".data = false) ∧
    (Strings.ToLower "dev@corp.com" = "dev@corp.com" ∧
      matchEmailPattern "dev@corp.com" "*@Corp.com" = false ∧
      globMatches "*@Corp.com".data "dev@corp.com".data = true) ∧
    (Strings.ToLower "ab@cd.com" = "ab@cd.com" ∧
      matchEmailPattern "ab@cd.com" "a*@*.com" = false ∧
      globMatches "a*@*.com".data "ab@cd.com".data = true) := by
  decide

end IdentityCenter

end VaultSecretSync
