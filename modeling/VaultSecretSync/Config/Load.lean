import VaultSecretSync.ExecutionContext
import VaultSecretSync.Discovery

/-!
# Loading the configuration

After decoding the file, `LoadConfig` applies the defaults (`applyDefaults`), expands `${VAR}`
placeholders in the Vault credentials (`expandEnvVars`), and lets Viper override the region from
`VSS_AWS_REGION`.

* **The defaults** (`LoadConfig_spec`): whatever was decoded, the loaded configuration passes
  and fails validation as the decoded one does, both role resolvers give every account the role
  they gave it before (the execution role default is the resolvers' own fallback), and the
  region is set, so every target discovered from it has a region.
* **Nothing to substitute** (`expand_of_unset`): when no variable has a value the expansion
  would use, every text is left as written, placeholders included.
* **Bounded growth** (`utf8ByteSize_expand_le`): whatever the environment, the expanded text
  has at most 2500 times the bytes of the original: a placeholder has at least four bytes and
  is replaced by at most `maxEnvValueLength`.

A placeholder is a match of the regular expression `\$\{([A-Za-z_][A-Za-z0-9_]*)\}`.
`ReplaceAllStringFunc` scans the text from left to right; a match that starts where the scan
stands is replaced by the variable's value when that is set, non-empty and at most
`maxEnvValueLength` bytes, and kept otherwise, and the scan goes on after the match, so a
substituted value is never scanned again. Any other character is kept. The environment is a
function `getenv`, `os.Getenv`, which gives `""` for an unset variable.
-/

namespace VaultSecretSync

namespace Env

/-- `[A-Za-z_]`, the first character of a variable name. -/
def isNameStart (c : Char) : Bool := ('A' ≤ c && c ≤ 'Z') || ('a' ≤ c && c ≤ 'z') || c == '_'

/-- `[A-Za-z0-9_]`, a later character of a variable name. -/
def isNameChar (c : Char) : Bool := isNameStart c || ('0' ≤ c && c ≤ '9')

/-- The text `${name}` of a placeholder. -/
def placeholder (name : List Char) : List Char := '$' :: '{' :: name ++ ['}']

/-- The match of the placeholder pattern at the start of a text: the variable name when the text
starts with `${name}`. The name is the longest run of name characters, as `}` is none. -/
def placeholderAt : List Char → Option (List Char)
  | '$' :: '{' :: c :: rest =>
    if isNameStart c && (rest.dropWhile isNameChar).head? == some '}' then
      some (c :: rest.takeWhile isNameChar)
    else none
  | _ => none

/-- `ReplaceAllStringFunc` of the placeholder pattern with the replacement `repl`, from the scan
position on: a match that starts there is replaced and the scan resumes after it (`skip` counts
the characters of the match still ahead); any other character is kept. -/
def replaceAll (repl : List Char → List Char) : List Char → Nat → List Char
  | [], _ => []
  | _ :: s, skip + 1 => replaceAll repl s skip
  | c :: s, 0 =>
    match placeholderAt (c :: s) with
    | some name => repl name ++ replaceAll repl s (name.length + 2)
    | none => c :: replaceAll repl s 0

/-- `maxEnvValueLength`: the largest value, in bytes, that is substituted. -/
def maxEnvValueLength : Nat := 10000

/-- The replacement of the match of variable `name`: its value when that is non-empty and at
most `maxEnvValueLength` bytes, else the match itself. -/
def expandMatch (getenv : String → String) (name : List Char) : List Char :=
  let val := getenv ⟨name⟩
  if val ≠ "" then
    if val.utf8ByteSize > maxEnvValueLength then placeholder name else val.data
  else placeholder name

/-- The `expand` closure of `expandEnvVars`. -/
def expand (getenv : String → String) (s : String) : String :=
  ⟨replaceAll (expandMatch getenv) s.data 0⟩

end Env

/-- AppRole authentication. -/
structure AppRoleAuth where
  mount : String
  roleID : String
  secretID : String
  deriving DecidableEq, Repr

/-- Token authentication. -/
structure TokenAuth where
  token : String
  deriving DecidableEq, Repr

/-- Kubernetes authentication. -/
structure KubernetesAuth where
  role : String
  mountPath : String
  deriving DecidableEq, Repr

/-- The Vault authentication methods of the configuration. -/
structure VaultAuthConfig where
  appRole : Option AppRoleAuth
  token : Option TokenAuth
  kubernetes : Option KubernetesAuth
  deriving DecidableEq, Repr

/-- `expandEnvVars`: expand the placeholders of the AppRole role and secret IDs and of the
token; the rest of the configuration is left as it is. -/
def expandEnvVars (getenv : String → String) (auth : VaultAuthConfig) : VaultAuthConfig :=
  { auth with
    appRole := auth.appRole.map fun a =>
      { a with roleID := Env.expand getenv a.roleID, secretID := Env.expand getenv a.secretID }
    token := auth.token.map fun t => { t with token := Env.expand getenv t.token } }

namespace Env

/-! ### The scan -/

variable {repl : List Char → List Char}

/-- The scan passes over the rest of a replaced match. -/
theorem replaceAll_skip : ∀ (x r : List Char), replaceAll repl (x ++ r) x.length = replaceAll repl r 0
  | [], _ => rfl
  | _ :: x, r => replaceAll_skip x r

/-- A match is a placeholder of a non-empty name, followed by the rest of the text. -/
theorem eq_of_placeholderAt {l name : List Char} (h : placeholderAt l = some name) :
    ∃ rest, l = placeholder name ++ rest ∧ name ≠ [] := by
  unfold placeholderAt at h
  split at h
  next c rest =>
    simp only [Bool.and_eq_true, beq_iff_eq] at h
    split_ifs at h with hc
    cases h
    obtain ⟨rest', hrest'⟩ : ∃ rest', rest.dropWhile isNameChar = '}' :: rest' := by
      cases hd : rest.dropWhile isNameChar with
      | nil => simp [hd] at hc
      | cons d rest' => simp_all
    refine ⟨rest', ?_, List.cons_ne_nil _ _⟩
    conv_lhs => rw [← List.takeWhile_append_dropWhile isNameChar rest, hrest']
    simp [placeholder]
  next => cases h

/-- The scan replaces a match and goes on after it. -/
theorem replaceAll_placeholder {name rest : List Char}
    (h : placeholderAt (placeholder name ++ rest) = some name) :
    replaceAll repl (placeholder name ++ rest) 0 = repl name ++ replaceAll repl rest 0 := by
  have hs : placeholder name ++ rest = '$' :: (('{' :: name ++ ['}']) ++ rest) := by
    simp [placeholder]
  rw [hs, replaceAll, ← hs, h]
  dsimp only
  rw [show name.length + 2 = ('{' :: name ++ ['}']).length by simp, replaceAll_skip]

/-- **The scan by matches.** Each step of the scan either replaces a match or keeps one
character; a statement about the scan follows from these two cases by induction on the length
of the text. -/
theorem replaceAll_cons (repl : List Char → List Char) (c : Char) (s : List Char) :
    (∃ name rest, c :: s = placeholder name ++ rest ∧ name ≠ [] ∧
      replaceAll repl (c :: s) 0 = repl name ++ replaceAll repl rest 0) ∨
    replaceAll repl (c :: s) 0 = c :: replaceAll repl s 0 := by
  cases h : placeholderAt (c :: s) with
  | none => exact .inr (by rw [replaceAll, h])
  | some name =>
    obtain ⟨rest, hl, hne⟩ := eq_of_placeholderAt h
    refine .inl ⟨name, rest, hl, hne, ?_⟩
    rw [hl] at h ⊢
    exact replaceAll_placeholder h

theorem length_lt_of_placeholder {l name rest : List Char} (hl : l = placeholder name ++ rest) :
    rest.length < l.length := by
  simp [hl, placeholder]
  omega

/-- The scan leaves a text as it is when every match is replaced by itself. -/
theorem replaceAll_eq_self (hrepl : ∀ name, repl name = placeholder name) :
    ∀ l : List Char, replaceAll repl l 0 = l
  | [] => rfl
  | c :: s => by
    rcases replaceAll_cons repl c s with ⟨name, rest, hl, -, h⟩ | h
    · have := length_lt_of_placeholder hl
      rw [h, replaceAll_eq_self hrepl rest, hrepl, hl]
    · rw [h, replaceAll_eq_self hrepl s]
termination_by l => l.length

/-- The scan multiplies the bytes of a text by at most `k` when each replacement has at most
`k` times the bytes of its match. -/
theorem utf8Len_replaceAll_le {k : Nat} (hk : 1 ≤ k)
    (hrepl : ∀ name, name ≠ [] → String.utf8Len (repl name) ≤ k * String.utf8Len (placeholder name)) :
    ∀ l : List Char, String.utf8Len (replaceAll repl l 0) ≤ k * String.utf8Len l
  | [] => by simp [replaceAll]
  | c :: s => by
    rcases replaceAll_cons repl c s with ⟨name, rest, hl, hne, h⟩ | h
    · have := length_lt_of_placeholder hl
      calc String.utf8Len (replaceAll repl (c :: s) 0)
          = String.utf8Len (repl name) + String.utf8Len (replaceAll repl rest 0) := by
            rw [h, String.utf8Len_append]
        _ ≤ k * String.utf8Len (placeholder name) + k * String.utf8Len rest :=
            Nat.add_le_add (hrepl name hne) (utf8Len_replaceAll_le hk hrepl rest)
        _ = k * String.utf8Len (c :: s) := by rw [hl, String.utf8Len_append, Nat.mul_add]
    · have ihs := utf8Len_replaceAll_le hk hrepl s
      have hc := Nat.le_mul_of_pos_left c.utf8Size hk
      rw [h, String.utf8Len_cons, String.utf8Len_cons, Nat.mul_add]
      omega
termination_by l => l.length

/-! ### The expansion -/

/-- **Nothing to substitute.** When every variable is unset, empty or longer than
`maxEnvValueLength` bytes, the expansion leaves every text as written. -/
theorem expand_of_unset {getenv : String → String}
    (h : ∀ n, getenv n = "" ∨ maxEnvValueLength < (getenv n).utf8ByteSize) (s : String) :
    expand getenv s = s := by
  have hrepl : ∀ name, expandMatch getenv name = placeholder name := fun name => by
    unfold expandMatch
    rcases h ⟨name⟩ with h | h <;> simp [h]
  rw [expand, replaceAll_eq_self hrepl]

/-- With an empty environment the token placeholder is kept as written. -/
theorem expand_of_unset_token :
    (∀ n, (fun _ : String => "") n = "" ∨
        maxEnvValueLength < ((fun _ : String => "") n).utf8ByteSize) ∧
      expand (fun _ => "") "$\x7bVAULT_TOKEN\x7d" = "$\x7bVAULT_TOKEN\x7d" :=
  ⟨fun _ => .inl rfl, expand_of_unset (fun _ => .inl rfl) _⟩

/-- A placeholder has at least four bytes. -/
theorem four_le_utf8Len_placeholder {name : List Char} (hne : name ≠ []) :
    4 ≤ String.utf8Len (placeholder name) := by
  obtain ⟨c, cs, rfl⟩ := List.exists_cons_of_ne_nil hne
  have := c.utf8Size_pos
  have : '$'.utf8Size = 1 ∧ '{'.utf8Size = 1 ∧ '}'.utf8Size = 1 := by decide
  simp [placeholder]
  omega

/-- The replacement of a match has at most 2500 times the bytes of the match: a value has at
most `maxEnvValueLength` bytes and a match at least four. -/
theorem utf8Len_expandMatch_le (getenv : String → String) {name : List Char} (hne : name ≠ []) :
    String.utf8Len (expandMatch getenv name) ≤ 2500 * String.utf8Len (placeholder name) := by
  have h4 := four_le_utf8Len_placeholder hne
  unfold expandMatch
  dsimp only
  split_ifs with h₁ h₂
  · omega
  · have hval : String.utf8Len (getenv ⟨name⟩).data ≤ maxEnvValueLength := by
      rw [← String.utf8ByteSize_mk]
      exact not_lt.1 h₂
    unfold maxEnvValueLength at hval
    omega
  · omega

/-- **Bounded growth.** Whatever the environment, the expanded text has at most 2500 times the
bytes of the original. -/
theorem utf8ByteSize_expand_le (getenv : String → String) (s : String) :
    (expand getenv s).utf8ByteSize ≤ 2500 * s.utf8ByteSize := by
  obtain ⟨l⟩ := s
  rw [expand, String.utf8ByteSize_mk, String.utf8ByteSize_mk]
  exact utf8Len_replaceAll_le (by decide) (fun _ => utf8Len_expandMatch_le getenv) l

end Env

/-! ### The defaults -/

namespace Config

/-- `applyDefaults` on the fields the model keeps: the region and the Control Tower execution
role name, when empty. -/
def applyDefaults (c : Config) : Config :=
  { c with
    aws := { c.aws with
      region := if c.aws.region = "" then "us-east-1" else c.aws.region
      controlTower := { c.aws.controlTower with
        executionRole := { c.aws.controlTower.executionRole with
          name := if c.aws.controlTower.executionRole.name = "" then "AWSControlTowerExecution"
            else c.aws.controlTower.executionRole.name } } } }

/-- `LoadConfig` after decoding the document `decoded`: the defaults, then the region Viper
reads from `VSS_AWS_REGION` when it has one (`regionOverride`). -/
def LoadConfig (decoded : Config) (regionOverride : Option String) : Config :=
  let c := decoded.applyDefaults
  match regionOverride with
  | some region => { c with aws := { c.aws with region := region } }
  | none => c

/-- The role name default is the one the resolvers fall back to. -/
theorem controlTowerRoleName_default (name : String) :
    controlTowerRoleName (if name = "" then "AWSControlTowerExecution" else name) =
      controlTowerRoleName name := by
  unfold controlTowerRoleName
  split_ifs <;> simp_all

/-- The loaded configuration is the decoded one with other AWS settings: the same execution
context and Control Tower switch and path, a role name the resolvers read alike, and a region
that is the override or else the defaulted one. -/
theorem LoadConfig_aws (decoded : Config) (regionOverride : Option String) :
    LoadConfig decoded regionOverride = { decoded with aws := (LoadConfig decoded regionOverride).aws } ∧
      (LoadConfig decoded regionOverride).aws.executionContext = decoded.aws.executionContext ∧
      (LoadConfig decoded regionOverride).aws.controlTower.enabled = decoded.aws.controlTower.enabled ∧
      (LoadConfig decoded regionOverride).aws.controlTower.executionRole.path =
        decoded.aws.controlTower.executionRole.path ∧
      controlTowerRoleName (LoadConfig decoded regionOverride).aws.controlTower.executionRole.name =
        controlTowerRoleName decoded.aws.controlTower.executionRole.name ∧
      (LoadConfig decoded regionOverride).aws.region =
        regionOverride.getD (if decoded.aws.region = "" then "us-east-1" else decoded.aws.region) := by
  cases regionOverride <;>
    exact ⟨rfl, rfl, rfl, rfl, controlTowerRoleName_default _, rfl⟩

/-- **The defaults.** Whatever was decoded, the loaded configuration passes and fails
validation as the decoded one does, both role resolvers give every account the role they gave
before, and, unless Viper overrides the region with an empty one, every target discovered from
it has a region. -/
theorem LoadConfig_spec (decoded : Config) {regionOverride : Option String}
    (hoverride : ∀ region, regionOverride = some region → region ≠ "") :
    (LoadConfig decoded regionOverride).Validate = decoded.Validate ∧
      (∀ accountID, (LoadConfig decoded regionOverride).GetRoleARN accountID =
        decoded.GetRoleARN accountID) ∧
      (∀ caller accountID,
        AWSExecutionContext.GetRoleARN ⟨(LoadConfig decoded regionOverride).aws, caller⟩ accountID =
          AWSExecutionContext.GetRoleARN ⟨decoded.aws, caller⟩ accountID) ∧
      ∀ (disc : Discoverers) (dt : DynamicTarget) (acct : AccountInfo),
        ((DiscoveryService.mk (LoadConfig decoded regionOverride) disc).discoveredTarget dt
          acct).region ≠ "" := by
  obtain ⟨hcfg, hctx, hen, hpath, hname, hregion⟩ := LoadConfig_aws decoded regionOverride
  have hset : (LoadConfig decoded regionOverride).aws.region ≠ "" := by
    rw [hregion]
    cases regionOverride with
    | some region => exact hoverride region rfl
    | none => dsimp only [Option.getD]; split_ifs with h <;> simp [h]
  refine ⟨by rw [hcfg]; rfl, fun accountID => ?_, fun caller accountID => ?_,
    fun disc dt acct => ?_⟩
  · rw [GetRoleARN, GetRoleARN, hname, hen, hpath, hctx, hcfg]
  · simp only [AWSExecutionContext.GetRoleARN, hname, hen, hpath, hctx]
  · unfold DiscoveryService.discoveredTarget
    dsimp only
    split_ifs with h
    · exact hset
    · exact h

/-- A document with no region and no role name, loaded without an override. -/
theorem LoadConfig_spec_unset :
    (∀ region, (none : Option String) = some region → region ≠ "") ∧
      (LoadConfig { sandboxConfig with aws := ⟨"", ⟨""⟩, ⟨true, ⟨"", ""⟩⟩⟩ } none).Validate =
        ({ sandboxConfig with aws := ⟨"", ⟨""⟩, ⟨true, ⟨"", ""⟩⟩⟩ } : Config).Validate ∧
      (∀ accountID, (LoadConfig { sandboxConfig with aws := ⟨"", ⟨""⟩, ⟨true, ⟨"", ""⟩⟩⟩ }
          none).GetRoleARN accountID =
        ({ sandboxConfig with aws := ⟨"", ⟨""⟩, ⟨true, ⟨"", ""⟩⟩⟩ } : Config).GetRoleARN
          accountID) ∧
      (∀ caller accountID, AWSExecutionContext.GetRoleARN
          ⟨(LoadConfig { sandboxConfig with aws := ⟨"", ⟨""⟩, ⟨true, ⟨"", ""⟩⟩⟩ } none).aws,
            caller⟩ accountID =
        AWSExecutionContext.GetRoleARN ⟨⟨"", ⟨""⟩, ⟨true, ⟨"", ""⟩⟩⟩, caller⟩ accountID) ∧
      ∀ (disc : Discoverers) (dt : DynamicTarget) (acct : AccountInfo),
        ((DiscoveryService.mk (LoadConfig { sandboxConfig with aws := ⟨"", ⟨""⟩, ⟨true, ⟨"", ""⟩⟩⟩ }
          none) disc).discoveredTarget dt acct).region ≠ "" :=
  have hnone : ∀ region, (none : Option String) = some region → region ≠ "" := fun _ h => nomatch h
  ⟨hnone, LoadConfig_spec _ hnone⟩

example : (LoadConfig { sandboxConfig with aws := ⟨"", ⟨""⟩, ⟨true, ⟨"", ""⟩⟩⟩ } none).aws =
    ⟨"us-east-1", ⟨""⟩, ⟨true, ⟨"AWSControlTowerExecution", ""⟩⟩⟩ := rfl

end Config

end VaultSecretSync
