import VaultSecretSync.Config
import VaultSecretSync.Utils.DeepMerge
import VaultSecretSync.Utils.Strings
import Mathlib.Data.List.Sort
import Mathlib.Data.String.Basic

/-!
# Writing secrets to Doppler

`DopplerClient.WriteSecret` decodes a secret payload into a Go map and walks it in map iteration
order: it skips the `nil` and empty-string values, renames each key by `transformName` (upper
case unless the store asks for `lower` or `none`), encodes each value as a string, and stores it
under the new name in the map `dopplerSecrets`. That map is the `secrets` field of the one
request the store posts; `json.Marshal` writes its entries in increasing order of their names
(`secretsBody`).

The payload is a `GoMap Json`, whose `entries` are the order `range` visits it, so two payloads
whose entries are permutations of each other are one Go map visited in two orders. Go's
`json.Marshal` and `fmt.Sprintf("%v", …)` of a value are an oracle (`ValueEncoder`).

* `lookup_dopplerSecrets`: the value stored under a name is the one of the **last** key, in
  iteration order, that is kept and renamed to that name.
* `WriteSecret_ok`: a request is posted exactly when some key is kept, and its body lists each
  new name once, in increasing order, with that value (`secretsBody_spec`).
* `WriteSecret_perm`: when no two kept keys are renamed alike, every iteration order gives the
  same request.

Two keys that differ in case only, such as `db` and `DB`, are renamed alike by the default
transform, and then the value written is the one of whichever key the iteration visits last.
-/

namespace VaultSecretSync

/-- The settings of the Doppler store that `WriteSecret` reads; the token, base URL and HTTP
client only address the request, which is left out. -/
structure DopplerClient where
  project : String
  config : String
  merge : Option Bool
  nameTransform : String
  deriving DecidableEq, Repr

/-- Go's encodings of a decoded value, as oracles: `json.Marshal` of a map or a slice (`none`
for an error) and `fmt.Sprintf("%v", v)` of any other value. -/
structure ValueEncoder where
  marshal : Json → Option String
  sprint : Json → String

/-- The request `WriteSecret` posts: its API path and the `project`, `config` and `secrets`
fields of its body, the secrets as `json.Marshal` writes the map. -/
structure SecretsRequest where
  apiPath : String
  project : String
  config : String
  secrets : List (String × String)
  deriving DecidableEq, Repr

namespace DopplerClient

/-- `transformName`: the name Doppler stores a key under, upper case by default. -/
def transformName (c : DopplerClient) (name : String) : String :=
  match Strings.ToLower c.nameTransform with
  | "upper" => Strings.ToUpper name
  | "lower" => Strings.ToLower name
  | "none" => name
  | _ => Strings.ToUpper name

/-- The default transform upper-cases every letter, so `é` and `É` are one name. -/
example : (DopplerClient.mk "p" "c" none "").transformName "é" =
    (DopplerClient.mk "p" "c" none "").transformName "É" := by
  decide

/-- The string `WriteSecret` stores for a value: none for `nil`, for the empty string and for a
map or slice `json.Marshal` fails on (all skipped), the string itself, the JSON text of a map or
a slice, and `%v` of anything else. -/
def dopplerValue (enc : ValueEncoder) : Json → Option String
  | .null => none
  | .str s => if s = "" then none else some s
  | .obj fields => enc.marshal (.obj fields)
  | .arr items => enc.marshal (.arr items)
  | v => some (enc.sprint v)

/-- One iteration of `WriteSecret`'s loop: `dopplerSecrets[name] = value` for a kept value. -/
def putSecret (c : DopplerClient) (enc : ValueEncoder) (m : GoMap String)
    (e : Σ _ : String, Json) : GoMap String :=
  match dopplerValue enc e.2 with
  | some v => m.insert (c.transformName e.1) v
  | none => m

/-- The map `dopplerSecrets` that `WriteSecret`'s loop builds over the payload. -/
def dopplerSecrets (c : DopplerClient) (enc : ValueEncoder) (secrets : GoMap Json) :
    GoMap String :=
  secrets.entries.foldl (c.putSecret enc) ∅

/-- The API path: the secrets endpoint, with `?merge=true` when `Merge` is set and true. -/
def apiPath (c : DopplerClient) : String :=
  "/configs/config/secrets" ++ if c.merge = some true then "?merge=true" else ""

end DopplerClient

/-- A map as `json.Marshal` writes it: its entries in increasing order of their keys. -/
def secretsBody (m : GoMap String) : List (String × String) :=
  (m.keys.insertionSort (· ≤ ·)).filterMap fun k => (m.lookup k).map (k, ·)

namespace DopplerClient

/-- `DopplerClient.WriteSecret` after `json.Unmarshal`: `decoded` is the payload decoded into a
Go map, or the decoder's error. The result is the request the store posts, `none` when there is
no secret to write, or the error it returns. -/
def WriteSecret (c : DopplerClient) (enc : ValueEncoder) (decoded : Except String (GoMap Json)) :
    Except String (Option SecretsRequest) :=
  match decoded with
  | .error err => .error ("failed to unmarshal secrets: " ++ err)
  | .ok secrets =>
    let dopplerSecrets := c.dopplerSecrets enc secrets
    if dopplerSecrets.entries.length = 0 then .ok none
    else .ok (some ⟨c.apiPath, c.project, c.config, secretsBody dopplerSecrets⟩)

/-! ### The value stored under a name -/

/-- The kept entries of a payload under their new names, in iteration order. -/
def kept (c : DopplerClient) (enc : ValueEncoder) (l : List (Σ _ : String, Json)) :
    List (String × String) :=
  l.filterMap fun e => (dopplerValue enc e.2).map fun v => (c.transformName e.1, v)

variable {c : DopplerClient} {enc : ValueEncoder}

/-- **The last key wins.** The value `dopplerSecrets` stores under a name is the one of the last
kept key, in iteration order, that `transformName` renames to it. -/
theorem lookup_dopplerSecrets (s : GoMap Json) (n : String) :
    (c.dopplerSecrets enc s).lookup n = (kept c enc s.entries).reverse.lookup n := by
  rw [dopplerSecrets, lookup_foldl_insertSome
    (fun e => (dopplerValue enc e.2).map fun v => (c.transformName e.1, v)) (c.putSecret enc)
    (fun m e => by unfold putSecret; cases h : dopplerValue enc e.2 <;> simp [h]),
    AList.lookup_empty, Option.or_none, kept]

/-- The names `dopplerSecrets` holds are the new names of the kept keys. -/
theorem mem_dopplerSecrets {s : GoMap Json} {n : String} :
    n ∈ c.dopplerSecrets enc s ↔ n ∈ (kept c enc s.entries).map Prod.fst := by
  rw [← AList.lookup_isSome, lookup_dopplerSecrets, Option.isSome_iff_ne_none,
    ← mem_keys_iff_lookup, List.map_reverse, List.mem_reverse]

/-- `dopplerSecrets` is empty exactly when no key is kept. -/
theorem dopplerSecrets_eq_nil {s : GoMap Json} :
    (c.dopplerSecrets enc s).entries = [] ↔ kept c enc s.entries = [] := by
  rw [← List.map_eq_nil_iff (f := Sigma.fst), ← List.map_eq_nil_iff (f := Prod.fst),
    List.eq_nil_iff_forall_not_mem, List.eq_nil_iff_forall_not_mem]
  exact forall_congr' fun _ => not_congr mem_dopplerSecrets

end DopplerClient

/-! ### The body `json.Marshal` writes -/

/-- Looking up each key of a list, in its order, lists the keys themselves. -/
theorem map_fst_filterMap_lookup (m : GoMap String) :
    ∀ {l : List String}, (∀ k ∈ l, k ∈ m) →
      (l.filterMap fun k => (m.lookup k).map (k, ·)).map Prod.fst = l
  | [], _ => rfl
  | k :: l, h => by
    obtain ⟨v, hv⟩ := Option.isSome_iff_exists.mp
      (AList.lookup_isSome.mpr (h k (List.mem_cons_self k l)))
    rw [List.filterMap_cons, hv, Option.map_some', List.map_cons,
      map_fst_filterMap_lookup m fun k' hk' => h k' (List.mem_cons_of_mem k hk')]

/-- The names `json.Marshal` writes are the keys of the map, in increasing order. -/
theorem map_fst_secretsBody (m : GoMap String) :
    (secretsBody m).map Prod.fst = m.keys.insertionSort (· ≤ ·) :=
  map_fst_filterMap_lookup m fun _ hk => AList.mem_keys.mp ((List.mem_insertionSort _).mp hk)

/-- **The body round-trips.** `json.Marshal` writes each entry of a map once, in strictly
increasing order of the keys, with its value. -/
theorem secretsBody_spec (m : GoMap String) :
    ((secretsBody m).map Prod.fst).Sorted (· < ·) ∧
      ∀ k, (secretsBody m).lookup k = m.lookup k := by
  have hnd : ((secretsBody m).map Prod.fst).Nodup := by
    rw [map_fst_secretsBody, (List.perm_insertionSort _ _).nodup_iff]
    exact m.keys_nodup
  refine ⟨by rw [map_fst_secretsBody] at hnd ⊢; exact (List.sorted_insertionSort _ _).lt_of_le hnd,
    fun k => ?_⟩
  have hmem : k ∈ m.keys.insertionSort (· ≤ ·) ↔ (m.lookup k).isSome := by
    rw [List.mem_insertionSort, AList.lookup_isSome]
    exact AList.mem_keys
  cases h : m.lookup k with
  | none =>
    refine lookup_eq_none_of_not_mem ?_
    rw [map_fst_secretsBody, hmem, h]
    exact Bool.false_ne_true
  | some v => exact lookup_of_mem hnd (List.mem_filterMap.mpr ⟨k, by rw [hmem, h]; rfl, by rw [h]; rfl⟩)

/-- Two maps with the same lookups list the same entries, up to order. -/
theorem entries_perm_of_lookup {m₁ m₂ : GoMap String} (h : ∀ n, m₁.lookup n = m₂.lookup n) :
    m₁.entries.Perm m₂.entries :=
  List.lookup_ext m₁.nodupKeys m₂.nodupKeys fun x y => by
    show y ∈ m₁.lookup x ↔ y ∈ m₂.lookup x
    rw [h]

/-- `json.Marshal` writes two maps with the same lookups alike. -/
theorem secretsBody_congr {m₁ m₂ : GoMap String} (h : ∀ n, m₁.lookup n = m₂.lookup n) :
    secretsBody m₁ = secretsBody m₂ := by
  have hkeys : m₁.keys.insertionSort (· ≤ ·) = m₂.keys.insertionSort (· ≤ ·) :=
    List.eq_of_perm_of_sorted ((List.perm_insertionSort _ _).trans
        (((entries_perm_of_lookup h).map Sigma.fst).trans (List.perm_insertionSort _ _).symm))
      (List.sorted_insertionSort _ _) (List.sorted_insertionSort _ _)
  simp only [secretsBody, hkeys, h]

namespace DopplerClient

variable {c : DopplerClient} {enc : ValueEncoder}

/-! ### The request -/

/-- **The request written.** For a decoded payload `WriteSecret` posts a request exactly when it
keeps some key. The request goes to the store's path, project and config, and its secrets list
each new name once, in increasing order, with the value of the last kept key renamed to it. -/
theorem WriteSecret_ok (s : GoMap Json) : ∃ r, c.WriteSecret enc (.ok s) = .ok r ∧
    (r = none ↔ kept c enc s.entries = []) ∧
    ∀ req ∈ r, req.apiPath = c.apiPath ∧ req.project = c.project ∧ req.config = c.config ∧
      (req.secrets.map Prod.fst).Sorted (· < ·) ∧
      ∀ n, req.secrets.lookup n = (kept c enc s.entries).reverse.lookup n := by
  simp only [WriteSecret, List.length_eq_zero]
  split_ifs with h
  · exact ⟨none, rfl, iff_of_true rfl (dopplerSecrets_eq_nil.mp h), nofun⟩
  · refine ⟨_, rfl, iff_of_false nofun (mt dopplerSecrets_eq_nil.mpr h), ?_⟩
    rintro _ ⟨⟩
    exact ⟨rfl, rfl, rfl, (secretsBody_spec _).1,
      fun n => ((secretsBody_spec _).2 n).trans (lookup_dopplerSecrets s n)⟩

/-! ### Order independence -/

/-- No two kept entries of `l` get the same name when no two kept keys are renamed alike. -/
theorem nodup_kept {l : List (Σ _ : String, Json)} (hl : l.NodupKeys)
    (hinj : ∀ e ∈ l, ∀ e' ∈ l, (dopplerValue enc e.2).isSome → (dopplerValue enc e'.2).isSome →
      c.transformName e.1 = c.transformName e'.1 → e.1 = e'.1) :
    ((kept c enc l).map Prod.fst).Nodup := by
  rw [List.nodupKeys_iff_pairwise] at hl
  rw [List.Nodup, List.pairwise_map]
  refine (List.Pairwise.and_mem.mp hl).filterMap _ fun e e' ⟨he, he', hne⟩ b hb b' hb' heq =>
    hne ?_
  simp only [Option.mem_def, Option.map_eq_some'] at hb hb'
  obtain ⟨v, hv, rfl⟩ := hb
  obtain ⟨v', hv', rfl⟩ := hb'
  exact hinj e he e' he' (by simp [hv]) (by simp [hv']) heq

/-- `WriteSecret` depends on the payload only through the lookups of `dopplerSecrets`. -/
theorem WriteSecret_congr {s₁ s₂ : GoMap Json}
    (h : ∀ n, (c.dopplerSecrets enc s₁).lookup n = (c.dopplerSecrets enc s₂).lookup n) :
    c.WriteSecret enc (.ok s₁) = c.WriteSecret enc (.ok s₂) := by
  simp only [WriteSecret, (entries_perm_of_lookup h).length_eq, secretsBody_congr h]

/-- **Order independence.** When no two kept keys of the payload are renamed alike, every
iteration order of the payload gives the same request. -/
theorem WriteSecret_perm {s₁ s₂ : GoMap Json} (hp : s₁.entries.Perm s₂.entries)
    (hinj : ∀ e ∈ s₁.entries, ∀ e' ∈ s₁.entries, (dopplerValue enc e.2).isSome →
      (dopplerValue enc e'.2).isSome → c.transformName e.1 = c.transformName e'.1 → e.1 = e'.1) :
    c.WriteSecret enc (.ok s₁) = c.WriteSecret enc (.ok s₂) := by
  have hnd : ((kept c enc s₁.entries).reverse.map Prod.fst).Nodup := by
    rw [List.map_reverse, List.nodup_reverse]
    exact nodup_kept s₁.nodupKeys hinj
  refine WriteSecret_congr fun n => ?_
  rw [lookup_dopplerSecrets, lookup_dopplerSecrets]
  exact lookup_eq_of_perm hnd
    ((List.reverse_perm _).trans ((hp.filterMap _).trans (List.reverse_perm _).symm)) n

/-- With the transform `none` the names are the keys themselves, so every iteration order gives
the same request. -/
theorem WriteSecret_perm_of_none {s₁ s₂ : GoMap Json}
    (hc : Strings.ToLower c.nameTransform = "none") (hp : s₁.entries.Perm s₂.entries) :
    c.WriteSecret enc (.ok s₁) = c.WriteSecret enc (.ok s₂) :=
  WriteSecret_perm hp fun e _ e' _ _ _ h => by simpa only [transformName, hc] using h

end DopplerClient

/-! ### Keys that differ in case -/

/-- A payload with the keys `db` and `DB`, visited `DB` first. -/
def payloadDbLast : GoMap Json :=
  ((∅ : GoMap Json).insert "db" (.str "a")).insert "DB" (.str "b")

/-- The same payload visited `db` first. -/
def payloadDbFirst : GoMap Json :=
  ((∅ : GoMap Json).insert "DB" (.str "b")).insert "db" (.str "a")

/-- A store with the default name transform. -/
def defaultTransformClient : DopplerClient := ⟨"app", "prd", none, ""⟩

/-- Under the default transform `db` and `DB` are both renamed `DB`, and the request carries the
value of whichever key the iteration visits last. -/
theorem WriteSecret_case_race (enc : ValueEncoder) :
    payloadDbLast.entries.Perm payloadDbFirst.entries ∧
    defaultTransformClient.WriteSecret enc (.ok payloadDbLast) =
      .ok (some ⟨"/configs/config/secrets", "app", "prd", [("DB", "a")]⟩) ∧
    defaultTransformClient.WriteSecret enc (.ok payloadDbFirst) =
      .ok (some ⟨"/configs/config/secrets", "app", "prd", [("DB", "b")]⟩) :=
  ⟨AList.insert_insert_of_ne _ (by decide), rfl, rfl⟩

/-- A store that keeps the keys' names. -/
def keepNamesClient : DopplerClient := ⟨"app", "prd", none, "none"⟩

/-- With the transform `none`, the payload gives one request whichever of `db` and `DB` the
iteration visits first. -/
theorem WriteSecret_perm_of_none_dbCase :
    Strings.ToLower keepNamesClient.nameTransform = "none" ∧
      payloadDbLast.entries.Perm payloadDbFirst.entries ∧
      keepNamesClient.WriteSecret ⟨fun _ => none, fun _ => ""⟩ (.ok payloadDbLast) =
        keepNamesClient.WriteSecret ⟨fun _ => none, fun _ => ""⟩ (.ok payloadDbFirst) :=
  have hp : payloadDbLast.entries.Perm payloadDbFirst.entries :=
    AList.insert_insert_of_ne _ (by decide)
  ⟨rfl, hp, DopplerClient.WriteSecret_perm_of_none rfl hp⟩

end VaultSecretSync
