import VaultSecretSync.Pipeline.Steps
import VaultSecretSync.Utils.Strings

/-!
# The keys of the S3 merge store

The S3 merge store keeps the merged secret `s` of target `t` under the key
`<prefix>/<t>/<s>.json`. Three functions normalise the prefix alike (a slash added to a
non-empty prefix that lacks one): `keyPath`, which names an object, `ListSecrets`, which
reads the secret names of a target back from the keys S3 lists, and `GetMergePath`, the
`s3://<bucket>/<prefix>/<t>` path the pipeline reports.

S3 lists the keys of the bucket that start with the requested prefix; `ListSecrets` takes the
bucket's keys and lists them so, all pages joined; the paginator's loop and its failing pages
are left out.

`keyPath_ListSecrets` is the round trip: for names free of `/`, the key of a secret is the
reported merge path with its scheme and bucket removed, followed by `/<s>.json`;
`ListSecrets` recovers the name from it and from no other target's key, so `keyPath` is
injective on such names.
-/

namespace VaultSecretSync

namespace S3MergeStore

variable (st : S3MergeStore)

/-- `keyPath`: the key of a target's secret, `<prefix>/<target>/<secret>.json`. -/
def keyPath (targetName secretName : String) : String :=
  let pfx := if st.keyPrefix ≠ "" ∧ !st.keyPrefix.endsWith "/" then st.keyPrefix ++ "/"
    else st.keyPrefix
  pfx ++ targetName ++ "/" ++ secretName ++ ".json"

/-- `ListSecrets` over the bucket's keys `objects`: the keys S3 lists under the target's
prefix, each without that prefix and the `.json` suffix, kept when non-empty and free of
`/`. -/
def ListSecrets (targetName : String) (objects : List String) : List String :=
  let pfx := if st.keyPrefix ≠ "" ∧ !st.keyPrefix.endsWith "/" then st.keyPrefix ++ "/"
    else st.keyPrefix
  let targetPrefix := pfx ++ targetName ++ "/"
  (objects.filter fun key => Strings.HasPrefix key targetPrefix).filterMap fun key =>
    let name := Strings.TrimSuffix (Strings.TrimPrefix key targetPrefix) ".json"
    if name ≠ "" ∧ !Strings.Contains name "/" then some name else none

/-! ### One normalised prefix -/

/-- The key prefix as the three functions normalise it. -/
def normalizedPrefix : String :=
  if st.keyPrefix ≠ "" ∧ !st.keyPrefix.endsWith "/" then st.keyPrefix ++ "/" else st.keyPrefix

theorem keyPath_eq (t n : String) :
    st.keyPath t n = st.normalizedPrefix ++ t ++ "/" ++ n ++ ".json" := rfl

theorem GetMergePath_eq (t : String) :
    st.GetMergePath t = "s3://" ++ st.bucket ++ "/" ++ st.normalizedPrefix ++ t := rfl

theorem ListSecrets_eq (t : String) (objects : List String) :
    st.ListSecrets t objects =
      (objects.filter fun key => Strings.HasPrefix key (st.normalizedPrefix ++ t ++ "/")).filterMap
        fun key =>
          let name := Strings.TrimSuffix (Strings.TrimPrefix key (st.normalizedPrefix ++ t ++ "/"))
            ".json"
          if name ≠ "" ∧ !Strings.Contains name "/" then some name else none := rfl

theorem ListSecrets_append (t : String) (l₁ l₂ : List String) :
    st.ListSecrets t (l₁ ++ l₂) = st.ListSecrets t l₁ ++ st.ListSecrets t l₂ := by
  simp only [ListSecrets, List.filter_append, List.filterMap_append]

/-! ### Reading a key back -/

/-- A prefix `t/` of `t₂/…` names the same target, when neither name has a `/`. -/
theorem eq_of_prefix_slash : ∀ {t t₂ r : List Char}, '/' ∉ t → '/' ∉ t₂ →
    t ++ ['/'] <+: t₂ ++ '/' :: r → t = t₂
  | [], [], _, _, _, _ => rfl
  | [], b :: _, _, _, h₂, h => by
    obtain ⟨rfl, -⟩ := List.cons_prefix_cons.1 h
    exact absurd (List.mem_cons_self _ _) h₂
  | a :: _, [], _, h₁, _, h => by
    obtain ⟨rfl, -⟩ := List.cons_prefix_cons.1 h
    exact absurd (List.mem_cons_self _ _) h₁
  | a :: t, b :: t₂, _, h₁, h₂, h => by
    obtain ⟨rfl, htl⟩ := List.cons_prefix_cons.1 h
    rw [eq_of_prefix_slash (fun hm => h₁ (List.mem_cons_of_mem a hm))
      (fun hm => h₂ (List.mem_cons_of_mem a hm)) htl]

/-- `ListSecrets` of a target reads the name of its own secret back from the secret's key. -/
theorem ListSecrets_keyPath {t n : String} (hn : n ≠ "") (hs : '/' ∉ n.data) :
    st.ListSecrets t [st.keyPath t n] = [n] := by
  have hkey : st.keyPath t n = (st.normalizedPrefix ++ t ++ "/") ++ (n ++ ".json") := by
    simp only [keyPath_eq, String.append_assoc]
  have hc : Strings.Contains n "/" = false :=
    Bool.eq_false_iff.2 fun h => hs (Strings.Contains_singleton_iff.1 h)
  simp [ListSecrets_eq, hkey, Strings.HasPrefix, hn, hc]

/-- `ListSecrets` of a target lists nothing from the key of another target, when neither name
has a `/`. -/
theorem ListSecrets_keyPath_of_ne {t t₂ n₂ : String} (ht : '/' ∉ t.data)
    (ht₂ : '/' ∉ t₂.data)
    (hne : t₂ ≠ t) : st.ListSecrets t [st.keyPath t₂ n₂] = [] := by
  have hpre :
      Strings.HasPrefix (st.keyPath t₂ n₂) (st.normalizedPrefix ++ t ++ "/") = false := by
    rw [Bool.eq_false_iff]
    intro h
    rw [Strings.HasPrefix_iff] at h
    simp only [keyPath_eq, String.data_append, List.append_assoc,
      List.prefix_append_right_inj] at h
    exact hne (String.ext (eq_of_prefix_slash ht ht₂ h).symm)
  simp [ListSecrets_eq, hpre]

/-- Over a bucket of secret keys with names free of `/`, `ListSecrets` of a target lists the
names of that target's secrets, in the bucket's order. -/
theorem ListSecrets_map_keyPath {t : String} (ht : '/' ∉ t.data) :
    ∀ ks : List (String × String),
      (∀ k ∈ ks, '/' ∉ k.1.data ∧ k.2 ≠ "" ∧ '/' ∉ k.2.data) →
      st.ListSecrets t (ks.map fun k => st.keyPath k.1 k.2) = (ks.filter (·.1 = t)).map (·.2)
  | [], _ => rfl
  | (t₂, n₂) :: ks, h => by
    obtain ⟨ht₂, hn₂, hs₂⟩ := h (t₂, n₂) (List.mem_cons_self _ _)
    have ih := ListSecrets_map_keyPath ht ks fun k hk => h k (List.mem_cons_of_mem _ hk)
    rw [List.map_cons, ← List.singleton_append, ListSecrets_append, ih, List.filter_cons]
    by_cases hne : t₂ = t
    · subst hne
      simp [st.ListSecrets_keyPath hn₂ hs₂]
    · simp [st.ListSecrets_keyPath_of_ne ht ht₂ hne, hne]

/-- **Round trip of the keys.** For target and secret names free of `/`, the key of a secret is
the merge path with its `s3://<bucket>/` removed, followed by `/<secret>.json`; `ListSecrets`
reads the secret's name back from its key and no name from another target's key, and no two
such name pairs share a key. -/
theorem keyPath_ListSecrets (t n : String) (ht : t ≠ "" ∧ '/' ∉ t.data)
    (hn : n ≠ "" ∧ '/' ∉ n.data) :
    Strings.TrimPrefix (st.GetMergePath t) ("s3://" ++ st.bucket ++ "/") ++ "/" ++ n ++ ".json" =
        st.keyPath t n ∧
      st.ListSecrets t [st.keyPath t n] = [n] ∧
      (∀ t₂ n₂, t₂ ≠ "" ∧ '/' ∉ t₂.data → t₂ ≠ t → st.ListSecrets t [st.keyPath t₂ n₂] = []) ∧
      ∀ t₂ n₂, t₂ ≠ "" ∧ '/' ∉ t₂.data → n₂ ≠ "" ∧ '/' ∉ n₂.data →
        st.keyPath t₂ n₂ = st.keyPath t n → t₂ = t ∧ n₂ = n := by
  have hother :
      ∀ t₂ n₂, '/' ∉ t₂.data → t₂ ≠ t → st.ListSecrets t [st.keyPath t₂ n₂] = [] :=
    fun _ _ ht₂ hne => st.ListSecrets_keyPath_of_ne ht.2 ht₂ hne
  refine ⟨?_, st.ListSecrets_keyPath hn.1 hn.2, fun t₂ n₂ ht₂ => hother t₂ n₂ ht₂.2,
    fun t₂ n₂ ht₂ hn₂ heq => ?_⟩
  · rw [GetMergePath_eq, String.append_assoc _ st.normalizedPrefix, Strings.TrimPrefix_append,
      keyPath_eq]
  · have hread := st.ListSecrets_keyPath (t := t) hn.1 hn.2
    by_cases hne : t₂ = t
    · subst hne
      rw [← heq, st.ListSecrets_keyPath hn₂.1 hn₂.2, List.singleton_inj] at hread
      exact ⟨rfl, hread⟩
    · rw [← heq, hother t₂ n₂ ht₂.2 hne] at hread
      exact absurd hread (List.cons_ne_nil n []).symm

theorem keyPath_ListSecrets_merged :
    (("prod" : String) ≠ "" ∧ '/' ∉ ("prod" : String).data) ∧
      (("db" : String) ≠ "" ∧ '/' ∉ ("db" : String).data) ∧
    Strings.TrimPrefix ((⟨"bucket", "merged"⟩ : S3MergeStore).GetMergePath "prod")
        ("s3://" ++ "bucket" ++ "/") ++ "/" ++ "db" ++ ".json" =
        (⟨"bucket", "merged"⟩ : S3MergeStore).keyPath "prod" "db" ∧
      (⟨"bucket", "merged"⟩ : S3MergeStore).ListSecrets "prod"
          [(⟨"bucket", "merged"⟩ : S3MergeStore).keyPath "prod" "db"] = ["db"] ∧
      (∀ t₂ n₂, t₂ ≠ "" ∧ '/' ∉ t₂.data → t₂ ≠ "prod" →
        (⟨"bucket", "merged"⟩ : S3MergeStore).ListSecrets "prod"
          [(⟨"bucket", "merged"⟩ : S3MergeStore).keyPath t₂ n₂] = []) ∧
      ∀ t₂ n₂, t₂ ≠ "" ∧ '/' ∉ t₂.data → n₂ ≠ "" ∧ '/' ∉ n₂.data →
        (⟨"bucket", "merged"⟩ : S3MergeStore).keyPath t₂ n₂ =
          (⟨"bucket", "merged"⟩ : S3MergeStore).keyPath "prod" "db" → t₂ = "prod" ∧ n₂ = "db" :=
  have ht : ("prod" : String) ≠ "" ∧ '/' ∉ ("prod" : String).data :=
    ⟨by decide, by decide⟩
  have hn : ("db" : String) ≠ "" ∧ '/' ∉ ("db" : String).data := ⟨by decide, by decide⟩
  ⟨ht, hn, keyPath_ListSecrets ⟨"bucket", "merged"⟩ "prod" "db" ht hn⟩

end S3MergeStore

end VaultSecretSync
