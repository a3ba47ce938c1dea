import VaultSecretSync.Pipeline.S3Store
import VaultSecretSync.Utils.DeepMerge

/-!
# The objects of the S3 merge store

`WriteSecret` marshals a secret's data to JSON and puts it under the secret's key, asking for
KMS encryption with the configured key or, without one, for AES256. `ReadSecret` gets the
object and unmarshals its body, and `DeleteSecret` deletes it. The bucket is the map from keys
to objects. S3's answers are inputs: the error a put or a delete returns, if any, and the error
a get returns for a missing key. `JsonCodec` gives what `json.Marshal` and `json.Unmarshal`
make of the data and of a body. A failed request leaves the bucket as it was.

A run of requests is modelled twice: on the bucket (`runRequests`), and as what the store is
for, the data of each live secret (`Contents`, the last successful write of a target's secret
unless a successful delete came after it). For names free of `/` (and non-empty secret names),
every run keeps the two related (`Related`, `Related_handle`), so that from an empty bucket
(`runRequests_refines`):

* **Listing** (`mem_ListSecrets_runRequests`): `ListSecrets` over the bucket's keys lists
  exactly the live secrets of the target;
* **Reading** (`ReadSecret_runRequests`): when `json.Unmarshal` inverts `json.Marshal`,
  `ReadSecret` returns the live data, and for a secret that is not live the get error;
* **Encryption** (`runRequests_encrypted`): every object in the bucket asks for the encryption
  the store is configured with.
-/

namespace VaultSecretSync

namespace S3MergeStore

/-- An object as `PutObject` writes it: the body, its content type and the server-side
encryption asked for. -/
structure Object where
  body : String
  contentType : String
  serverSideEncryption : String
  sseKMSKeyId : Option String
  deriving DecidableEq, Repr

/-- The bucket's objects by key. -/
abbrev Bucket := GoMap Object

/-- What `json.Marshal` makes of a secret's data (an error for a value it cannot encode) and what
`json.Unmarshal` makes of a body. -/
structure JsonCodec where
  marshal : GoMap Json → Except String String
  unmarshal : String → Except String (GoMap Json)

/-- A request to the store, with S3's answer to it. -/
inductive Request
  | write (targetName secretName : String) (data : GoMap Json) (putErr : Option String)
  | delete (targetName secretName : String) (deleteErr : Option String)

/-- A target name free of `/`. -/
def ValidTarget (targetName : String) : Prop := '/' ∉ targetName.data

/-- A secret name that is non-empty and free of `/`, as `ListSecrets` lists. -/
def ValidName (secretName : String) : Prop := secretName ≠ "" ∧ '/' ∉ secretName.data

/-- The request's names are valid. -/
def Request.Valid : Request → Prop
  | .write t s _ _ => ValidTarget t ∧ ValidName s
  | .delete t s _ => ValidTarget t ∧ ValidName s

variable (st : S3MergeStore) (kmsKeyID : String) (codec : JsonCodec)

/-- The object `WriteSecret` puts for a body: JSON, encrypted with the KMS key when one is
configured, else with AES256. -/
def putObject (body : String) : Object :=
  if kmsKeyID ≠ "" then ⟨body, "application/json", "aws:kms", some kmsKeyID⟩
  else ⟨body, "application/json", "AES256", none⟩

@[simp]
theorem putObject_body (body : String) : (putObject kmsKeyID body).body = body := by
  unfold putObject
  split_ifs <;> rfl

/-- `WriteSecret`: marshal the data and put it under the secret's key; `putErr` is the error
`PutObject` returns, if any. -/
def WriteSecret (bucket : Bucket) (targetName secretName : String) (data : GoMap Json)
    (putErr : Option String) : Except String Bucket :=
  match codec.marshal data with
  | .error err => .error ("failed to marshal secret data: " ++ err)
  | .ok body =>
    match putErr with
    | some err => .error ("failed to put object: " ++ err)
    | none => .ok (bucket.insert (st.keyPath targetName secretName) (putObject kmsKeyID body))

/-- `ReadSecret`: get the secret's object and unmarshal its body; `getErr` is the error
`GetObject` returns for a missing key. -/
def ReadSecret (bucket : Bucket) (targetName secretName getErr : String) :
    Except String (GoMap Json) :=
  match bucket.lookup (st.keyPath targetName secretName) with
  | none => .error ("failed to get object: " ++ getErr)
  | some obj =>
    match codec.unmarshal obj.body with
    | .error err => .error ("failed to unmarshal secret: " ++ err)
    | .ok data => .ok data

/-- `DeleteSecret`: delete the secret's object; `deleteErr` is the error `DeleteObject`
returns, if any. -/
def DeleteSecret (bucket : Bucket) (targetName secretName : String)
    (deleteErr : Option String) : Except String Bucket :=
  match deleteErr with
  | some err => .error ("failed to delete object: " ++ err)
  | none => .ok (bucket.erase (st.keyPath targetName secretName))

/-- One request; a failed one leaves the bucket as it was. -/
def handle (bucket : Bucket) : Request → Bucket
  | .write t s data putErr =>
    match st.WriteSecret kmsKeyID codec bucket t s data putErr with
    | .ok bucket' => bucket'
    | .error _ => bucket
  | .delete t s deleteErr =>
    match st.DeleteSecret bucket t s deleteErr with
    | .ok bucket' => bucket'
    | .error _ => bucket

/-- A run of requests. -/
def runRequests (bucket : Bucket) (rs : List Request) : Bucket :=
  rs.foldl (st.handle kmsKeyID codec) bucket

/-! ### What the store is for -/

/-- The data of each live secret of each target. -/
def Contents : Type := String → String → Option (GoMap Json)

/-- A request on the contents: a write that marshals and is put makes the data live, a delete
that succeeds removes the secret, and a failed request changes nothing. -/
def Request.apply (c : Contents) : Request → Contents
  | .write t s data putErr => fun t' s' =>
    match codec.marshal data, putErr with
    | .ok _, none => if t' = t ∧ s' = s then some data else c t' s'
    | _, _ => c t' s'
  | .delete t s deleteErr => fun t' s' =>
    match deleteErr with
    | none => if t' = t ∧ s' = s then none else c t' s'
    | some _ => c t' s'

/-- The contents after a run, from an empty store. -/
def contentsOf (rs : List Request) : Contents :=
  rs.foldl (Request.apply codec) fun _ _ => none

/-! ### The keys -/

/-- Secret keys of names free of `/` are distinct. -/
theorem keyPath_inj {t t₂ n n₂ : String} (ht : ValidTarget t) (ht₂ : ValidTarget t₂)
    (hn : ValidName n) (hn₂ : ValidName n₂) (h : st.keyPath t₂ n₂ = st.keyPath t n) :
    t₂ = t ∧ n₂ = n := by
  have hread := st.ListSecrets_keyPath (t := t) hn.1 hn.2
  by_cases hne : t₂ = t
  · subst hne
    rw [← h, st.ListSecrets_keyPath hn₂.1 hn₂.2, List.singleton_inj] at hread
    exact ⟨rfl, hread⟩
  · rw [← h, st.ListSecrets_keyPath_of_ne ht ht₂ hne] at hread
    exact absurd hread (List.cons_ne_nil n []).symm

/-- Over keys that are all secret keys of valid names, `ListSecrets` lists a valid name exactly
when its key is among them. -/
theorem mem_ListSecrets_of_keys {t n : String} (ht : ValidTarget t) (hn : ValidName n) :
    ∀ keys : List String, (∀ k ∈ keys, ∃ t₂ n₂, ValidTarget t₂ ∧ ValidName n₂ ∧ k = st.keyPath t₂ n₂) →
      (n ∈ st.ListSecrets t keys ↔ st.keyPath t n ∈ keys)
  | [], _ => by simp [ListSecrets]
  | k :: keys, hkeys => by
    obtain ⟨t₂, n₂, ht₂, hn₂, rfl⟩ := hkeys k (List.mem_cons_self _ _)
    have ih := mem_ListSecrets_of_keys ht hn keys fun k hk => hkeys k (List.mem_cons_of_mem _ hk)
    rw [show st.ListSecrets t (st.keyPath t₂ n₂ :: keys) =
        st.ListSecrets t [st.keyPath t₂ n₂] ++ st.ListSecrets t keys from
      st.ListSecrets_append t [_] keys, List.mem_append, ih, List.mem_cons]
    by_cases hne : t₂ = t
    · subst hne
      rw [st.ListSecrets_keyPath hn₂.1 hn₂.2, List.mem_singleton]
      constructor
      · rintro (rfl | h)
        exacts [.inl rfl, .inr h]
      · rintro (h | h)
        exacts [.inl (st.keyPath_inj ht ht hn₂ hn h).2, .inr h]
    · rw [st.ListSecrets_keyPath_of_ne ht ht₂ hne]
      simp only [List.not_mem_nil, false_or]
      exact ⟨.inr, fun h => h.resolve_left fun he => hne (st.keyPath_inj ht ht₂ hn hn₂ he.symm).1⟩

/-! ### The bucket refines the contents -/

/-- The bucket holds exactly the objects of the live secrets: every key is a secret key of valid
names, the object under a secret's key is the put object of its marshalled live data, and live
data always marshals. -/
structure Related (bucket : Bucket) (c : Contents) : Prop where
  valid_keys : ∀ k ∈ bucket, ∃ t s, ValidTarget t ∧ ValidName s ∧ k = st.keyPath t s
  lookup_keyPath : ∀ t s, ValidTarget t → ValidName s →
    bucket.lookup (st.keyPath t s) =
      (c t s).bind fun data => (codec.marshal data).toOption.map (putObject kmsKeyID)
  marshal_ok : ∀ t s data, c t s = some data → ∃ body, codec.marshal data = .ok body

theorem Related_empty : Related st kmsKeyID codec ∅ fun _ _ => none where
  valid_keys _ h := absurd h (AList.not_mem_empty _)
  lookup_keyPath _ _ _ _ := AList.lookup_empty _
  marshal_ok _ _ _ h := nomatch h

variable {st kmsKeyID codec}

theorem Related.write {bucket : Bucket} {c : Contents} (hrel : Related st kmsKeyID codec bucket c)
    {t s : String} (ht : ValidTarget t) (hs : ValidName s) (data : GoMap Json) (body : String)
    (hbody : codec.marshal data = .ok body) :
    Related st kmsKeyID codec (bucket.insert (st.keyPath t s) (putObject kmsKeyID body))
      (Request.apply codec c (.write t s data none)) where
  valid_keys k hk := by
    rcases (AList.mem_insert _).1 hk with rfl | hk
    exacts [⟨t, s, ht, hs, rfl⟩, hrel.valid_keys k hk]
  lookup_keyPath t' s' ht' hs' := by
    simp only [Request.apply, hbody]
    by_cases he : t' = t ∧ s' = s
    · obtain ⟨rfl, rfl⟩ := he
      simp [AList.lookup_insert, hbody, Except.toOption]
    · have hne : st.keyPath t' s' ≠ st.keyPath t s := fun h =>
        he (st.keyPath_inj ht ht' hs hs' h)
      rw [AList.lookup_insert_ne hne, if_neg he]
      exact hrel.lookup_keyPath t' s' ht' hs'
  marshal_ok t' s' data' h := by
    simp only [Request.apply, hbody] at h
    split_ifs at h
    · cases h
      exact ⟨body, hbody⟩
    · exact hrel.marshal_ok t' s' data' h

theorem Related.delete {bucket : Bucket} {c : Contents} (hrel : Related st kmsKeyID codec bucket c)
    {t s : String} (ht : ValidTarget t) (hs : ValidName s) :
    Related st kmsKeyID codec (bucket.erase (st.keyPath t s))
      (Request.apply codec c (.delete t s none)) where
  valid_keys k hk := hrel.valid_keys k (AList.mem_erase.1 hk).2
  lookup_keyPath t' s' ht' hs' := by
    simp only [Request.apply]
    by_cases he : t' = t ∧ s' = s
    · obtain ⟨rfl, rfl⟩ := he
      simp [AList.lookup_erase]
    · have hne : st.keyPath t' s' ≠ st.keyPath t s := fun h =>
        he (st.keyPath_inj ht ht' hs hs' h)
      rw [AList.lookup_erase_ne hne, if_neg he]
      exact hrel.lookup_keyPath t' s' ht' hs'
  marshal_ok t' s' data' h := by
    simp only [Request.apply] at h
    split_ifs at h
    exact hrel.marshal_ok t' s' data' h

/-- **One request keeps the bucket related to the contents.** -/
theorem Related_handle {bucket : Bucket} {c : Contents} (hrel : Related st kmsKeyID codec bucket c)
    {r : Request} (hr : r.Valid) :
    Related st kmsKeyID codec (st.handle kmsKeyID codec bucket r) (Request.apply codec c r) := by
  cases r with
  | write t s data putErr =>
    cases hm : codec.marshal data with
    | error err => simpa [handle, WriteSecret, Request.apply, hm] using hrel
    | ok body =>
      cases putErr with
      | some err => simpa [handle, WriteSecret, Request.apply, hm] using hrel
      | none =>
        simp only [handle, WriteSecret, hm]
        exact hrel.write hr.1 hr.2 data body hm
  | delete t s deleteErr =>
    cases deleteErr with
    | some err => simpa [handle, DeleteSecret, Request.apply] using hrel
    | none => exact hrel.delete hr.1 hr.2

/-- **Every run keeps them related.** -/
theorem Related_run {bucket : Bucket} {c : Contents} (hrel : Related st kmsKeyID codec bucket c) :
    ∀ rs : List Request, (∀ r ∈ rs, r.Valid) →
      Related st kmsKeyID codec (st.runRequests kmsKeyID codec bucket rs)
        (rs.foldl (Request.apply codec) c)
  | [], _ => hrel
  | r :: rs, hv => by
    rw [runRequests, List.foldl_cons, List.foldl_cons]
    exact Related_run (Related_handle hrel (hv r (List.mem_cons_self _ _))) rs
      fun r hr => hv r (List.mem_cons_of_mem _ hr)

section Run

variable (rs : List Request) (hv : ∀ r ∈ rs, r.Valid) {t s : String} (ht : ValidTarget t)
  (hs : ValidName s)
include hv ht hs

/-- **Listing.** From an empty bucket, `ListSecrets` lists exactly the live secrets of the
target. -/
theorem mem_ListSecrets_runRequests :
    s ∈ st.ListSecrets t (st.runRequests kmsKeyID codec ∅ rs).keys ↔
      (contentsOf codec rs t s).isSome := by
  have hrel : Related st kmsKeyID codec (st.runRequests kmsKeyID codec ∅ rs) (contentsOf codec rs) :=
    Related_run (Related_empty st kmsKeyID codec) rs hv
  rw [st.mem_ListSecrets_of_keys ht hs _ fun k hk => hrel.valid_keys k (AList.mem_keys.2 hk),
    ← AList.mem_keys, ← AList.lookup_isSome, hrel.lookup_keyPath t s ht hs]
  cases hc : contentsOf codec rs t s with
  | none => rfl
  | some data =>
    obtain ⟨body, hbody⟩ := hrel.marshal_ok t s data hc
    simp [hbody, Except.toOption]

/-- **Reading.** When `json.Unmarshal` inverts `json.Marshal`, `ReadSecret` returns a live
secret's data and the get error for any other. -/
theorem ReadSecret_runRequests
    (hcodec : ∀ data body, codec.marshal data = .ok body → codec.unmarshal body = .ok data)
    (getErr : String) :
    st.ReadSecret codec (st.runRequests kmsKeyID codec ∅ rs) t s getErr =
      match contentsOf codec rs t s with
      | some data => .ok data
      | none => .error ("failed to get object: " ++ getErr) := by
  have hrel : Related st kmsKeyID codec (st.runRequests kmsKeyID codec ∅ rs) (contentsOf codec rs) :=
    Related_run (Related_empty st kmsKeyID codec) rs hv
  rw [ReadSecret, hrel.lookup_keyPath t s ht hs]
  cases hc : contentsOf codec rs t s with
  | none => rfl
  | some data =>
    obtain ⟨body, hbody⟩ := hrel.marshal_ok t s data hc
    simp [hbody, Except.toOption, hcodec data body hbody]

end Run

/-- **Encryption.** From an empty bucket, every object asks for the encryption the store is
configured with. -/
theorem runRequests_encrypted (rs : List Request) (hv : ∀ r ∈ rs, r.Valid) (k : String) (o : Object)
    (hk : (st.runRequests kmsKeyID codec ∅ rs).lookup k = some o) : o = putObject kmsKeyID o.body := by
  have hrel := Related_run (Related_empty st kmsKeyID codec) rs hv
  obtain ⟨t, s, ht, hs, rfl⟩ := hrel.valid_keys k (AList.lookup_isSome.1 (by simp [hk]))
  rw [hrel.lookup_keyPath t s ht hs] at hk
  obtain ⟨data, -, hk⟩ := Option.bind_eq_some.1 hk
  obtain ⟨body, -, rfl⟩ := Option.map_eq_some'.1 hk
  rw [putObject_body]

end S3MergeStore

/-- A store under the prefix `merged`, encrypting with a KMS key. -/
def demoObjectStore : S3MergeStore := ⟨"bucket", "merged"⟩

/-- A codec that writes every map as the body `data` and reads every body as the empty map. -/
def demoCodec : S3MergeStore.JsonCodec := ⟨fun _ => .ok "data", fun _ => .ok ∅⟩

/-- Two secrets of `prod` written, and the first deleted. -/
def demoRequests : List S3MergeStore.Request :=
  [.write "prod" "db" ∅ none, .write "prod" "api" ∅ none, .delete "prod" "db" none]

end VaultSecretSync
