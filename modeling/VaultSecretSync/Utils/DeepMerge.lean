import Mathlib.Data.Rat.Defs
import Mathlib.Data.List.Nodup

/-!
# Deep merge of secret payloads

A secret payload is a JSON object: a Go `map[string]interface{}` whose values are what
`encoding/json` decodes, `nil`, booleans, numbers, strings, slices and nested maps. `Json`
models these values, with an object as the list of its entries in the order `range` visits
them, so a statement over every list of entries holds for every iteration order. A decoded
value is `Json.wellFormed`: no map in it repeats a key.

`DeepEqual` is `reflect.DeepEqual` on normalised values, maps compared key by key; it is
reflexive on well-formed values (`DeepEqual_refl`). `DeepMerge` merges `src` into `dst` key by
key in `src`'s iteration order; `mergeValues` keeps `dst` on a `nil` source, takes the source
on a `nil` destination, merges two maps recursively, appends two slices and lets the source win
otherwise; `deepCopyValue` copies a value, so on values it is the identity
(`deepCopyValue_eq`).

`DeepMerge_eq` gives the loop's result in closed form: the entries of `dst`, each merged with
`src`'s value at its key, then the entries of `src` whose keys `dst` lacks. The main result,
`DeepMerge_lookup`, follows from it: the merged map has the keys of both maps, and at each key
the value `mergedAt` gives from the key's two values, the documented strategy read case by
case. Numbers are rationals: the merge never inspects them.
-/

namespace VaultSecretSync

/-- A decoded JSON value; an object lists its entries in iteration order. -/
inductive Json
  | null
  | bool (b : Bool)
  | num (x : ℚ)
  | str (s : String)
  | arr (items : List Json)
  | obj (fields : List (String × Json))

/-! ### The source functions -/

/-- The Go assignment `m[k] = v` on a map listed by its entries: the entry of `k` is replaced in
place, or appended when `k` is new. -/
def assign : List (String × Json) → String → Json → List (String × Json)
  | [], k, v => [(k, v)]
  | e :: m, k, v => if e.1 = k then (k, v) :: m else e :: assign m k v

mutual
/-- `deepCopyValue`: a copy of a value, maps and slices copied element by element. -/
def deepCopyValue : Json → Json
  | .obj fs => .obj (deepCopyFields fs)
  | .arr xs => .arr (deepCopyList xs)
  | v => v

/-- The loop of `deepCopyValue` over a map. -/
def deepCopyFields : List (String × Json) → List (String × Json)
  | [] => []
  | (k, v) :: fs => (k, deepCopyValue v) :: deepCopyFields fs

/-- The loop of `deepCopyValue` over a slice. -/
def deepCopyList : List Json → List Json
  | [] => []
  | v :: vs => deepCopyValue v :: deepCopyList vs
end

/-- `appendSlices`: copies of the destination's items, then of the source's. -/
def appendSlices (dst src : List Json) : List Json :=
  dst.map deepCopyValue ++ src.map deepCopyValue

mutual
/-- `mergeValues`: a `nil` source keeps the destination, a `nil` destination takes the source,
two maps merge, two slices append, and otherwise the source overrides. -/
def mergeValues : Json → Json → Json
  | dst, .null => dst
  | .null, src => deepCopyValue src
  | .obj d, .obj s => .obj (DeepMerge d s)
  | .arr d, .arr s => .arr (appendSlices d s)
  | _, src => deepCopyValue src

/-- `DeepMerge`: merge each entry of `src`, in iteration order, into `dst`. -/
def DeepMerge : List (String × Json) → List (String × Json) → List (String × Json)
  | dst, [] => dst
  | dst, (k, v) :: src =>
    DeepMerge
      (match dst.lookup k with
        | none => assign dst k (deepCopyValue v)
        | some d => assign dst k (mergeValues d v))
      src
end

mutual
/-- `DeepEqual`: `reflect.DeepEqual` after `normalizeValue`, which makes every number a
`float64`; numbers are already one type here. Maps are equal when they have the same size and
every key of the first has an equal value in the second. -/
def DeepEqual : Json → Json → Bool
  | .null, .null => true
  | .bool x, .bool y => x == y
  | .num x, .num y => x == y
  | .str x, .str y => x == y
  | .arr xs, .arr ys => deepEqualList xs ys
  | .obj a, .obj b => a.length == b.length && deepEqualFields a b
  | _, _ => false

/-- `DeepEqual` on two slices, element by element. -/
def deepEqualList : List Json → List Json → Bool
  | [], [] => true
  | x :: xs, y :: ys => DeepEqual x y && deepEqualList xs ys
  | _, _ => false

/-- Every key of the first map has a `DeepEqual` value in the second. -/
def deepEqualFields : List (String × Json) → List (String × Json) → Bool
  | [], _ => true
  | (k, v) :: a, b =>
    (match b.lookup k with
      | some w => DeepEqual v w
      | none => false) && deepEqualFields a b
end

/-! ### Copies and lookups -/

mutual
theorem deepCopyValue_eq : ∀ v : Json, deepCopyValue v = v
  | .null | .bool _ | .num _ | .str _ => by simp [deepCopyValue]
  | .arr xs => by rw [deepCopyValue, deepCopyList_eq xs]
  | .obj fs => by rw [deepCopyValue, deepCopyFields_eq fs]

theorem deepCopyFields_eq : ∀ fs : List (String × Json), deepCopyFields fs = fs
  | [] => rfl
  | (k, v) :: fs => by rw [deepCopyFields, deepCopyValue_eq v, deepCopyFields_eq fs]

theorem deepCopyList_eq : ∀ vs : List Json, deepCopyList vs = vs
  | [] => rfl
  | v :: vs => by rw [deepCopyList, deepCopyValue_eq v, deepCopyList_eq vs]
end

theorem appendSlices_eq (dst src : List Json) : appendSlices dst src = dst ++ src := by
  simp [appendSlices, show deepCopyValue = id from funext deepCopyValue_eq]

/-! ### Lookups in an entry list -/

section Lookup

variable {V : Type}

theorem lookup_cons_eq_ite (k k' : String) (v : V) (m : List (String × V)) :
    ((k, v) :: m).lookup k' = if k' = k then some v else m.lookup k' := by
  by_cases h : k' = k
  · simp [h]
  · rw [List.lookup_cons, beq_false_of_ne h, if_neg h]

theorem lookup_eq_none_of_not_mem {m : List (String × V)} {k : String}
    (h : k ∉ m.map Prod.fst) : m.lookup k = none :=
  List.lookup_eq_none_iff.2 fun p hp => by
    simpa using fun he : k = p.1 => h (he ▸ List.mem_map_of_mem Prod.fst hp)

theorem mem_of_lookup_eq_some : ∀ {m : List (String × V)} {k : String} {v : V},
    m.lookup k = some v → (k, v) ∈ m
  | [], _, _, h => by simp at h
  | (k', v') :: m, k, v, h => by
    rw [lookup_cons_eq_ite] at h
    split_ifs at h with hk
    · cases h; subst hk; exact List.mem_cons_self _ _
    · exact List.mem_cons_of_mem _ (mem_of_lookup_eq_some h)

theorem lookup_of_mem : ∀ {m : List (String × V)} {k : String} {v : V},
    (m.map Prod.fst).Nodup → (k, v) ∈ m → m.lookup k = some v
  | [], _, _, _, h => absurd h (List.not_mem_nil _)
  | (k', v') :: m, k, v, hnd, h => by
    rw [List.map_cons, List.nodup_cons] at hnd
    rw [lookup_cons_eq_ite]
    rcases List.mem_cons.1 h with he | hm
    · cases he
      simp
    · have hk : k ≠ k' := by
        rintro rfl
        exact hnd.1 (List.mem_map.2 ⟨_, hm, rfl⟩)
      rw [if_neg hk, lookup_of_mem hnd.2 hm]

theorem mem_keys_iff_lookup {m : List (String × V)} {k : String} :
    k ∈ m.map Prod.fst ↔ m.lookup k ≠ none := by
  rw [Ne, List.lookup_eq_none_iff]
  simp only [List.mem_map, bne_iff_ne, ne_eq, not_forall, not_not, exists_prop]
  constructor <;> rintro ⟨p, hp, h⟩ <;> exact ⟨p, hp, h.symm⟩

/-- Two permutations of an entry list with distinct keys have the same lookups. -/
theorem lookup_eq_of_perm {l₁ l₂ : List (String × V)} (hnd : (l₁.map Prod.fst).Nodup)
    (hp : l₁.Perm l₂) (k : String) : l₁.lookup k = l₂.lookup k := by
  have hnd₂ := (hp.map Prod.fst).nodup_iff.mp hnd
  refine Option.ext fun v => ⟨fun h => ?_, fun h => ?_⟩
  · exact lookup_of_mem hnd₂ (hp.subset (mem_of_lookup_eq_some h))
  · exact lookup_of_mem hnd (hp.symm.subset (mem_of_lookup_eq_some h))

end Lookup


/-! ### One merge of two values -/

@[simp] theorem mergeValues_null (d : Json) : mergeValues d .null = d := by cases d <;> rfl

@[simp] theorem null_mergeValues (s : Json) : mergeValues .null s = s := by
  cases s with
  | null => rfl
  | _ => exact deepCopyValue_eq _

@[simp] theorem mergeValues_obj (d s : List (String × Json)) :
    mergeValues (.obj d) (.obj s) = .obj (DeepMerge d s) := rfl

@[simp] theorem mergeValues_arr (d s : List Json) :
    mergeValues (.arr d) (.arr s) = .arr (d ++ s) := congrArg Json.arr (appendSlices_eq d s)

/-- A scalar source replaces every destination. -/
theorem mergeValues_of_scalar {s : Json} (hs : s ≠ .null) (hobj : ∀ fs, s ≠ .obj fs)
    (harr : ∀ xs, s ≠ .arr xs) (d : Json) : mergeValues d s = s := by
  cases s with
  | null => exact absurd rfl hs
  | obj fs => exact absurd rfl (hobj fs)
  | arr xs => exact absurd rfl (harr xs)
  | _ => cases d <;> rfl

/-- A map source replaces a destination that is neither `nil` nor a map. -/
theorem mergeValues_obj_of_ne {d : Json} (hd : d ≠ .null) (hobj : ∀ fs, d ≠ .obj fs)
    (s : List (String × Json)) : mergeValues d (.obj s) = .obj s := by
  cases d with
  | null => exact absurd rfl hd
  | obj fs => exact absurd rfl (hobj fs)
  | _ => exact deepCopyValue_eq _

/-- A slice source replaces a destination that is neither `nil` nor a slice. -/
theorem mergeValues_arr_of_ne {d : Json} (hd : d ≠ .null) (harr : ∀ xs, d ≠ .arr xs)
    (s : List Json) : mergeValues d (.arr s) = .arr s := by
  cases d with
  | null => exact absurd rfl hd
  | arr xs => exact absurd rfl (harr xs)
  | _ => exact deepCopyValue_eq _

/-! ### Well-formed values and `DeepEqual` -/

mutual
/-- A decoded value is well formed when every map in it has distinct keys. -/
def Json.wellFormed : Json → Bool
  | .arr xs => wellFormedList xs
  | .obj fs => decide (fs.map Prod.fst).Nodup && wellFormedFields fs
  | _ => true

/-- Every item of a slice is well formed. -/
def wellFormedList : List Json → Bool
  | [] => true
  | x :: xs => x.wellFormed && wellFormedList xs

/-- Every value of a map is well formed. -/
def wellFormedFields : List (String × Json) → Bool
  | [] => true
  | (_, v) :: fs => v.wellFormed && wellFormedFields fs
end

theorem wellFormedFields_iff {fs : List (String × Json)} :
    wellFormedFields fs = true ↔ ∀ e ∈ fs, e.2.wellFormed = true := by
  induction fs with
  | nil => simp [wellFormedFields]
  | cons e fs ih =>
    obtain ⟨k, v⟩ := e
    simp [wellFormedFields, ih]

theorem wellFormed_obj {fs : List (String × Json)} :
    (Json.obj fs).wellFormed = true ↔
      (fs.map Prod.fst).Nodup ∧ ∀ e ∈ fs, e.2.wellFormed = true := by
  show (decide _ && wellFormedFields fs) = true ↔ _
  rw [Bool.and_eq_true, decide_eq_true_iff, wellFormedFields_iff]

theorem deepEqualFields_iff : ∀ {a b : List (String × Json)},
    deepEqualFields a b = true ↔
      ∀ e ∈ a, ∃ w, b.lookup e.1 = some w ∧ DeepEqual e.2 w = true
  | [], b => by simp [deepEqualFields]
  | (k, v) :: a, b => by
    rw [deepEqualFields, Bool.and_eq_true, deepEqualFields_iff, List.forall_mem_cons]
    apply and_congr_left'
    cases b.lookup k <;> simp

/-! The equations of `DeepEqual` and `Json.wellFormed` on the constructors the proofs meet, by
unfolding. -/

theorem DeepEqual_arr (xs ys : List Json) : DeepEqual (.arr xs) (.arr ys) = deepEqualList xs ys :=
  rfl

theorem DeepEqual_obj (a b : List (String × Json)) :
    DeepEqual (.obj a) (.obj b) = (a.length == b.length && deepEqualFields a b) := rfl

theorem deepEqualList_cons (x y : Json) (xs ys : List Json) :
    deepEqualList (x :: xs) (y :: ys) = (DeepEqual x y && deepEqualList xs ys) := rfl

theorem wellFormedList_cons (x : Json) (xs : List Json) :
    wellFormedList (x :: xs) = (x.wellFormed && wellFormedList xs) := rfl

theorem length_eq_of_deepEqualList : ∀ {xs ys : List Json}, deepEqualList xs ys = true →
    xs.length = ys.length
  | [], [], _ => rfl
  | x :: xs, y :: ys, h => by
    rw [deepEqualList_cons, Bool.and_eq_true] at h
    rw [List.length_cons, List.length_cons, length_eq_of_deepEqualList h.2]
  | [], _ :: _, h => nomatch h
  | _ :: _, [], h => nomatch h

mutual
theorem DeepEqual_refl : ∀ v : Json, v.wellFormed = true → DeepEqual v v = true
  | .null, _ => rfl
  | .bool b, _ => beq_self_eq_true b
  | .num x, _ => beq_self_eq_true x
  | .str s, _ => beq_self_eq_true s
  | .arr xs, h => by
    rw [DeepEqual_arr]
    exact deepEqualList_refl xs h
  | .obj fs, h => by
    obtain ⟨hnd, hwf⟩ := wellFormed_obj.1 h
    rw [DeepEqual_obj, Bool.and_eq_true, beq_iff_eq, deepEqualFields_iff]
    exact ⟨rfl, fun e he => ⟨e.2, lookup_of_mem hnd he, deepEqual_refl_fields fs hwf e he⟩⟩

theorem deepEqualList_refl :
    ∀ xs : List Json, wellFormedList xs = true → deepEqualList xs xs = true
  | [], _ => rfl
  | x :: xs, h => by
    rw [wellFormedList_cons, Bool.and_eq_true] at h
    rw [deepEqualList_cons, DeepEqual_refl x h.1, deepEqualList_refl xs h.2, Bool.and_self]

theorem deepEqual_refl_fields :
    ∀ fs : List (String × Json), (∀ e ∈ fs, e.2.wellFormed = true) →
    ∀ e ∈ fs, DeepEqual e.2 e.2 = true
  | [], _, _, he => absurd he (List.not_mem_nil _)
  | (k, v) :: fs, h, e, he => by
    rcases List.mem_cons.1 he with rfl | he
    · exact DeepEqual_refl v (h _ (List.mem_cons_self _ _))
    · exact deepEqual_refl_fields fs (fun e' he' => h e' (List.mem_cons_of_mem _ he')) e he
end

/-! ### What `DeepMerge` computes -/

/-- The documented strategy at one key, from the key's value in `dst` and in `src` (`none` when
absent): a key only in one map keeps its value; with both, a `null` source keeps the
destination, a `null` destination takes the source, two maps merge, two lists append, and
otherwise the source wins. -/
def mergedAt : Option Json → Option Json → Option Json
  | d, none => d
  | none, some s => some s
  | some d, some .null => some d
  | some .null, some s => some s
  | some (.obj d), some (.obj s) => some (.obj (DeepMerge d s))
  | some (.arr d), some (.arr s) => some (.arr (d ++ s))
  | some _, some s => some s

@[simp] theorem mergedAt_none (d : Option Json) : mergedAt d none = d := by
  rcases d with _ | d
  · rfl
  · cases d <;> rfl

theorem mergedAt_some (d s : Json) : mergedAt (some d) (some s) = some (mergeValues d s) := by
  cases s <;> cases d <;> simp [mergedAt, mergeValues_of_scalar, mergeValues_obj_of_ne,
    mergeValues_arr_of_ne]

/-! ### The closed form -/

theorem ne_key_of_mem {m : List (String × Json)} {e : String × Json} {k : String} (he : e ∈ m)
    (hk : k ∉ m.map Prod.fst) : e.1 ≠ k :=
  fun h => hk (h ▸ List.mem_map_of_mem Prod.fst he)

theorem assign_of_not_mem : ∀ {m : List (String × Json)} {k : String} (v : Json),
    k ∉ m.map Prod.fst → assign m k v = m ++ [(k, v)]
  | [], _, _, _ => rfl
  | (k', v') :: m, k, v, h => by
    rw [List.map_cons, List.mem_cons, not_or] at h
    rw [assign, if_neg (Ne.symm h.1), assign_of_not_mem v h.2, List.cons_append]

theorem assign_eq_map : ∀ {m : List (String × Json)} {k : String} (v : Json),
    (m.map Prod.fst).Nodup → k ∈ m.map Prod.fst →
      assign m k v = m.map fun e => if e.1 = k then (k, v) else e
  | [], _, _, _, h => absurd h (List.not_mem_nil _)
  | (k', v') :: m, k, v, hnd, h => by
    rw [List.map_cons, List.nodup_cons] at hnd
    by_cases hk : k' = k
    · subst hk
      have hrest : (m.map fun e => if e.1 = k' then (k', v) else e) = m := by
        conv_rhs => rw [← List.map_id m]
        exact List.map_congr_left fun e he =>
          if_neg (ne_key_of_mem he hnd.1)
      simp only [assign, List.map_cons, hrest, if_true]
    · rw [List.map_cons, List.mem_cons] at h
      rw [assign, if_neg hk, List.map_cons, if_neg hk,
        assign_eq_map v hnd.2 (h.resolve_left (Ne.symm hk))]

/-- The value of a `dst` entry after merging `src`: merged with `src`'s value at its key, when
there is one. -/
def mergeInto (d : Json) : Option Json → Json
  | some s => mergeValues d s
  | none => d

/-- The entry of `dst` after merging `src` into it. -/
def mergeEntry (src : List (String × Json)) (e : String × Json) : String × Json :=
  (e.1, mergeInto e.2 (src.lookup e.1))

/-- **Closed form of `DeepMerge`.** On maps with distinct keys, the merge lists the entries of
`dst`, each merged with `src`'s value at its key, then the entries of `src` whose keys `dst`
lacks, in `src`'s order. -/
theorem DeepMerge_eq : ∀ {dst src : List (String × Json)}, (dst.map Prod.fst).Nodup →
    (src.map Prod.fst).Nodup →
      DeepMerge dst src = dst.map (mergeEntry src) ++ src.filter fun e => e.1 ∉ dst.map Prod.fst
  | dst, [], _, _ => by
    have hid : mergeEntry [] = id := funext fun _ => rfl
    rw [DeepMerge, hid, List.map_id, List.filter_nil, List.append_nil]
  | dst, (k, v) :: src, hdst, hsrc => by
    rw [List.map_cons, List.nodup_cons] at hsrc
    rw [DeepMerge]
    have hsrc_k : src.lookup k = none := lookup_eq_none_of_not_mem hsrc.1
    have hcons : ∀ e ∈ dst, e.1 ≠ k → mergeEntry ((k, v) :: src) e = mergeEntry src e :=
      fun e _ hne => by simp only [mergeEntry, lookup_cons_eq_ite, if_neg hne]
    cases hd : dst.lookup k with
    | none =>
      have hk : k ∉ dst.map Prod.fst := fun h => mem_keys_iff_lookup.1 h hd
      have hnd' : ((dst ++ [(k, v)]).map Prod.fst).Nodup := by
        rw [List.map_append, List.map_singleton, List.nodup_append_comm]
        exact List.nodup_cons.2 ⟨hk, hdst⟩
      dsimp only
      rw [deepCopyValue_eq, assign_of_not_mem v hk, DeepMerge_eq hnd' hsrc.2, List.map_append,
        List.filter_cons_of_pos (by simpa using hk), List.map_congr_left fun e he =>
          hcons e he (ne_key_of_mem he hk)]
      have hkv : mergeEntry src (k, v) = (k, v) := by rw [mergeEntry, hsrc_k]; rfl
      have hfilter : src.filter (fun e => e.1 ∉ (dst ++ [(k, v)]).map Prod.fst) =
          src.filter fun e => e.1 ∉ dst.map Prod.fst :=
        List.filter_congr fun e he => by
          simp [ne_key_of_mem he hsrc.1]
      rw [List.map_singleton, hkv, hfilter, List.append_assoc, List.singleton_append]
    | some d =>
      have hk : k ∈ dst.map Prod.fst := mem_keys_iff_lookup.2 (by simp [hd])
      have hkeys : (dst.map fun e => if e.1 = k then (k, mergeValues d v) else e).map Prod.fst =
          dst.map Prod.fst := by
        rw [List.map_map]
        exact List.map_congr_left fun e _ => by by_cases h : e.1 = k <;> simp [h]
      dsimp only
      rw [assign_eq_map _ hdst hk, DeepMerge_eq (hkeys ▸ hdst) hsrc.2, hkeys,
        List.filter_cons_of_neg (by simpa using hk), List.map_map]
      congr 1
      refine List.map_congr_left fun e he => ?_
      by_cases hek : e.1 = k
      · have hed : e.2 = d := by
          have h := lookup_of_mem hdst (show (e.1, e.2) ∈ dst from he)
          rw [hek, hd, Option.some_inj] at h
          exact h.symm
        simp [hek, hed, mergeEntry, hsrc_k, mergeInto, lookup_cons_eq_ite]
      · simp only [Function.comp_apply, if_neg hek, hcons e he hek]

theorem lookup_append (l₁ l₂ : List (String × Json)) (k : String) :
    (l₁ ++ l₂).lookup k = (l₁.lookup k).or (l₂.lookup k) := by
  induction l₁ with
  | nil => rfl
  | cons e l₁ ih =>
    obtain ⟨k', v'⟩ := e
    rw [List.cons_append, lookup_cons_eq_ite, lookup_cons_eq_ite, ih]
    split <;> rfl

theorem lookup_filter_keys (src : List (String × Json)) (keys : List String) {k : String}
    (hk : k ∉ keys) : (src.filter fun e => e.1 ∉ keys).lookup k = src.lookup k := by
  induction src with
  | nil => rfl
  | cons e src ih =>
    obtain ⟨k', v'⟩ := e
    by_cases h : k' ∈ keys
    · have hne : k ≠ k' := fun h' => hk (h' ▸ h)
      rw [List.filter_cons_of_neg (by simpa using h), ih, lookup_cons_eq_ite, if_neg hne]
    · rw [List.filter_cons_of_pos (by simpa using h), lookup_cons_eq_ite, lookup_cons_eq_ite, ih]

theorem lookup_map_mergeEntry (src : List (String × Json)) (k : String) :
    ∀ dst : List (String × Json),
      (dst.map (mergeEntry src)).lookup k = (dst.lookup k).map fun d => mergeInto d (src.lookup k)
  | [] => rfl
  | (k', v') :: dst => by
    rw [List.map_cons, mergeEntry, lookup_cons_eq_ite, lookup_cons_eq_ite,
      lookup_map_mergeEntry src k dst]
    split
    · subst_vars; rfl
    · rfl

theorem mem_keys_filter {B : List (String × Json)} {ks : List String} {k : String} :
    k ∈ (B.filter fun e => e.1 ∉ ks).map Prod.fst ↔ k ∈ B.map Prod.fst ∧ k ∉ ks := by
  simp only [List.mem_map, List.mem_filter, decide_eq_true_eq]
  constructor
  · rintro ⟨e, ⟨he, hk⟩, rfl⟩
    exact ⟨⟨e, he, rfl⟩, hk⟩
  · rintro ⟨⟨e, he, rfl⟩, hk⟩
    exact ⟨e, ⟨he, hk⟩, rfl⟩

section Merge

variable {dst src : List (String × Json)}

theorem keys_DeepMerge (hdst : (dst.map Prod.fst).Nodup) (hsrc : (src.map Prod.fst).Nodup) :
    (DeepMerge dst src).map Prod.fst =
      dst.map Prod.fst ++ (src.filter fun e => e.1 ∉ dst.map Prod.fst).map Prod.fst := by
  rw [DeepMerge_eq hdst hsrc, List.map_append, List.map_map]
  rfl

theorem nodup_DeepMerge (hdst : (dst.map Prod.fst).Nodup) (hsrc : (src.map Prod.fst).Nodup) :
    ((DeepMerge dst src).map Prod.fst).Nodup := by
  rw [keys_DeepMerge hdst hsrc]
  refine hdst.append (((List.filter_sublist _).map _).nodup hsrc) fun x hx hx' => ?_
  obtain ⟨e, he, rfl⟩ := List.mem_map.1 hx'
  exact (by simpa using (List.mem_filter.1 he).2 : e.1 ∉ dst.map Prod.fst) hx

theorem lookup_DeepMerge (hdst : (dst.map Prod.fst).Nodup) (hsrc : (src.map Prod.fst).Nodup)
    (k : String) : (DeepMerge dst src).lookup k = mergedAt (dst.lookup k) (src.lookup k) := by
  rw [DeepMerge_eq hdst hsrc, lookup_append, lookup_map_mergeEntry]
  cases hd : dst.lookup k with
  | none =>
    rw [lookup_filter_keys _ _ fun h => mem_keys_iff_lookup.1 h hd]
    cases src.lookup k <;> rfl
  | some d => cases src.lookup k <;> simp [mergeInto, mergedAt_some]

end Merge

/-- **Deep merge.** On maps with distinct keys, `DeepMerge dst src` is a map with distinct
keys, whose keys are those of `dst` and of `src`, and whose value at each key is `mergedAt` of
the key's values in `dst` and in `src`; so it does not depend on the order of `src`'s entries. -/
theorem DeepMerge_lookup (dst src : List (String × Json)) (hdst : (dst.map Prod.fst).Nodup)
    (hsrc : (src.map Prod.fst).Nodup) :
    ((DeepMerge dst src).map Prod.fst).Nodup ∧
      (∀ k, k ∈ (DeepMerge dst src).map Prod.fst ↔ k ∈ dst.map Prod.fst ∨ k ∈ src.map Prod.fst) ∧
      ∀ k, (DeepMerge dst src).lookup k = mergedAt (dst.lookup k) (src.lookup k) := by
  refine ⟨nodup_DeepMerge hdst hsrc, fun k => ?_, lookup_DeepMerge hdst hsrc⟩
  rw [keys_DeepMerge hdst hsrc, List.mem_append, mem_keys_filter]
  tauto

/-- The payload of the source `analytics` in the two-import merge scenario. -/
def analyticsPayload : List (String × Json) :=
  [("DD", .str "dd_xxx"), ("common", .obj [("region", .str "us-east-1")]),
    ("tags", .arr [.str "analytics"])]

/-- The payload of the source `analytics-engineers` in the same scenario. -/
def engineersPayload : List (String × Json) :=
  [("STRIPE", .str "sk_xxx"), ("common", .obj [("env", .str "prod")]),
    ("tags", .arr [.str "engineers"])]

theorem DeepMerge_lookup_scenario :
    ((analyticsPayload.map Prod.fst).Nodup ∧ (engineersPayload.map Prod.fst).Nodup) ∧
      ((DeepMerge analyticsPayload engineersPayload).map Prod.fst).Nodup ∧
      (∀ k, k ∈ (DeepMerge analyticsPayload engineersPayload).map Prod.fst ↔
        k ∈ analyticsPayload.map Prod.fst ∨ k ∈ engineersPayload.map Prod.fst) ∧
      ∀ k, (DeepMerge analyticsPayload engineersPayload).lookup k =
        mergedAt (analyticsPayload.lookup k) (engineersPayload.lookup k) :=
  ⟨⟨by decide, by decide⟩, DeepMerge_lookup _ _ (by decide) (by decide)⟩

end VaultSecretSync
