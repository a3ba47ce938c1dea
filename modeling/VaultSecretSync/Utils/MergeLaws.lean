import VaultSecretSync.Utils.DeepMerge

/-!
# Laws of the deep merge

Two laws of `DeepMerge` that decide how the pipeline's merge store evolves. A target's merge
sync merges each import into the target's merge path, which keeps its earlier contents, in the
order the imports are declared.

* **Re-merging** (`DeepMerge_remerge_iff`). Merging an unchanged import a second time changes
  nothing exactly when the import is `listFree`: no non-empty slice is reachable from its root
  through map keys. Otherwise the second merge appends the import's slices again. The proof
  goes through `Remerges`, a value's own re-merge law, which `remerges_of_listFree` gives every
  list-free value, by recursion through the maps; `DeepEqual_mergeValues_self` gives the
  converse.
* **Associativity** (`DeepMerge_assoc`). Merges of pairwise `kindConsistent` payloads group
  either way: no shared key path carries a map in one payload and a slice or a scalar in
  another, or a slice in one and a scalar in another, a `null` counting as absent. The map-level
  law `DeepMerge_assoc_of` compares the two sides of `DeepMerge_eq` piece by piece, given the
  value law `mergeValues_assoc` at the keys the three maps share.
-/

namespace VaultSecretSync

/-! ### Re-merging an import -/

mutual
/-- A value has no non-empty slice at any position reachable from it through map keys only. -/
def Json.listFree : Json → Bool
  | .arr xs => xs.isEmpty
  | .obj fs => listFreeFields fs
  | _ => true

/-- Every value of a map is `listFree`. -/
def listFreeFields : List (String × Json) → Bool
  | [] => true
  | (_, v) :: fs => v.listFree && listFreeFields fs
end

theorem listFreeFields_iff {fs : List (String × Json)} :
    listFreeFields fs = true ↔ ∀ e ∈ fs, e.2.listFree = true := by
  induction fs with
  | nil => simp [listFreeFields]
  | cons e fs ih =>
    obtain ⟨k, v⟩ := e
    simp [listFreeFields, ih]

/-- Merging `v` again changes nothing: neither into `v` itself nor after merging it into any
well-formed value. -/
def Remerges (v : Json) : Prop :=
  mergeValues v v = v ∧
    ∀ x : Json, x.wellFormed = true → mergeValues (mergeValues x v) v = mergeValues x v

/-- A map whose values all re-merge merges into itself to no effect. -/
theorem DeepMerge_self_of {s : List (String × Json)} (hs : (s.map Prod.fst).Nodup)
    (h : ∀ e ∈ s, Remerges e.2) : DeepMerge s s = s := by
  have hnew : s.filter (fun e => e.1 ∉ s.map Prod.fst) = [] :=
    List.filter_eq_nil_iff.2 fun e he => by simpa using List.mem_map_of_mem Prod.fst he
  rw [DeepMerge_eq hs hs, hnew, List.append_nil]
  conv_rhs => rw [← List.map_id s]
  refine List.map_congr_left fun e he => ?_
  rw [mergeEntry, lookup_of_mem hs he]
  exact Prod.ext rfl (h e he).1

/-- Merging a map whose values all re-merge a second time into the result changes nothing. -/
theorem DeepMerge_remerge_of {X s : List (String × Json)} (hX : (Json.obj X).wellFormed = true)
    (hs : (s.map Prod.fst).Nodup) (h : ∀ e ∈ s, Remerges e.2) :
    DeepMerge (DeepMerge X s) s = DeepMerge X s := by
  obtain ⟨hXnd, hXwf⟩ := wellFormed_obj.1 hX
  have hY := nodup_DeepMerge hXnd hs
  have hkeys := keys_DeepMerge hXnd hs
  rw [DeepMerge_eq hY hs, List.filter_eq_nil_iff.2 fun e he => ?_, List.append_nil]
  · conv_rhs => rw [← List.map_id (DeepMerge X s)]
    refine List.map_congr_left fun e he => ?_
    rw [DeepMerge_eq hXnd hs] at he
    rcases List.mem_append.1 he with he | he
    · obtain ⟨e₀, he₀, rfl⟩ := List.mem_map.1 he
      simp only [mergeEntry]
      cases hl : s.lookup e₀.1 with
      | none => rfl
      | some y =>
        exact Prod.ext rfl ((h (e₀.1, y) (mem_of_lookup_eq_some hl)).2 e₀.2 (hXwf e₀ he₀))
    · rw [mergeEntry, lookup_of_mem hs (List.mem_filter.1 he).1]
      exact Prod.ext rfl (h e (List.mem_filter.1 he).1).1
  · have hin : e.1 ∈ (DeepMerge X s).map Prod.fst := by
      rw [hkeys, List.mem_append, mem_keys_filter]
      exact (em _).imp_right fun hx => ⟨List.mem_map_of_mem Prod.fst he, hx⟩
    simpa using hin

/-- A scalar is merged again to no effect: it replaces whatever it is merged into. -/
theorem remerges_of_scalar {s : Json} (hs : s ≠ .null) (hobj : ∀ fs, s ≠ .obj fs)
    (harr : ∀ xs, s ≠ .arr xs) : Remerges s :=
  ⟨mergeValues_of_scalar hs hobj harr s,
    fun x _ => by simp only [mergeValues_of_scalar hs hobj harr]⟩

/-- The empty slice re-merges: appending it adds nothing. -/
theorem remerges_nil : Remerges (.arr []) := by
  refine ⟨by simp, fun x _ => ?_⟩
  cases x with
  | arr xs => simp
  | obj fs => simp [mergeValues_arr_of_ne]
  | _ => simp [mergeValues_arr_of_ne]

/-- A map re-merges when its values do. -/
theorem remerges_obj {s : List (String × Json)} (hs : (Json.obj s).wellFormed = true)
    (h : ∀ e ∈ s, Remerges e.2) : Remerges (.obj s) := by
  obtain ⟨hnd, -⟩ := wellFormed_obj.1 hs
  have hself := DeepMerge_self_of hnd h
  refine ⟨by rw [mergeValues_obj, hself], fun x hx => ?_⟩
  cases x with
  | obj d => simp only [mergeValues_obj, DeepMerge_remerge_of hx hnd h]
  | null => simp [hself]
  | arr xs => simp [mergeValues_obj_of_ne, hself]
  | _ => simp [mergeValues_obj_of_ne, hself]

mutual
/-- A list-free, well-formed value re-merges. -/
theorem remerges_of_listFree :
    ∀ v : Json, v.listFree = true → v.wellFormed = true → Remerges v
  | .null, _, _ => ⟨rfl, fun x _ => by rw [mergeValues_null, mergeValues_null]⟩
  | .bool _, _, _ => remerges_of_scalar (by simp) (by simp) (by simp)
  | .num _, _, _ => remerges_of_scalar (by simp) (by simp) (by simp)
  | .str _, _, _ => remerges_of_scalar (by simp) (by simp) (by simp)
  | .arr xs, hl, _ => by
    obtain rfl : xs = [] := by simpa [Json.listFree] using hl
    exact remerges_nil
  | .obj s, hl, hw =>
    remerges_obj hw (remerges_of_listFreeFields s (by simpa [Json.listFree] using hl)
      (wellFormed_obj.1 hw).2)

theorem remerges_of_listFreeFields : ∀ s : List (String × Json), listFreeFields s = true →
    (∀ e ∈ s, e.2.wellFormed = true) → ∀ e ∈ s, Remerges e.2
  | [], _, _, _, he => absurd he (List.not_mem_nil _)
  | (k, v) :: s, hl, hw, e, he => by
    rw [listFreeFields, Bool.and_eq_true] at hl
    rcases List.mem_cons.1 he with rfl | he
    · exact remerges_of_listFree v hl.1 (hw _ (List.mem_cons_self _ _))
    · exact remerges_of_listFreeFields s hl.2
        (fun e' he' => hw e' (List.mem_cons_of_mem _ he')) e he
end

/-- A non-empty slice merged into itself is longer, so not `DeepEqual` to itself. -/
theorem DeepEqual_mergeValues_arr_self {xs : List Json} (hne : xs ≠ []) :
    DeepEqual (mergeValues (.arr xs) (.arr xs)) (.arr xs) = false := by
  rw [mergeValues_arr, DeepEqual_arr]
  refine Bool.eq_false_iff.2 fun h => hne (List.length_eq_zero.1 ?_)
  have := length_eq_of_deepEqualList h
  rw [List.length_append] at this
  omega

/-- A map one of whose values changes when merged into itself changes too. -/
theorem DeepEqual_mergeValues_obj_self {s : List (String × Json)} (hnd : (s.map Prod.fst).Nodup)
    {e : String × Json} (he : e ∈ s) (hrec : DeepEqual (mergeValues e.2 e.2) e.2 = false) :
    DeepEqual (mergeValues (.obj s) (.obj s)) (.obj s) = false := by
  have hmem : (e.1, mergeValues e.2 e.2) ∈ DeepMerge s s := by
    rw [DeepMerge_eq hnd hnd]
    refine List.mem_append_left _ (List.mem_map.2 ⟨e, he, ?_⟩)
    rw [mergeEntry, lookup_of_mem hnd he]
    rfl
  rw [mergeValues_obj, DeepEqual_obj, Bool.and_eq_false_iff]
  refine .inr (Bool.eq_false_iff.2 fun h => ?_)
  obtain ⟨w, hw, heq⟩ := deepEqualFields_iff.1 h _ hmem
  rw [lookup_of_mem hnd he, Option.some_inj] at hw
  rw [← hw, hrec] at heq
  cases heq

mutual
/-- A well-formed value with a non-empty slice reachable through map keys, merged into itself,
is not `DeepEqual` to itself. -/
theorem DeepEqual_mergeValues_self : ∀ v : Json, v.wellFormed = true → v.listFree = false →
    DeepEqual (mergeValues v v) v = false
  | .arr xs, _, hl => DeepEqual_mergeValues_arr_self (by simpa [Json.listFree] using hl)
  | .obj s, hw, hl => by
    obtain ⟨hnd, hwf⟩ := wellFormed_obj.1 hw
    obtain ⟨e, he, hle⟩ : ∃ e ∈ s, e.2.listFree = false := by
      by_contra hall
      push_neg at hall
      rw [Json.listFree, listFreeFields_iff.2 fun e he => by simpa using hall e he] at hl
      cases hl
    exact DeepEqual_mergeValues_obj_self hnd he (DeepEqual_mergeValues_self_fields s hwf e he hle)
  | .null, _, hl | .bool _, _, hl | .num _, _, hl | .str _, _, hl => by cases hl

theorem DeepEqual_mergeValues_self_fields : ∀ s : List (String × Json),
    (∀ e ∈ s, e.2.wellFormed = true) → ∀ e ∈ s, e.2.listFree = false →
      DeepEqual (mergeValues e.2 e.2) e.2 = false
  | [], _, _, he, _ => absurd he (List.not_mem_nil _)
  | (k, v) :: s, hw, e, he, hle => by
    rcases List.mem_cons.1 he with rfl | he
    · exact DeepEqual_mergeValues_self v (hw _ (List.mem_cons_self _ _)) hle
    · exact DeepEqual_mergeValues_self_fields s
        (fun e' he' => hw e' (List.mem_cons_of_mem _ he')) e he hle
end

/-- **Re-merging an import.** Merging a well-formed payload `a` a second time into the result of
merging it into a well-formed payload `X` changes nothing, for every `X`, exactly when `a` has no
non-empty slice reachable from its root through map keys; when it has one, merging `a` twice into
an empty store gives a map that `DeepEqual` tells apart from merging it once. -/
theorem DeepMerge_remerge_iff (a : List (String × Json)) (ha : (Json.obj a).wellFormed = true) :
    ((∀ X, (Json.obj X).wellFormed = true → DeepMerge (DeepMerge X a) a = DeepMerge X a) ↔
        (Json.obj a).listFree = true) ∧
      ((Json.obj a).listFree = false →
        DeepEqual (.obj (DeepMerge (DeepMerge [] a) a)) (.obj (DeepMerge [] a)) = false) := by
  obtain ⟨hnd, hwf⟩ := wellFormed_obj.1 ha
  have hnil : DeepMerge [] a = a := by
    rw [@DeepMerge_eq [] a List.nodup_nil hnd]
    simp
  have hne : (Json.obj a).listFree = false →
      DeepEqual (.obj (DeepMerge (DeepMerge [] a) a)) (.obj (DeepMerge [] a)) = false :=
    fun hl => by simpa only [hnil, mergeValues_obj] using DeepEqual_mergeValues_self (.obj a) ha hl
  refine ⟨⟨fun h => ?_, fun hl X hX => DeepMerge_remerge_of hX hnd
    (remerges_of_listFreeFields a (by simpa [Json.listFree] using hl) hwf)⟩, hne⟩
  cases hl : (Json.obj a).listFree
  · have hfalse := hne hl
    rw [h [] rfl, hnil, DeepEqual_refl _ ha] at hfalse
    cases hfalse
  · rfl

theorem DeepMerge_remerge_iff_analytics :
    (Json.obj analyticsPayload).wellFormed = true ∧
      (((∀ X, (Json.obj X).wellFormed = true →
          DeepMerge (DeepMerge X analyticsPayload) analyticsPayload =
            DeepMerge X analyticsPayload) ↔
          (Json.obj analyticsPayload).listFree = true) ∧
        ((Json.obj analyticsPayload).listFree = false →
          DeepEqual (.obj (DeepMerge (DeepMerge [] analyticsPayload) analyticsPayload))
            (.obj (DeepMerge [] analyticsPayload)) = false)) :=
  ⟨by decide, DeepMerge_remerge_iff analyticsPayload (by decide)⟩

/-! ### Associativity -/

mutual
/-- Two values never carry different kinds at a key path they share through maps: a map, a list
and a scalar are three kinds, and `null` goes with every kind. -/
def Json.kindConsistent : Json → Json → Bool
  | .null, _ => true
  | _, .null => true
  | .obj a, .obj b => kindConsistentFields a b
  | .arr _, .arr _ => true
  | .obj _, _ => false
  | _, .obj _ => false
  | .arr _, _ => false
  | _, .arr _ => false
  | _, _ => true

/-- The values the two maps hold at each key of the first are kind-consistent. -/
def kindConsistentFields : List (String × Json) → List (String × Json) → Bool
  | [], _ => true
  | (k, v) :: a, b =>
    (match b.lookup k with
      | some w => v.kindConsistent w
      | none => true) && kindConsistentFields a b
end

theorem kindConsistentFields_iff {a b : List (String × Json)} :
    kindConsistentFields a b = true ↔
      ∀ e ∈ a, ∀ w, b.lookup e.1 = some w → e.2.kindConsistent w = true := by
  induction a with
  | nil => simp [kindConsistentFields]
  | cons e a ih =>
    obtain ⟨k, v⟩ := e
    rw [kindConsistentFields, Bool.and_eq_true, ih, List.forall_mem_cons]
    apply and_congr_left'
    cases b.lookup k <;> simp

theorem kindConsistent_obj {a b : List (String × Json)} :
    (Json.obj a).kindConsistent (.obj b) = true ↔
      ∀ e ∈ a, ∀ w, b.lookup e.1 = some w → e.2.kindConsistent w = true :=
  kindConsistentFields_iff

/-- The value law of `mergeValues` on kind-consistent values, given it where all three are
maps. -/
theorem mergeValues_assoc_of {a b c : Json} (hab : a.kindConsistent b = true)
    (hbc : b.kindConsistent c = true) (hac : a.kindConsistent c = true)
    (hobj : ∀ A B C, a = .obj A → b = .obj B → c = .obj C →
      mergeValues (mergeValues a b) c = mergeValues a (mergeValues b c)) :
    mergeValues (mergeValues a b) c = mergeValues a (mergeValues b c) := by
  cases c with
  | null => simp
  | arr zs =>
    cases b with
    | null => simp
    | arr ys =>
      cases a with
      | null => simp
      | arr xs => simp
      | _ => cases hac
    | _ => cases hbc
  | obj C =>
    cases b with
    | null => simp
    | obj B =>
      cases a with
      | null => simp
      | obj A => exact hobj A B C rfl rfl rfl
      | _ => cases hac
    | _ => cases hbc
  | _ => simp (disch := simp) only [mergeValues_of_scalar]

/-- Merging `b` and then `c` into a value is merging their merge into it, when the three values
obey the value law. -/
theorem mergeInto_mergeInto (x : Json) (bo co : Option Json)
    (h : ∀ b c, bo = some b → co = some c →
      mergeValues (mergeValues x b) c = mergeValues x (mergeValues b c)) :
    mergeInto (mergeInto x bo) co = mergeInto x (mergedAt bo co) := by
  cases bo with
  | none => cases co <;> rfl
  | some b =>
    cases co with
    | none => rw [mergedAt_none]; rfl
    | some c => rw [mergedAt_some]; exact h b c rfl rfl

/-- **Associativity of `DeepMerge`, key by key.** Given the value law at each key the three maps
share, merging `B` then `C` into `A` is merging the merge of `B` and `C` into `A`. -/
theorem DeepMerge_assoc_of {A B C : List (String × Json)} (hA : (A.map Prod.fst).Nodup)
    (hB : (B.map Prod.fst).Nodup) (hC : (C.map Prod.fst).Nodup)
    (h : ∀ e ∈ A, ∀ b c, B.lookup e.1 = some b → C.lookup e.1 = some c →
      mergeValues (mergeValues e.2 b) c = mergeValues e.2 (mergeValues b c)) :
    DeepMerge (DeepMerge A B) C = DeepMerge A (DeepMerge B C) := by
  have hfirst :
      (A.map (mergeEntry B)).map (mergeEntry C) = A.map (mergeEntry (DeepMerge B C)) := by
    rw [List.map_map]
    refine List.map_congr_left fun e he => ?_
    simp only [Function.comp_apply, mergeEntry, lookup_DeepMerge hB hC]
    rw [mergeInto_mergeInto e.2 _ _ (h e he)]
  have hsecond : (B.filter fun e => e.1 ∉ A.map Prod.fst).map (mergeEntry C) =
      (B.map (mergeEntry C)).filter fun e => e.1 ∉ A.map Prod.fst := by
    rw [List.filter_map]
    rfl
  have hthird : (C.filter fun e => e.1 ∉ (DeepMerge A B).map Prod.fst) =
      (C.filter fun e => e.1 ∉ B.map Prod.fst).filter fun e => e.1 ∉ A.map Prod.fst := by
    rw [List.filter_filter]
    refine List.filter_congr fun e _ => ?_
    rw [keys_DeepMerge hA hB]
    simp only [List.mem_append, mem_keys_filter]
    by_cases h1 : e.1 ∈ A.map Prod.fst <;> by_cases h2 : e.1 ∈ B.map Prod.fst <;> simp [h1, h2]
  calc DeepMerge (DeepMerge A B) C
      = (A.map (mergeEntry B) ++ B.filter fun e => e.1 ∉ A.map Prod.fst).map (mergeEntry C) ++
          C.filter fun e => e.1 ∉ (DeepMerge A B).map Prod.fst := by
        rw [DeepMerge_eq (nodup_DeepMerge hA hB) hC, DeepMerge_eq hA hB]
    _ = A.map (mergeEntry (DeepMerge B C)) ++
          ((B.map (mergeEntry C)).filter (fun e => e.1 ∉ A.map Prod.fst) ++
            (C.filter fun e => e.1 ∉ B.map Prod.fst).filter fun e => e.1 ∉ A.map Prod.fst) := by
        rw [List.map_append, hfirst, hsecond, hthird, List.append_assoc]
    _ = DeepMerge A (DeepMerge B C) := by
        rw [DeepMerge_eq hA (nodup_DeepMerge hB hC)]
        congr 1
        rw [DeepMerge_eq hB hC, List.filter_append]

mutual
/-- The value law: on well-formed, pairwise kind-consistent values, `mergeValues` is
associative. -/
theorem mergeValues_assoc : ∀ a b c : Json, a.wellFormed = true → b.wellFormed = true →
    c.wellFormed = true → a.kindConsistent b = true → b.kindConsistent c = true →
    a.kindConsistent c = true →
      mergeValues (mergeValues a b) c = mergeValues a (mergeValues b c)
  | .obj A, b, c, ha, hb, hc, hab, hbc, hac =>
    mergeValues_assoc_of hab hbc hac fun _ B C hA hB hC => by
      cases hA
      subst hB hC
      obtain ⟨hAnd, hAwf⟩ := wellFormed_obj.1 ha
      obtain ⟨hBnd, hBwf⟩ := wellFormed_obj.1 hb
      obtain ⟨hCnd, hCwf⟩ := wellFormed_obj.1 hc
      rw [kindConsistent_obj] at hab hbc hac
      simp only [mergeValues_obj]
      refine congrArg Json.obj (DeepMerge_assoc_of hAnd hBnd hCnd fun e he b c hb hc => ?_)
      have hbB := mem_of_lookup_eq_some hb
      exact mergeValues_assoc_fields A e he b c (hAwf e he) (hBwf _ hbB)
        (hCwf _ (mem_of_lookup_eq_some hc)) (hab e he b hb) (hbc _ hbB c hc) (hac e he c hc)
  | .null, _, _, _, _, _, hab, hbc, hac | .bool _, _, _, _, _, _, hab, hbc, hac
  | .num _, _, _, _, _, _, hab, hbc, hac | .str _, _, _, _, _, _, hab, hbc, hac
  | .arr _, _, _, _, _, _, hab, hbc, hac =>
    mergeValues_assoc_of hab hbc hac fun _ _ _ h => by cases h

theorem mergeValues_assoc_fields : ∀ A : List (String × Json), ∀ e ∈ A, ∀ b c : Json,
    e.2.wellFormed = true → b.wellFormed = true → c.wellFormed = true →
    e.2.kindConsistent b = true → b.kindConsistent c = true → e.2.kindConsistent c = true →
      mergeValues (mergeValues e.2 b) c = mergeValues e.2 (mergeValues b c)
  | [], _, he, _, _, _, _, _, _, _, _ => absurd he (List.not_mem_nil _)
  | (_, v) :: A, e, he, b, c, ha, hb, hc, hab, hbc, hac => by
    rcases List.mem_cons.1 he with rfl | he
    · exact mergeValues_assoc v b c ha hb hc hab hbc hac
    · exact mergeValues_assoc_fields A e he b c ha hb hc hab hbc hac
end

/-- **Associativity of `DeepMerge`.** On well-formed payloads that are pairwise
kind-consistent, merging `B` and then `C` into `A` is merging the merge of `B` and `C` into
`A`. -/
theorem DeepMerge_assoc (A B C : List (String × Json)) (hA : (Json.obj A).wellFormed = true)
    (hB : (Json.obj B).wellFormed = true) (hC : (Json.obj C).wellFormed = true)
    (hAB : (Json.obj A).kindConsistent (.obj B) = true)
    (hBC : (Json.obj B).kindConsistent (.obj C) = true)
    (hAC : (Json.obj A).kindConsistent (.obj C) = true) :
    DeepMerge (DeepMerge A B) C = DeepMerge A (DeepMerge B C) := by
  simpa only [mergeValues_obj, Json.obj.injEq] using
    mergeValues_assoc (.obj A) (.obj B) (.obj C) hA hB hC hAB hBC hAC

/-- A third payload in the import scenario: a region of its own, a `null` team and a tag. -/
def platformPayload : List (String × Json) :=
  [("common", .obj [("region", .str "eu-west-1"), ("team", .null)]),
    ("tags", .arr [.str "platform"])]

theorem DeepMerge_assoc_imports :
    ((Json.obj analyticsPayload).wellFormed = true ∧
      (Json.obj engineersPayload).wellFormed = true ∧
      (Json.obj platformPayload).wellFormed = true ∧
      (Json.obj analyticsPayload).kindConsistent (.obj engineersPayload) = true ∧
      (Json.obj engineersPayload).kindConsistent (.obj platformPayload) = true ∧
      (Json.obj analyticsPayload).kindConsistent (.obj platformPayload) = true) ∧
    DeepMerge (DeepMerge analyticsPayload engineersPayload) platformPayload =
      DeepMerge analyticsPayload (DeepMerge engineersPayload platformPayload) :=
  ⟨⟨by decide, by decide, by decide, by decide, by decide, by decide⟩,
    DeepMerge_assoc _ _ _ (by decide) (by decide) (by decide) (by decide) (by decide) (by decide)⟩

/-- Without kind consistency the law fails: a slice, a string and a slice at one key. -/
example :
    DeepEqual (.obj (DeepMerge (DeepMerge [("k", .arr [.str "a"])] [("k", .str "b")])
        [("k", .arr [.str "c"])]))
      (.obj (DeepMerge [("k", .arr [.str "a"])]
        (DeepMerge [("k", .str "b")] [("k", .arr [.str "c"])]))) = false := by
  decide

end VaultSecretSync
