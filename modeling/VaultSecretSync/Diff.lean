import VaultSecretSync.Utils.DeepMerge
import Mathlib.Data.List.Sort
import Mathlib.Data.String.Basic
import Mathlib.Data.Finset.Card
import Mathlib.Algebra.Order.Ring.Nat

/-!
# The diff engine

`DiffSecrets` compares the current and the desired secrets of one target, path by path, and
emits one `SecretChange` per path, sorted by path; `ComputeSummary` counts the changes of each
kind; a `PipelineDiff` accumulates the targets' diffs with `AddTargetDiff`, and its `ExitCode`
is `0` exactly when nothing changes.

Secret maps are `Json` objects listed by their entries, so statements over every list hold for
every iteration order of the Go maps. Go's `sort.Slice` on the distinct paths is modelled by
`List.insertionSort`, which gives the same list.

The main result is `DiffSecrets_summary`: the changes cover the union of the two key sets once
each, in increasing path order and classified by `changeTypeOf`; the summary counts each class;
`IsZeroSum` holds exactly when current and desired `Agree`; and over a whole pipeline the summary
is the fieldwise sum and the exit code is `0` exactly when every target agrees.

A modified secret carries the key-level detail `diffMapKeys` computes. `DiffSecrets_keyChanges`
says what it is: for two maps, the keys added, removed and modified, each sorted (`KeyDiff`; Go's
`sort.Strings` orders the UTF-8 bytes, which is the order of code points that `String`'s `<`
uses), pairwise disjoint and not all empty; for any other pair of values, the single
modification `<value>`.
-/

namespace VaultSecretSync

/-! ### Changes and summaries -/

/-- `ChangeType`. -/
inductive ChangeType
  | added
  | removed
  | modified
  | unchanged
  deriving DecidableEq, Repr

/-- A change to one secret, with the key-level detail the source records. -/
structure SecretChange where
  path : String
  changeType : ChangeType
  target : String := ""
  keysAdded : List String := []
  keysRemoved : List String := []
  keysModified : List String := []
  currentKeys : List String := []
  desiredKeys : List String := []
  deriving DecidableEq, Repr

/-- `ChangeSummary`: the number of changes of each kind, and in all. -/
structure ChangeSummary where
  added : Nat := 0
  removed : Nat := 0
  modified : Nat := 0
  unchanged : Nat := 0
  total : Nat := 0
  deriving DecidableEq, Repr

/-- `ChangeSummary.IsZeroSum`: nothing is added, removed or modified. -/
def ChangeSummary.IsZeroSum (s : ChangeSummary) : Bool :=
  s.added == 0 && s.removed == 0 && s.modified == 0

/-- All changes of one target. -/
structure TargetDiff where
  target : String
  changes : List SecretChange
  summary : ChangeSummary
  deriving DecidableEq, Repr

/-- The diff of a whole pipeline run. -/
structure PipelineDiff where
  targets : List TargetDiff
  summary : ChangeSummary
  dryRun : Bool
  configPath : String
  deriving DecidableEq, Repr

namespace PipelineDiff

/-- `PipelineDiff.IsZeroSum`. -/
def IsZeroSum (p : PipelineDiff) : Bool := p.summary.IsZeroSum

/-- `ExitCode`: `0` when nothing changes, else `1`. -/
def ExitCode (p : PipelineDiff) : Nat := if p.IsZeroSum then 0 else 1

/-- `AddTargetDiff`: append the target's diff and add its summary field by field. -/
def AddTargetDiff (p : PipelineDiff) (td : TargetDiff) : PipelineDiff :=
  { p with
    targets := p.targets ++ [td]
    summary := { added := p.summary.added + td.summary.added
                 removed := p.summary.removed + td.summary.removed
                 modified := p.summary.modified + td.summary.modified
                 unchanged := p.summary.unchanged + td.summary.unchanged
                 total := p.summary.total + td.summary.total } }

end PipelineDiff

/-! ### `DiffSecrets` -/

/-- `getMapKeys`: the sorted keys of a map, none for another value. -/
def getMapKeys : Json → List String
  | .obj m => (m.map Prod.fst).insertionSort (· ≤ ·)
  | _ => []

/-- `diffMapKeys`: the keys added, removed and modified between two maps, each sorted; a whole
modification `<value>` when either value is not a map. -/
def diffMapKeys : Json → Json → List String × List String × List String
  | .obj current, .obj desired =>
    let seen := desired.map Prod.fst
    let added := (desired.filter fun e => (current.lookup e.1).isNone).map Prod.fst
    let modified := (desired.filter fun e =>
      match current.lookup e.1 with
      | some cv => !DeepEqual cv e.2
      | none => false).map Prod.fst
    let removed := (current.filter fun e => e.1 ∉ seen).map Prod.fst
    (added.insertionSort (· ≤ ·), removed.insertionSort (· ≤ ·), modified.insertionSort (· ≤ ·))
  | _, _ => ([], [], ["<value>"])

/-- The change the first loop of `DiffSecrets` emits for a desired secret. -/
def desiredChange (current : List (String × Json)) (path : String) (desiredVal : Json) :
    SecretChange :=
  match current.lookup path with
  | none => { path := path, changeType := .added, desiredKeys := getMapKeys desiredVal }
  | some currentVal =>
    if DeepEqual currentVal desiredVal then
      { path := path, changeType := .unchanged, currentKeys := getMapKeys currentVal,
        desiredKeys := getMapKeys desiredVal }
    else
      let (added, removed, modified) := diffMapKeys currentVal desiredVal
      { path := path, changeType := .modified, currentKeys := getMapKeys currentVal,
        desiredKeys := getMapKeys desiredVal, keysAdded := added, keysRemoved := removed,
        keysModified := modified }

/-- The change the second loop of `DiffSecrets` emits for a current secret not desired. -/
def removedChange (path : String) (currentVal : Json) : SecretChange :=
  { path := path, changeType := .removed, currentKeys := getMapKeys currentVal }

/-- The comparator of the final sort: by path. -/
def pathLE (a b : SecretChange) : Prop := a.path ≤ b.path

instance : DecidableRel pathLE := fun a b => inferInstanceAs (Decidable (a.path ≤ b.path))

instance : IsTotal SecretChange pathLE := ⟨fun _ _ => le_total _ _⟩

instance : IsTrans SecretChange pathLE := ⟨fun _ _ _ => le_trans⟩

/-- `DiffSecrets`: a change for each desired secret, then a removal for each current secret not
seen among the desired ones, sorted by path. -/
def DiffSecrets (current desired : List (String × Json)) : List SecretChange :=
  let (changes, seen) := desired.foldl
    (fun (acc : List SecretChange × List String) e =>
      (acc.1 ++ [desiredChange current e.1 e.2], acc.2 ++ [e.1])) ([], [])
  let changes := current.foldl
    (fun changes e => if e.1 ∈ seen then changes else changes ++ [removedChange e.1 e.2]) changes
  changes.insertionSort pathLE

/-- The body of `ComputeSummary`'s loop: count one change by its kind, and in the total. -/
def countChange (s : ChangeSummary) (c : SecretChange) : ChangeSummary :=
  let s := match c.changeType with
    | .added => { s with added := s.added + 1 }
    | .removed => { s with removed := s.removed + 1 }
    | .modified => { s with modified := s.modified + 1 }
    | .unchanged => { s with unchanged := s.unchanged + 1 }
  { s with total := s.total + 1 }

/-- `ComputeSummary`: count the changes by kind. -/
def ComputeSummary (changes : List SecretChange) : ChangeSummary :=
  changes.foldl countChange {}

/-! ### What `DiffSecrets` computes -/

/-- The kind of change of a path: added when only desired, removed when only current, and when
in both, unchanged or modified as `DeepEqual` decides. -/
def changeTypeOf (current desired : List (String × Json)) (p : String) : ChangeType :=
  match current.lookup p, desired.lookup p with
  | none, _ => .added
  | some _, none => .removed
  | some a, some b => if DeepEqual a b then .unchanged else .modified

/-- The paths of either map. -/
def diffPaths (current desired : List (String × Json)) : Finset String :=
  (current.map Prod.fst).toFinset ∪ (desired.map Prod.fst).toFinset

/-- Current and desired secrets agree: the same paths, with `DeepEqual` values. -/
def Agree (current desired : List (String × Json)) : Prop :=
  (∀ p, p ∈ current.map Prod.fst ↔ p ∈ desired.map Prod.fst) ∧
    ∀ p a b, current.lookup p = some a → desired.lookup p = some b → DeepEqual a b = true

theorem desiredChange_path (current : List (String × Json)) (p : String) (v : Json) :
    (desiredChange current p v).path = p := by
  unfold desiredChange
  split
  · rfl
  · split <;> rfl

theorem desiredChange_changeType {current desired : List (String × Json)} {p : String} {v : Json}
    (h : desired.lookup p = some v) :
    (desiredChange current p v).changeType = changeTypeOf current desired p := by
  unfold desiredChange changeTypeOf
  rw [h]
  cases current.lookup p with
  | none => rfl
  | some a => dsimp only; split <;> rfl

theorem foldl_desired (current : List (String × Json)) : ∀ (desired : List (String × Json))
    (acc : List SecretChange × List String),
    desired.foldl (fun (acc : List SecretChange × List String) e =>
        (acc.1 ++ [desiredChange current e.1 e.2], acc.2 ++ [e.1])) acc =
      (acc.1 ++ desired.map (fun e => desiredChange current e.1 e.2),
        acc.2 ++ desired.map Prod.fst)
  | [], acc => by simp
  | e :: desired, acc => by simp [foldl_desired current desired]

theorem foldl_current (seen : List String) : ∀ (current : List (String × Json))
    (changes : List SecretChange),
    current.foldl (fun changes e =>
        if e.1 ∈ seen then changes else changes ++ [removedChange e.1 e.2]) changes =
      changes ++ (current.filter fun e => e.1 ∉ seen).map fun e => removedChange e.1 e.2
  | [], _ => by simp
  | e :: current, changes => by
    by_cases he : e.1 ∈ seen <;> simp [he, foldl_current seen current]

/-- The changes `DiffSecrets` collects before its final sort: one per desired secret, then one
per current secret that is not desired. -/
def unsortedChanges (current desired : List (String × Json)) : List SecretChange :=
  desired.map (fun e => desiredChange current e.1 e.2) ++
    (current.filter fun e => e.1 ∉ desired.map Prod.fst).map fun e => removedChange e.1 e.2

theorem DiffSecrets_eq (current desired : List (String × Json)) :
    DiffSecrets current desired = (unsortedChanges current desired).insertionSort pathLE := by
  simp only [DiffSecrets, foldl_desired, foldl_current, List.nil_append, unsortedChanges]

section Diff

variable {current desired : List (String × Json)}

theorem paths_unsortedChanges (current desired : List (String × Json)) :
    (unsortedChanges current desired).map SecretChange.path =
      desired.map Prod.fst ++ (current.filter fun e => e.1 ∉ desired.map Prod.fst).map Prod.fst := by
  simp [unsortedChanges, Function.comp_def, desiredChange_path, removedChange]

theorem nodup_paths_unsortedChanges (hc : (current.map Prod.fst).Nodup)
    (hd : (desired.map Prod.fst).Nodup) :
    ((unsortedChanges current desired).map SecretChange.path).Nodup := by
  rw [paths_unsortedChanges]
  refine List.Nodup.append hd (((List.filter_sublist _).map Prod.fst).nodup hc) ?_
  intro p hp hp'
  obtain ⟨e, he, rfl⟩ := List.mem_map.1 hp'
  exact absurd hp (by simpa using (List.mem_filter.1 he).2)

theorem mem_paths_unsortedChanges {p : String} :
    p ∈ (unsortedChanges current desired).map SecretChange.path ↔ p ∈ diffPaths current desired := by
  rw [paths_unsortedChanges, diffPaths, Finset.mem_union, List.mem_toFinset, List.mem_toFinset,
    List.mem_append]
  constructor
  · rintro (h | h)
    · exact .inr h
    · obtain ⟨e, he, rfl⟩ := List.mem_map.1 h
      exact .inl (List.mem_map_of_mem _ (List.mem_filter.1 he).1)
  · rintro (h | h)
    · by_cases hd : p ∈ desired.map Prod.fst
      · exact .inl hd
      · obtain ⟨e, he, rfl⟩ := List.mem_map.1 h
        exact .inr (List.mem_map_of_mem _ (List.mem_filter.2 ⟨he, by simpa using hd⟩))
    · exact .inl h

theorem changeType_unsortedChanges (hc : (current.map Prod.fst).Nodup)
    (hd : (desired.map Prod.fst).Nodup) :
    ∀ x ∈ unsortedChanges current desired, x.changeType = changeTypeOf current desired x.path := by
  intro x hx
  rcases List.mem_append.1 hx with hx | hx
  · obtain ⟨⟨p, v⟩, he, rfl⟩ := List.mem_map.1 hx
    rw [desiredChange_path, desiredChange_changeType (lookup_of_mem hd he)]
  · obtain ⟨⟨p, v⟩, he, rfl⟩ := List.mem_map.1 hx
    obtain ⟨he, hnd⟩ := List.mem_filter.1 he
    have hn : desired.lookup p = none := lookup_eq_none_of_not_mem (by simpa using hnd)
    simp [removedChange, changeTypeOf, lookup_of_mem hc he, hn]

end Diff

/-! ### Summaries -/

/-- The summary predicted from the paths: the size of each class, and of all paths. -/
def diffCounts (current desired : List (String × Json)) : ChangeSummary where
  added := ((diffPaths current desired).filter (changeTypeOf current desired · = .added)).card
  removed := ((diffPaths current desired).filter (changeTypeOf current desired · = .removed)).card
  modified := ((diffPaths current desired).filter (changeTypeOf current desired · = .modified)).card
  unchanged :=
    ((diffPaths current desired).filter (changeTypeOf current desired · = .unchanged)).card
  total := (diffPaths current desired).card

theorem foldl_countChange : ∀ (cs : List SecretChange) (s : ChangeSummary),
    cs.foldl countChange s =
      { added := s.added + cs.countP (·.changeType = .added)
        removed := s.removed + cs.countP (·.changeType = .removed)
        modified := s.modified + cs.countP (·.changeType = .modified)
        unchanged := s.unchanged + cs.countP (·.changeType = .unchanged)
        total := s.total + cs.length }
  | [], s => rfl
  | c :: cs, s => by
    rw [List.foldl_cons, foldl_countChange cs]
    cases hc : c.changeType <;> simp [countChange, hc, List.countP_cons] <;> omega

section Diff

variable {current desired : List (String × Json)}

theorem countP_DiffSecrets (hc : (current.map Prod.fst).Nodup) (hd : (desired.map Prod.fst).Nodup)
    (t : ChangeType) :
    (DiffSecrets current desired).countP (·.changeType = t) =
      ((diffPaths current desired).filter (changeTypeOf current desired · = t)).card := by
  have hnd := nodup_paths_unsortedChanges hc hd
  have hmap := List.countP_map (fun p => decide (changeTypeOf current desired p = t))
    SecretChange.path (unsortedChanges current desired)
  rw [Function.comp_def] at hmap
  rw [DiffSecrets_eq, (List.perm_insertionSort _ _).countP_eq,
    List.countP_congr fun x hx => by rw [changeType_unsortedChanges hc hd x hx],
    ← hmap, List.countP_eq_length_filter,
    ← List.toFinset_card_of_nodup (hnd.filter _), List.toFinset_filter]
  have hset : ((unsortedChanges current desired).map SecretChange.path).toFinset =
      diffPaths current desired := by
    ext p
    rw [List.mem_toFinset, mem_paths_unsortedChanges]
  simp [hset]

theorem length_DiffSecrets (hc : (current.map Prod.fst).Nodup) (hd : (desired.map Prod.fst).Nodup) :
    (DiffSecrets current desired).length = (diffPaths current desired).card := by
  rw [DiffSecrets_eq, List.length_insertionSort, ← List.length_map _ SecretChange.path,
    ← List.toFinset_card_of_nodup (nodup_paths_unsortedChanges hc hd)]
  congr 1
  ext p
  rw [List.mem_toFinset, mem_paths_unsortedChanges]

theorem ComputeSummary_DiffSecrets (hc : (current.map Prod.fst).Nodup)
    (hd : (desired.map Prod.fst).Nodup) :
    ComputeSummary (DiffSecrets current desired) = diffCounts current desired := by
  rw [ComputeSummary, foldl_countChange, countP_DiffSecrets hc hd, countP_DiffSecrets hc hd,
    countP_DiffSecrets hc hd, countP_DiffSecrets hc hd, length_DiffSecrets hc hd]
  simp only [Nat.zero_add]
  rfl

/-- A path is unchanged exactly when both maps hold it with `DeepEqual` values. -/
theorem changeTypeOf_eq_unchanged {p : String} :
    changeTypeOf current desired p = .unchanged ↔
      ∃ a b, current.lookup p = some a ∧ desired.lookup p = some b ∧ DeepEqual a b = true := by
  unfold changeTypeOf
  cases current.lookup p <;> cases desired.lookup p <;> simp

/-- Current and desired agree exactly when every path is unchanged. -/
theorem agree_iff : Agree current desired ↔
    ∀ p ∈ diffPaths current desired, changeTypeOf current desired p = .unchanged := by
  simp only [Agree, diffPaths, Finset.mem_union, List.mem_toFinset, mem_keys_iff_lookup,
    changeTypeOf_eq_unchanged]
  constructor
  · rintro ⟨hkeys, heq⟩ p hp
    obtain ⟨a, ha⟩ := Option.ne_none_iff_exists'.1 (hp.elim id (hkeys p).2)
    obtain ⟨b, hb⟩ := Option.ne_none_iff_exists'.1 ((hkeys p).1 (by simp [ha]))
    exact ⟨a, b, ha, hb, heq p a b ha hb⟩
  · intro h
    refine ⟨fun p => ⟨fun hp => ?_, fun hp => ?_⟩, fun p a b ha hb => ?_⟩
    · obtain ⟨_, _, -, hb, -⟩ := h p (.inl hp)
      simp [hb]
    · obtain ⟨_, _, ha, -, -⟩ := h p (.inr hp)
      simp [ha]
    · obtain ⟨a', b', ha', hb', hab⟩ := h p (.inl (by simp [ha]))
      rw [ha, Option.some_inj] at ha'
      rw [hb, Option.some_inj] at hb'
      rwa [ha', hb']

/-- `IsZeroSum` of the summary holds exactly when current and desired agree. -/
theorem IsZeroSum_iff_agree (hc : (current.map Prod.fst).Nodup)
    (hd : (desired.map Prod.fst).Nodup) :
    (ComputeSummary (DiffSecrets current desired)).IsZeroSum = true ↔ Agree current desired := by
  rw [ComputeSummary_DiffSecrets hc hd, agree_iff]
  simp only [ChangeSummary.IsZeroSum, diffCounts, Bool.and_eq_true, beq_iff_eq,
    Finset.card_eq_zero, Finset.filter_eq_empty_iff]
  constructor
  · rintro ⟨⟨ha, hr⟩, hm⟩ p hp
    cases h : changeTypeOf current desired p
    exacts [absurd h (ha hp), absurd h (hr hp), absurd h (hm hp), rfl]
  · intro h
    refine ⟨⟨fun p hp => ?_, fun p hp => ?_⟩, fun p hp => ?_⟩ <;> simp [h p hp]

end Diff

/-! ### The pipeline diff -/

/-- The fieldwise sum of summaries. -/
def ChangeSummary.sum (l : List ChangeSummary) : ChangeSummary where
  added := (l.map (·.added)).sum
  removed := (l.map (·.removed)).sum
  modified := (l.map (·.modified)).sum
  unchanged := (l.map (·.unchanged)).sum
  total := (l.map (·.total)).sum

/-- The diff of one target, from its current and desired secrets. -/
def targetDiffOf (target : String) (current desired : List (String × Json)) : TargetDiff where
  target := target
  changes := DiffSecrets current desired
  summary := ComputeSummary (DiffSecrets current desired)

/-- The diffs of the targets `(name, current, desired)` added one by one to an empty pipeline
diff. -/
def pipelineDiffOf (ts : List (String × List (String × Json) × List (String × Json)))
    (dryRun : Bool) (configPath : String) : PipelineDiff :=
  ts.foldl (fun pd t => pd.AddTargetDiff (targetDiffOf t.1 t.2.1 t.2.2))
    ⟨[], {}, dryRun, configPath⟩

theorem foldl_AddTargetDiff : ∀ (tds : List TargetDiff) (pd : PipelineDiff),
    (tds.foldl PipelineDiff.AddTargetDiff pd).summary =
      { added := pd.summary.added + (tds.map (·.summary.added)).sum
        removed := pd.summary.removed + (tds.map (·.summary.removed)).sum
        modified := pd.summary.modified + (tds.map (·.summary.modified)).sum
        unchanged := pd.summary.unchanged + (tds.map (·.summary.unchanged)).sum
        total := pd.summary.total + (tds.map (·.summary.total)).sum }
  | [], _ => rfl
  | td :: tds, pd => by
    rw [List.foldl_cons, foldl_AddTargetDiff tds]
    simp only [PipelineDiff.AddTargetDiff, List.map_cons, List.sum_cons]
    congr 1 <;> omega

theorem summary_pipelineDiffOf (ts : List (String × List (String × Json) × List (String × Json)))
    (dryRun : Bool) (configPath : String) :
    (pipelineDiffOf ts dryRun configPath).summary =
      ChangeSummary.sum (ts.map fun t => ComputeSummary (DiffSecrets t.2.1 t.2.2)) := by
  have h := foldl_AddTargetDiff (ts.map fun t => targetDiffOf t.1 t.2.1 t.2.2)
    ⟨[], {}, dryRun, configPath⟩
  rw [List.foldl_map] at h
  rw [pipelineDiffOf, h]
  simp [ChangeSummary.sum, targetDiffOf, Function.comp_def]

theorem sum_map_eq_zero_iff (f : ChangeSummary → Nat) :
    ∀ l : List ChangeSummary, (l.map f).sum = 0 ↔ ∀ s ∈ l, f s = 0
  | [] => by simp
  | s :: l => by simp [sum_map_eq_zero_iff f l]

/-- A fieldwise sum is zero-sum exactly when each summand is. -/
theorem IsZeroSum_sum (l : List ChangeSummary) :
    (ChangeSummary.sum l).IsZeroSum = true ↔ ∀ s ∈ l, s.IsZeroSum = true := by
  simp only [ChangeSummary.IsZeroSum, ChangeSummary.sum, Bool.and_eq_true, beq_iff_eq,
    sum_map_eq_zero_iff]
  constructor
  · rintro ⟨⟨ha, hr⟩, hm⟩ s hs
    exact ⟨⟨ha s hs, hr s hs⟩, hm s hs⟩
  · intro h
    exact ⟨⟨fun s hs => (h s hs).1.1, fun s hs => (h s hs).1.2⟩, fun s hs => (h s hs).2⟩

theorem ExitCode_eq_zero_iff (p : PipelineDiff) : p.ExitCode = 0 ↔ p.IsZeroSum = true := by
  unfold PipelineDiff.ExitCode
  split <;> simp_all

/-- **Diff engine.** On secret maps with distinct paths, `DiffSecrets` emits one change per
path of either map, in strictly increasing path order, each of the kind `changeTypeOf` gives;
`ComputeSummary` of these changes counts every kind and all paths, and is zero-sum exactly when
current and desired agree. Folding the targets' diffs into an empty pipeline diff sums the
summaries field by field, and the exit code is `0` exactly when every target agrees. -/
theorem DiffSecrets_summary :
    (∀ current desired : List (String × Json),
      (current.map Prod.fst).Nodup → (desired.map Prod.fst).Nodup →
        ((DiffSecrets current desired).map SecretChange.path).Sorted (· < ·) ∧
        (∀ p, p ∈ (DiffSecrets current desired).map SecretChange.path ↔
          p ∈ diffPaths current desired) ∧
        (∀ x ∈ DiffSecrets current desired, x.changeType = changeTypeOf current desired x.path) ∧
        ComputeSummary (DiffSecrets current desired) = diffCounts current desired ∧
        ((ComputeSummary (DiffSecrets current desired)).IsZeroSum = true ↔
          Agree current desired)) ∧
    ∀ (ts : List (String × List (String × Json) × List (String × Json))) (dryRun : Bool)
      (configPath : String),
      (∀ t ∈ ts, (t.2.1.map Prod.fst).Nodup ∧ (t.2.2.map Prod.fst).Nodup) →
        (pipelineDiffOf ts dryRun configPath).summary =
          ChangeSummary.sum (ts.map fun t => ComputeSummary (DiffSecrets t.2.1 t.2.2)) ∧
        ((pipelineDiffOf ts dryRun configPath).ExitCode = 0 ↔ ∀ t ∈ ts, Agree t.2.1 t.2.2) := by
  refine ⟨fun current desired hc hd => ⟨?_, ?_, ?_, ComputeSummary_DiffSecrets hc hd,
    IsZeroSum_iff_agree hc hd⟩, fun ts dryRun configPath hts => ⟨summary_pipelineDiffOf .., ?_⟩⟩
  · have hperm := List.perm_insertionSort pathLE (unsortedChanges current desired)
    have hnd := (hperm.map SecretChange.path).nodup_iff.2 (nodup_paths_unsortedChanges hc hd)
    rw [DiffSecrets_eq]
    exact (((List.pairwise_map (R := (· ≤ ·)) (f := SecretChange.path)).2
      (List.sorted_insertionSort pathLE _)).and hnd).imp
      fun ⟨hle, hne⟩ => lt_of_le_of_ne hle hne
  · intro p
    rw [DiffSecrets_eq, ((List.perm_insertionSort _ _).map _).mem_iff, mem_paths_unsortedChanges]
  · intro x hx
    rw [DiffSecrets_eq, (List.perm_insertionSort _ _).mem_iff] at hx
    exact changeType_unsortedChanges hc hd x hx
  · rw [ExitCode_eq_zero_iff, PipelineDiff.IsZeroSum, summary_pipelineDiffOf, IsZeroSum_sum]
    simp only [List.mem_map, forall_exists_index, and_imp, forall_apply_eq_imp_iff₂]
    exact forall₂_congr fun t ht => IsZeroSum_iff_agree (hts t ht).1 (hts t ht).2

/-- Current secrets of a target: a database password and an API key. -/
def currentSecrets : List (String × Json) :=
  [("prod/db", .obj [("password", .str "old")]), ("prod/api", .obj [("key", .str "k1")])]

/-- Desired secrets of the same target: a new password, the same API key, a new cache secret. -/
def desiredSecrets : List (String × Json) :=
  [("prod/db", .obj [("password", .str "new")]), ("prod/api", .obj [("key", .str "k1")]),
    ("prod/cache", .str "c1")]

theorem DiffSecrets_summary_example :
    (((currentSecrets.map Prod.fst).Nodup ∧ (desiredSecrets.map Prod.fst).Nodup) ∧
      ((DiffSecrets currentSecrets desiredSecrets).map SecretChange.path).Sorted (· < ·) ∧
      (∀ p, p ∈ (DiffSecrets currentSecrets desiredSecrets).map SecretChange.path ↔
        p ∈ diffPaths currentSecrets desiredSecrets) ∧
      (∀ x ∈ DiffSecrets currentSecrets desiredSecrets,
        x.changeType = changeTypeOf currentSecrets desiredSecrets x.path) ∧
      ComputeSummary (DiffSecrets currentSecrets desiredSecrets) =
        diffCounts currentSecrets desiredSecrets ∧
      ((ComputeSummary (DiffSecrets currentSecrets desiredSecrets)).IsZeroSum = true ↔
        Agree currentSecrets desiredSecrets)) ∧
    ((∀ t ∈ [("Stg", currentSecrets, desiredSecrets)],
        (t.2.1.map Prod.fst).Nodup ∧ (t.2.2.map Prod.fst).Nodup) ∧
      (pipelineDiffOf [("Stg", currentSecrets, desiredSecrets)] true "").summary =
        ChangeSummary.sum ([("Stg", currentSecrets, desiredSecrets)].map
          fun t => ComputeSummary (DiffSecrets t.2.1 t.2.2)) ∧
      ((pipelineDiffOf [("Stg", currentSecrets, desiredSecrets)] true "").ExitCode = 0 ↔
        ∀ t ∈ [("Stg", currentSecrets, desiredSecrets)], Agree t.2.1 t.2.2)) :=
  have hc : (currentSecrets.map Prod.fst).Nodup := by decide
  have hd : (desiredSecrets.map Prod.fst).Nodup := by decide
  have hts : ∀ t ∈ [("Stg", currentSecrets, desiredSecrets)],
      (t.2.1.map Prod.fst).Nodup ∧ (t.2.2.map Prod.fst).Nodup := by simp [hc, hd]
  ⟨⟨⟨hc, hd⟩, DiffSecrets_summary.1 _ _ hc hd⟩,
    ⟨hts, DiffSecrets_summary.2 _ true "" hts⟩⟩

/-! ### Key-level detail of a modification -/

/-- What the key-level detail of a modified map secret says: the keys only desired, the keys
only current, and the keys of both whose values `DeepEqual` tells apart, each strictly
sorted. -/
def KeyDiff (current desired : List (String × Json)) (added removed modified : List String) :
    Prop :=
  (added.Sorted (· < ·) ∧
    ∀ k, k ∈ added ↔ k ∈ desired.map Prod.fst ∧ k ∉ current.map Prod.fst) ∧
  (removed.Sorted (· < ·) ∧
    ∀ k, k ∈ removed ↔ k ∈ current.map Prod.fst ∧ k ∉ desired.map Prod.fst) ∧
  (modified.Sorted (· < ·) ∧
    ∀ k, k ∈ modified ↔ ∃ u w, current.lookup k = some u ∧ desired.lookup k = some w ∧
      DeepEqual u w = false)

theorem sorted_insertionSort_of_nodup {l : List String} (h : l.Nodup) :
    (l.insertionSort (· ≤ ·)).Sorted (· < ·) :=
  (List.sorted_insertionSort _ l).lt_of_le ((List.perm_insertionSort _ l).nodup_iff.2 h)

theorem nodup_keys_filter {m : List (String × Json)} (h : (m.map Prod.fst).Nodup)
    (p : String × Json → Bool) : ((m.filter p).map Prod.fst).Nodup :=
  ((List.filter_sublist _).map _).nodup h

/-- Two maps with the same keys and pointwise `DeepEqual` values are `DeepEqual`. -/
theorem DeepEqual_obj_of_keys {c d : List (String × Json)} (hc : (c.map Prod.fst).Nodup)
    (hd : (d.map Prod.fst).Nodup) (hkeys : ∀ k, k ∈ c.map Prod.fst ↔ k ∈ d.map Prod.fst)
    (hvals : ∀ k u w, c.lookup k = some u → d.lookup k = some w → DeepEqual u w = true) :
    DeepEqual (.obj c) (.obj d) = true := by
  rw [DeepEqual_obj, Bool.and_eq_true, beq_iff_eq, deepEqualFields_iff]
  refine ⟨?_, fun e he => ?_⟩
  · rw [← List.length_map c Prod.fst, ← List.length_map d Prod.fst]
    exact ((List.perm_ext_iff_of_nodup hc hd).2 hkeys).length_eq
  · obtain ⟨w, hw⟩ := Option.ne_none_iff_exists'.1
      (mem_keys_iff_lookup.1 ((hkeys e.1).1 (List.mem_map_of_mem _ he)))
    exact ⟨w, hw, hvals _ _ _ (lookup_of_mem hc he) hw⟩

/-- **Key-level diff of two maps.** On maps with distinct keys, `diffMapKeys` returns the sorted
keys added, removed and modified; the three lists are disjoint, and when the maps are not
`DeepEqual` one of them is non-empty. -/
theorem diffMapKeys_obj {c d : List (String × Json)} (hc : (c.map Prod.fst).Nodup)
    (hd : (d.map Prod.fst).Nodup) :
    KeyDiff c d (diffMapKeys (.obj c) (.obj d)).1 (diffMapKeys (.obj c) (.obj d)).2.1
      (diffMapKeys (.obj c) (.obj d)).2.2 := by
  refine ⟨⟨sorted_insertionSort_of_nodup (nodup_keys_filter hd _), fun k => ?_⟩,
    ⟨sorted_insertionSort_of_nodup (nodup_keys_filter hc _), fun k => ?_⟩,
    ⟨sorted_insertionSort_of_nodup (nodup_keys_filter hd _), fun k => ?_⟩⟩
  · have hadded : (d.filter fun e => (c.lookup e.1).isNone) =
        d.filter fun e => e.1 ∉ c.map Prod.fst :=
      List.filter_congr fun e _ => by
        by_cases hk : e.1 ∈ c.map Prod.fst
        · obtain ⟨u, hu⟩ := Option.ne_none_iff_exists'.1 (mem_keys_iff_lookup.1 hk)
          simp only [hu, hk, Option.isNone_some, not_true_eq_false, decide_False]
        · simp only [lookup_eq_none_of_not_mem hk, hk, Option.isNone_none, not_false_eq_true,
            decide_True]
    simp only [diffMapKeys, List.mem_insertionSort, hadded, mem_keys_filter]
  · simp only [diffMapKeys, List.mem_insertionSort, mem_keys_filter]
  · simp only [diffMapKeys, List.mem_insertionSort, List.mem_map, List.mem_filter]
    constructor
    · rintro ⟨e, ⟨he, hm⟩, rfl⟩
      split at hm
      · next u hu => exact ⟨u, e.2, hu, lookup_of_mem hd he, by simpa using hm⟩
      · cases hm
    · rintro ⟨u, w, hu, hw, huw⟩
      exact ⟨(k, w), ⟨mem_of_lookup_eq_some hw, by simp [hu, huw]⟩, rfl⟩

namespace KeyDiff

variable {current desired : List (String × Json)} {added removed modified : List String}

/-- The three lists of a key-level diff share no key. -/
theorem disjoint (h : KeyDiff current desired added removed modified) :
    added.Disjoint removed ∧ added.Disjoint modified ∧ removed.Disjoint modified := by
  obtain ⟨⟨-, ha⟩, ⟨-, hr⟩, ⟨-, hm⟩⟩ := h
  refine ⟨fun k hka hkr => ((ha k).1 hka).2 ((hr k).1 hkr).1, fun k hka hkm => ?_,
    fun k hkr hkm => ?_⟩
  · obtain ⟨u, -, hu, -, -⟩ := (hm k).1 hkm
    exact ((ha k).1 hka).2 (mem_keys_iff_lookup.2 (by simp [hu]))
  · obtain ⟨-, w, -, hw, -⟩ := (hm k).1 hkm
    exact ((hr k).1 hkr).2 (mem_keys_iff_lookup.2 (by simp [hw]))

/-- A key-level diff of two maps that are not `DeepEqual` names some key. -/
theorem ne_nil (hc : (current.map Prod.fst).Nodup) (hd : (desired.map Prod.fst).Nodup)
    (h : KeyDiff current desired added removed modified)
    (hne : DeepEqual (.obj current) (.obj desired) = false) :
    added ≠ [] ∨ removed ≠ [] ∨ modified ≠ [] := by
  obtain ⟨⟨-, ha⟩, ⟨-, hr⟩, ⟨-, hm⟩⟩ := h
  by_contra hall
  push_neg at hall
  obtain ⟨rfl, rfl, rfl⟩ := hall
  have hkeys : ∀ k, k ∈ current.map Prod.fst ↔ k ∈ desired.map Prod.fst := fun k =>
    ⟨fun hk => by_contra fun hk' => List.not_mem_nil k ((hr k).2 ⟨hk, hk'⟩),
      fun hk => by_contra fun hk' => List.not_mem_nil k ((ha k).2 ⟨hk, hk'⟩)⟩
  have hvals : ∀ k u w, current.lookup k = some u → desired.lookup k = some w →
      DeepEqual u w = true := fun k u w hu hw => by
    cases huw : DeepEqual u w
    · exact absurd ((hm k).2 ⟨u, w, hu, hw, huw⟩) (List.not_mem_nil k)
    · rfl
  rw [DeepEqual_obj_of_keys hc hd hkeys hvals] at hne
  cases hne

end KeyDiff

theorem diffMapKeys_of_not_obj {cv dv : Json}
    (h : (∀ c, cv ≠ .obj c) ∨ ∀ d, dv ≠ .obj d) :
    diffMapKeys cv dv = ([], [], ["<value>"]) := by
  unfold diffMapKeys
  split
  · next c d => rcases h with h | h; exacts [absurd rfl (h c), absurd rfl (h d)]
  · rfl

/-- A change the first loop of `DiffSecrets` marks modified carries `diffMapKeys` of the two
values, which `DeepEqual` tells apart. -/
theorem desiredChange_modified {current : List (String × Json)} {p : String} {v : Json}
    (h : (desiredChange current p v).changeType = .modified) :
    ∃ cv, current.lookup p = some cv ∧ DeepEqual cv v = false ∧
      ((desiredChange current p v).keysAdded, (desiredChange current p v).keysRemoved,
        (desiredChange current p v).keysModified) = diffMapKeys cv v := by
  unfold desiredChange at h ⊢
  cases hc : current.lookup p with
  | none => simp [hc] at h
  | some cv =>
    cases hde : DeepEqual cv v
    · simp [hc, hde]
    · simp [hc, hde] at h

/-- **Modified secrets.** Every change `DiffSecrets` marks modified, between maps of
well-formed secrets with distinct paths, holds two values at its path that `DeepEqual` tells
apart, and carries their `diffMapKeys`. When both are maps, the detail is the sorted keys added,
removed and modified (`KeyDiff`), the three lists are disjoint and one is non-empty; otherwise it
is the single modification `<value>`. -/
theorem DiffSecrets_keyChanges (current desired : List (String × Json))
    (hd : (desired.map Prod.fst).Nodup)
    (hcw : ∀ e ∈ current, e.2.wellFormed = true) (hdw : ∀ e ∈ desired, e.2.wellFormed = true) :
    ∀ x ∈ DiffSecrets current desired, x.changeType = .modified →
      ∃ cv dv, current.lookup x.path = some cv ∧ desired.lookup x.path = some dv ∧
        DeepEqual cv dv = false ∧
        (x.keysAdded, x.keysRemoved, x.keysModified) = diffMapKeys cv dv ∧
        (∀ c d, cv = .obj c → dv = .obj d →
          KeyDiff c d x.keysAdded x.keysRemoved x.keysModified ∧
          x.keysAdded.Disjoint x.keysRemoved ∧ x.keysAdded.Disjoint x.keysModified ∧
          x.keysRemoved.Disjoint x.keysModified ∧
          (x.keysAdded ≠ [] ∨ x.keysRemoved ≠ [] ∨ x.keysModified ≠ [])) ∧
        ((∀ c, cv ≠ .obj c) ∨ (∀ d, dv ≠ .obj d) →
          (x.keysAdded, x.keysRemoved, x.keysModified) = ([], [], ["<value>"])) := by
  intro x hx hmod
  rw [DiffSecrets_eq, (List.perm_insertionSort _ _).mem_iff] at hx
  rcases List.mem_append.1 hx with hx | hx
  · obtain ⟨⟨p, v⟩, he, rfl⟩ := List.mem_map.1 hx
    obtain ⟨cv, hcv, hne, hkeys⟩ := desiredChange_modified hmod
    rw [desiredChange_path]
    refine ⟨cv, v, hcv, lookup_of_mem hd he, hne, hkeys, fun c d hcv' hv => ?_,
      fun h => hkeys.trans (diffMapKeys_of_not_obj h)⟩
    subst hcv' hv
    have hcn := (wellFormed_obj.1 (hcw _ (mem_of_lookup_eq_some hcv))).1
    have hK := diffMapKeys_obj hcn (wellFormed_obj.1 (hdw _ he)).1
    rw [← hkeys] at hK
    obtain ⟨had, ham, hrm⟩ := hK.disjoint
    exact ⟨hK, had, ham, hrm, hK.ne_nil hcn (wellFormed_obj.1 (hdw _ he)).1 hne⟩
  · obtain ⟨⟨p, v⟩, -, rfl⟩ := List.mem_map.1 hx
    cases hmod

theorem DiffSecrets_keyChanges_example :
    ((desiredSecrets.map Prod.fst).Nodup ∧ (∀ e ∈ currentSecrets, e.2.wellFormed = true) ∧
      ∀ e ∈ desiredSecrets, e.2.wellFormed = true) ∧
    ∀ x ∈ DiffSecrets currentSecrets desiredSecrets, x.changeType = .modified →
      ∃ cv dv, currentSecrets.lookup x.path = some cv ∧ desiredSecrets.lookup x.path = some dv ∧
        DeepEqual cv dv = false ∧
        (x.keysAdded, x.keysRemoved, x.keysModified) = diffMapKeys cv dv ∧
        (∀ c d, cv = .obj c → dv = .obj d →
          KeyDiff c d x.keysAdded x.keysRemoved x.keysModified ∧
          x.keysAdded.Disjoint x.keysRemoved ∧ x.keysAdded.Disjoint x.keysModified ∧
          x.keysRemoved.Disjoint x.keysModified ∧
          (x.keysAdded ≠ [] ∨ x.keysRemoved ≠ [] ∨ x.keysModified ≠ [])) ∧
        ((∀ c, cv ≠ .obj c) ∨ (∀ d, dv ≠ .obj d) →
          (x.keysAdded, x.keysRemoved, x.keysModified) = ([], [], ["<value>"])) :=
  have hd : (desiredSecrets.map Prod.fst).Nodup := by decide
  have hcw : ∀ e ∈ currentSecrets, e.2.wellFormed = true := by decide
  have hdw : ∀ e ∈ desiredSecrets, e.2.wellFormed = true := by decide
  ⟨⟨hd, hcw, hdw⟩, DiffSecrets_keyChanges _ _ hd hcw hdw⟩

end VaultSecretSync
