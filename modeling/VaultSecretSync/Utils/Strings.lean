import Mathlib.Data.List.Infix
import Mathlib.Data.List.DropRight
import VaultSecretSync.Utils.Unicode

/-!
# Go's `strings` functions

The functions of Go's `strings` package the modelled code calls, on the characters of a
string. They are structural, so a statement about a fixed text is settled by evaluation.

* `Split` is `strings.Split` for a non-empty separator, the only kind the source passes: the
  text between the leftmost non-overlapping occurrences of the separator.
* `TrimSpace` trims the characters of `IsSpace`, Go's `unicode.IsSpace` (the Unicode
  White_Space characters).
* `ReplaceAll` is `strings.ReplaceAll` for a non-empty old text: the pieces of `Split`, joined
  by the new text.
* `ToLower` and `ToUpper` map every rune by Unicode's simple case mappings, and `EqualFold`
  compares runes by simple case folding (`Unicode.ToLower`, `Unicode.ToUpper`,
  `Unicode.caseFold`).

The split loop is described a stretch at a time: `splitAux_scan` appends text in which the
separator does not start to the current piece, `splitAux_sep` cuts the piece at a separator,
and `splitAux_of_not_contains` ends the last piece. `TrimSpace_around` trims white space off a
trimmed text.
-/

namespace VaultSecretSync

namespace Strings

/-- `strings.HasPrefix`. -/
def HasPrefix (s pre : String) : Bool := pre.data.isPrefixOf s.data

/-- `strings.HasSuffix`. -/
def HasSuffix (s suf : String) : Bool := suf.data.isSuffixOf s.data

/-- `strings.TrimPrefix`: `s` without `pre` when it starts with it. -/
def TrimPrefix (s pre : String) : String :=
  if HasPrefix s pre then ⟨s.data.drop pre.data.length⟩ else s

/-- `strings.TrimSuffix`: `s` without `suf` when it ends with it. -/
def TrimSuffix (s suf : String) : String :=
  if HasSuffix s suf then ⟨s.data.take (s.data.length - suf.data.length)⟩ else s

/-- `strings.Contains`: `substr` occurs in `s`. -/
def Contains (s substr : String) : Bool := s.data.tails.any substr.data.isPrefixOf

/-- The loop of `strings.Split` on a character list: `cur` is the piece being read, `skip` the
characters of a separator still to pass over. -/
def splitAux (sep : List Char) : List Char → List Char → Nat → List (List Char)
  | [], cur, _ => [cur]
  | _ :: s, cur, skip + 1 => splitAux sep s cur skip
  | c :: s, cur, 0 =>
    if sep.isPrefixOf (c :: s) then cur :: splitAux sep s [] (sep.length - 1)
    else splitAux sep s (cur ++ [c]) 0

/-- `strings.Split(s, sep)` for a non-empty `sep`. -/
def Split (s sep : String) : List String :=
  (splitAux sep.data s.data [] 0).map String.mk

/-- Go's `unicode.IsSpace`. -/
def IsSpace (c : Char) : Bool :=
  c = '\t' || c = '\n' || c.val = 0x0B || c.val = 0x0C || c = '\r' || c = ' ' ||
    c.val = 0x85 || c.val = 0xA0 || c.val = 0x1680 || (0x2000 ≤ c.val && c.val ≤ 0x200A) ||
    c.val = 0x2028 || c.val = 0x2029 || c.val = 0x202F || c.val = 0x205F || c.val = 0x3000

/-- `strings.TrimSpace`: `s` without its leading and trailing white space. -/
def TrimSpace (s : String) : String :=
  ⟨(s.data.dropWhile IsSpace).rdropWhile IsSpace⟩

/-- `strings.ToLower`: `unicode.ToLower` on every rune. -/
def ToLower (s : String) : String := ⟨s.data.map Unicode.ToLower⟩

/-- `strings.ToUpper`: `unicode.ToUpper` on every rune. -/
def ToUpper (s : String) : String := ⟨s.data.map Unicode.ToUpper⟩

/-- `strings.ReplaceAll` for a non-empty `old`: the pieces `Split` cuts at `old`, joined by
`new`. -/
def ReplaceAll (s old new : String) : String := String.intercalate new (Split s old)

/-- `strings.EqualFold`: as many runes, each equal to the other's under simple case
folding. -/
def EqualFold (s t : String) : Bool := s.data.map Unicode.caseFold == t.data.map Unicode.caseFold

/-- Case folds every letter but does not expand `ß`. -/
example : ToUpper "één" = "ÉÉN" ∧ EqualFold "Ǆemal" "ǆEMAL" = true ∧
    EqualFold "straße" "STRASSE" = false := by
  decide

/-! ### Prefixes, suffixes and occurrences -/

theorem HasPrefix_iff {s pre : String} : HasPrefix s pre = true ↔ pre.data <+: s.data := by
  simp [HasPrefix]

theorem HasSuffix_iff {s suf : String} : HasSuffix s suf = true ↔ suf.data <:+ s.data := by
  simp [HasSuffix]

@[simp] theorem TrimPrefix_append (pre s : String) : TrimPrefix (pre ++ s) pre = s := by
  simp [TrimPrefix, HasPrefix]

@[simp] theorem TrimSuffix_append (s suf : String) : TrimSuffix (s ++ suf) suf = s := by
  simp [TrimSuffix, HasSuffix]

theorem Contains_singleton_iff {s : String} {c : Char} :
    Contains s ⟨[c]⟩ = true ↔ c ∈ s.data := by
  simp only [Contains, List.any_eq_true, List.mem_tails, List.isPrefixOf_iff_prefix]
  constructor
  · rintro ⟨t, ⟨u, hu⟩, ⟨v, rfl⟩⟩
    simp [← hu]
  · intro h
    obtain ⟨u, v, huv⟩ := List.append_of_mem h
    exact ⟨c :: v, ⟨u, huv.symm⟩, ⟨v, rfl⟩⟩

/-! ### Splitting -/

/-- A prefix of `l₂ ++ c :: r` that does not contain `c` is a prefix of `l₂`. -/
theorem prefix_of_prefix_append_cons {α : Type} {c : α} {r : List α} :
    ∀ {l₁ l₂ : List α}, l₁ <+: l₂ ++ c :: r → c ∉ l₁ → l₁ <+: l₂
  | [], _, _, _ => List.nil_prefix
  | a :: l₁, [], h, hc => by
    obtain ⟨rfl, -⟩ := List.cons_prefix_cons.1 h
    exact absurd (List.mem_cons_self a l₁) hc
  | a :: l₁, b :: l₂, h, hc => by
    obtain ⟨rfl, htl⟩ := List.cons_prefix_cons.1 h
    exact List.cons_prefix_cons.2
      ⟨rfl, prefix_of_prefix_append_cons htl fun h' => hc (List.mem_cons_of_mem a h')⟩

/-- The loop passes over the rest of a separator it has just found. -/
theorem splitAux_skip (sep : List Char) :
    ∀ (l r cur : List Char), splitAux sep (l ++ r) cur l.length = splitAux sep r cur 0
  | [], _, _ => rfl
  | _ :: l, r, cur => splitAux_skip sep l r cur

/-- The loop cuts the piece at a separator. -/
theorem splitAux_sep {sep : List Char} (hsep : sep ≠ []) (r cur : List Char) :
    splitAux sep (sep ++ r) cur 0 = cur :: splitAux sep r [] 0 := by
  obtain ⟨a, s, rfl⟩ := List.exists_cons_of_ne_nil hsep
  have hpre : (a :: s).isPrefixOf (a :: (s ++ r)) = true :=
    List.isPrefixOf_iff_prefix.2 (List.prefix_append (a :: s) r)
  rw [List.cons_append, splitAux, if_pos hpre, List.length_cons, Nat.add_sub_cancel,
    splitAux_skip]

theorem splitAux_cons_of_not_isPrefixOf {sep s cur : List Char} {c : Char}
    (h : sep.isPrefixOf (c :: s) = false) :
    splitAux sep (c :: s) cur 0 = splitAux sep s (cur ++ [c]) 0 := by
  rw [splitAux, if_neg (by simp [h])]

/-- Text in which the separator does not start is appended to the current piece, when the
character after it is not in the separator. -/
theorem splitAux_scan {sep : List Char} {c : Char} (hc : c ∉ sep) :
    ∀ (x r cur : List Char), x.tails.any sep.isPrefixOf = false →
      splitAux sep (x ++ c :: r) cur 0 = splitAux sep (c :: r) (cur ++ x) 0
  | [], _, cur, _ => by rw [List.append_nil, List.nil_append]
  | a :: x, r, cur, h => by
    rw [List.tails_cons, List.any_cons, Bool.or_eq_false_iff] at h
    have hpre : sep.isPrefixOf (a :: (x ++ c :: r)) = false := by
      rw [Bool.eq_false_iff]
      intro hp
      rw [List.isPrefixOf_iff_prefix, ← List.cons_append] at hp
      have := prefix_of_prefix_append_cons hp hc
      rw [← List.isPrefixOf_iff_prefix, h.1] at this
      cases this
    rw [List.cons_append, splitAux_cons_of_not_isPrefixOf hpre, splitAux_scan hc x r _ h.2,
      List.append_assoc, List.singleton_append]

/-- Text in which the separator does not occur is one piece. -/
theorem splitAux_of_not_contains {sep : List Char} :
    ∀ (x cur : List Char), x.tails.any sep.isPrefixOf = false →
      splitAux sep x cur 0 = [cur ++ x]
  | [], cur, _ => by rw [List.append_nil]; rfl
  | a :: x, cur, h => by
    rw [List.tails_cons, List.any_cons, Bool.or_eq_false_iff] at h
    rw [splitAux_cons_of_not_isPrefixOf h.1, splitAux_of_not_contains x _ h.2, List.append_assoc,
      List.singleton_append]

/-- Text without a one-character separator is appended to the current piece. -/
theorem splitAux_single_append {c : Char} :
    ∀ (x r cur : List Char), c ∉ x → splitAux [c] (x ++ r) cur 0 = splitAux [c] r (cur ++ x) 0
  | [], _, cur, _ => by rw [List.nil_append, List.append_nil]
  | a :: x, r, cur, h => by
    rw [List.mem_cons, not_or] at h
    rw [List.cons_append, splitAux_cons_of_not_isPrefixOf (by simp [List.isPrefixOf, h.1]),
      splitAux_single_append x r _ h.2, List.append_assoc, List.singleton_append]

/-- Pieces joined by a one-character separator they do not contain are split back into the
pieces. -/
theorem splitAux_join_single {c : Char} :
    ∀ (ps : List (List Char)) (x cur : List Char), c ∉ x → (∀ q ∈ ps, c ∉ q) →
      splitAux [c] (x ++ ps.flatMap (c :: ·)) cur 0 = (cur ++ x) :: ps
  | [], x, cur, hx, _ => splitAux_single_append x [] cur hx
  | q :: ps, x, cur, hx, hps =>
    calc splitAux [c] (x ++ (q :: ps).flatMap (c :: ·)) cur 0
        = splitAux [c] ([c] ++ (q ++ ps.flatMap (c :: ·))) (cur ++ x) 0 :=
          splitAux_single_append x _ cur hx
      _ = (cur ++ x) :: splitAux [c] (q ++ ps.flatMap (c :: ·)) [] 0 :=
          splitAux_sep (List.cons_ne_nil c []) _ _
      _ = (cur ++ x) :: q :: ps := by
          rw [splitAux_join_single ps q [] (hps q (List.mem_cons_self q ps))
            fun q' hq' => hps q' (List.mem_cons_of_mem q hq'), List.nil_append]

/-! ### Trimming -/

/-- What is left after dropping the leading and then the trailing characters of `p` starts with
no character of `p`. -/
theorem dropWhile_rdropWhile_dropWhile {α : Type} (p : α → Bool) (l : List α) :
    ((l.dropWhile p).rdropWhile p).dropWhile p = (l.dropWhile p).rdropWhile p := by
  rw [List.dropWhile_eq_self_iff]
  intro hl
  have hpre := List.rdropWhile_prefix (p := p) (l := l.dropWhile p)
  have hnot := List.dropWhile_get_zero_not p l (lt_of_lt_of_le hl hpre.length_le)
  simp only [List.get_eq_getElem] at hnot ⊢
  rwa [hpre.getElem hl]

/-- Trimming twice trims nothing more. -/
theorem TrimSpace_TrimSpace (s : String) : TrimSpace (TrimSpace s) = TrimSpace s :=
  congrArg String.mk <| (congrArg (List.rdropWhile IsSpace)
    (dropWhile_rdropWhile_dropWhile IsSpace s.data)).trans (List.rdropWhile_idempotent _ _)

theorem rdropWhile_append_of_pos {α : Type} {p : α → Bool} {l₁ l₂ : List α}
    (h : ∀ a ∈ l₂, p a) : (l₁ ++ l₂).rdropWhile p = l₁.rdropWhile p := by
  rw [List.rdropWhile, List.reverse_append,
    List.dropWhile_append_of_pos fun a ha => h a (List.mem_reverse.1 ha)]
  rfl

/-- White space around a trimmed non-empty text is trimmed away. -/
theorem TrimSpace_around {ws₁ ws₂ : List Char} {d : String} (h₁ : ∀ c ∈ ws₁, IsSpace c)
    (h₂ : ∀ c ∈ ws₂, IsSpace c) (hne : d ≠ "") (hd : TrimSpace d = d) :
    TrimSpace ⟨ws₁ ++ d.data ++ ws₂⟩ = d := by
  have hdata : (d.data.dropWhile IsSpace).rdropWhile IsSpace = d.data := congrArg String.data hd
  have hdrop : d.data.dropWhile IsSpace = d.data := by
    refine (List.dropWhile_suffix IsSpace).eq_of_length_le ?_
    have := (List.rdropWhile_prefix (p := IsSpace) (l := d.data.dropWhile IsSpace)).length_le
    rw [hdata] at this
    exact this
  have hnil : d.data ≠ [] := fun h => hne (String.ext h)
  refine String.ext ?_
  show ((ws₁ ++ d.data ++ ws₂).dropWhile IsSpace).rdropWhile IsSpace = d.data
  rw [List.append_assoc, List.dropWhile_append_of_pos h₁, List.dropWhile_append, hdrop,
    if_neg (by simpa using hnil), rdropWhile_append_of_pos h₂]
  exact (congrArg (List.rdropWhile IsSpace) hdrop).symm.trans hdata

end Strings

/-! ### Formatting -/

/-- Go's `%v` of a slice of strings: the items between brackets, separated by spaces. -/
def fmtList (l : List String) : String := "[" ++ " ".intercalate l ++ "]"

end VaultSecretSync
