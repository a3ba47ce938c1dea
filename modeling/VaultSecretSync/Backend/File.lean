import VaultSecretSync.Pipeline.Steps
import VaultSecretSync.Utils.Strings
import Mathlib.Data.String.Basic

/-!
# Loading sync configurations from a file

The file backend reads a configuration file, splits its text at every `---`, trims each piece
and decodes the non-empty ones as YAML: as a `VaultSecretSync`, or else as a raw map whose
`kind` is `VaultSecretSync`; other documents are skipped. A decoded sync is given the file's
name when it has none and the namespace `default` when it has none, and is handed to
`AddSyncConfig`, whose errors are logged and skipped, so the result is the list of syncs handed
over.

The YAML decoder is an oracle (`YamlDecoder`), so a statement over every decoder holds whatever
the documents hold. `loadConfigFile_eq` says the decoder sees exactly `configDocuments` of the
text, in order. The split is at the three characters `---` anywhere in the text, not at
separator lines: `loadConfigFile_splits_inside_document` shows a single document with no `---`
line that reaches the decoder as two documents. Documents free of `---` do load as written:
`loadConfigFile_join` joins non-empty trimmed documents with `---` lines and gets them back.
-/

namespace VaultSecretSync

/-- Go's `filepath.Base`: the last element of a path, trailing slashes removed. -/
def Filepath.Base (path : String) : String :=
  if path = "" then "."
  else
    let rev := path.data.reverse.dropWhile (· = '/')
    if rev = [] then "/" else ⟨(rev.takeWhile (· ≠ '/')).reverse⟩

/-- Go's `filepath.Ext`: the suffix of the last element from its last dot, or `""`. -/
def Filepath.Ext (path : String) : String :=
  let rev := path.data.reverse.takeWhile (· ≠ '/')
  if '.' ∈ rev then ⟨(rev.take (rev.indexOf '.' + 1)).reverse⟩ else ""

/-- The YAML decoder on one document: as a `VaultSecretSync` (`decodeSync`), and as a raw map
of which only the string field `kind` is read (`decodeKind`, `none` when the field is absent or
no string); an error carries the decoder's message. -/
structure YamlDecoder where
  decodeSync : String → Except String SyncSpec
  decodeKind : String → Except String (Option String)

namespace FileBackend

/-- The body of `loadConfigFile`'s loop on a non-empty trimmed document: the sync it hands to
`AddSyncConfig`, `none` for a skipped document, or the error that ends the load. -/
def loadDocument (dec : YamlDecoder) (path doc : String) : Except String (Option SyncSpec) :=
  let decoded : Except String (Option SyncSpec) :=
    match dec.decodeSync doc with
    | .ok sync => .ok (some sync)
    | .error _ =>
      match dec.decodeKind doc with
      | .error err => .error ("failed to unmarshal config: " ++ err)
      | .ok kind =>
        if kind = some "VaultSecretSync" then
          match dec.decodeSync doc with
          | .ok sync => .ok (some sync)
          | .error err => .error ("failed to unmarshal VaultSecretSync: " ++ err)
        else .ok none
  decoded.map <| Option.map fun sync =>
    let sync := if sync.name = "" then
      { sync with name := Strings.TrimSuffix (Filepath.Base path) (Filepath.Ext path) }
      else sync
    if sync.syncNamespace = "" then { sync with syncNamespace := "default" } else sync

/-- `loadConfigFile`: the syncs the file's documents hand to `AddSyncConfig`, in order, or the
first error. -/
def loadConfigFile (dec : YamlDecoder) (path : String) (file : Except String String) :
    Except String (List SyncSpec) :=
  match file with
  | .error err => .error ("failed to read file: " ++ err)
  | .ok data =>
    (Strings.Split data "---").foldlM (fun acc doc =>
      let doc := Strings.TrimSpace doc
      if doc = "" then .ok acc else (loadDocument dec path doc).map fun s => acc ++ s.toList) []

/-- The documents `loadConfigFile` hands to the decoder: the pieces of the text between the
`---` separators, trimmed, the empty ones skipped. -/
def configDocuments (data : String) : List String :=
  ((Strings.Split data "---").map Strings.TrimSpace).filter (· ≠ "")

/-- One step of the load on a document the decoder sees. -/
def loadStep (dec : YamlDecoder) (path : String) (acc : List SyncSpec) (doc : String) :
    Except String (List SyncSpec) :=
  (loadDocument dec path doc).map fun s => acc ++ s.toList

theorem foldlM_trimmed (dec : YamlDecoder) (path : String) :
    ∀ (pieces : List String) (acc : List SyncSpec),
      pieces.foldlM (fun acc doc =>
        let doc := Strings.TrimSpace doc
        if doc = "" then .ok acc else (loadDocument dec path doc).map fun s => acc ++ s.toList)
          acc =
        ((pieces.map Strings.TrimSpace).filter (· ≠ "")).foldlM (loadStep dec path) acc
  | [], _ => rfl
  | piece :: pieces, acc => by
    have ih := foldlM_trimmed dec path pieces
    rw [List.foldlM_cons, List.map_cons, List.filter_cons]
    by_cases h : Strings.TrimSpace piece = ""
    · simp only [h, if_pos, ne_eq, not_true_eq_false, decide_False, Bool.false_eq_true, if_false]
      exact ih acc
    · simp only [h, if_false, ne_eq, not_false_eq_true, decide_True, if_true, List.foldlM_cons]
      exact congrArg _ (funext fun acc' => ih acc')

/-- The decoder sees exactly the documents of `configDocuments`, in order. -/
theorem loadConfigFile_eq (dec : YamlDecoder) (path data : String) :
    loadConfigFile dec path (.ok data) = (configDocuments data).foldlM (loadStep dec path) [] :=
  foldlM_trimmed dec path _ []

/-- The document `note: a---b`, with no `---` line, reaches the decoder as the two documents
`note: a` and `b`, whatever the decoder. -/
theorem loadConfigFile_splits_inside_document :
    (Strings.TrimSpace "note: a---b" ≠ "" ∧ "---" ∉ Strings.Split "note: a---b" "\n") ∧
      configDocuments "note: a---b" = ["note: a", "b"] ∧
      ∀ dec path, loadConfigFile dec path (.ok "note: a---b") =
        ["note: a", "b"].foldlM (loadStep dec path) [] := by
  have hdocs : configDocuments "note: a---b" = ["note: a", "b"] := by decide
  exact ⟨⟨by decide, by decide⟩, hdocs, fun dec path => by rw [loadConfigFile_eq, hdocs]⟩

/-! ### Documents that load as written -/

/-- A line break never starts the separator `---`. -/
theorem splitAux_newline (s cur : List Char) :
    Strings.splitAux "---".data ('\n' :: s) cur 0 =
      Strings.splitAux "---".data s (cur ++ ['\n']) 0 :=
  Strings.splitAux_cons_of_not_isPrefixOf rfl

/-- The pieces the split gives of documents joined by `---` lines, trimmed. -/
theorem splitAux_documents : ∀ (ds : List String) (d : String) (cur : List Char),
    (∀ c ∈ cur, Strings.IsSpace c) →
    (∀ e ∈ d :: ds,
      e ≠ "" ∧ Strings.TrimSpace e = e ∧ Strings.Contains e "---" = false) →
      (Strings.splitAux "---".data (d.data ++ ds.flatMap fun e => ("\n---\n" ++ e).data) cur 0).map
        (fun piece => Strings.TrimSpace ⟨piece⟩) = d :: ds
  | [], d, cur, hcur, h => by
    obtain ⟨hne, htrim, hsep⟩ := h d (List.mem_cons_self _ _)
    rw [List.flatMap_nil, List.append_nil, Strings.splitAux_of_not_contains _ _ hsep,
      List.map_singleton, ← List.append_nil (cur ++ d.data),
      Strings.TrimSpace_around hcur (by simp) hne htrim]
  | e :: ds, d, cur, hcur, h => by
    obtain ⟨hne, htrim, hsep⟩ := h d (List.mem_cons_self _ _)
    have hrest := splitAux_documents ds e ['\n'] (by simp [Strings.IsSpace])
      fun e' he' => h e' (List.mem_cons_of_mem _ he')
    have hstep : (d.data ++ (e :: ds).flatMap fun e => ("\n---\n" ++ e).data) =
        d.data ++ '\n' :: ("---".data ++ '\n' :: (e.data ++
          ds.flatMap fun e => ("\n---\n" ++ e).data)) := by
      simp [String.data_append]
    rw [hstep, Strings.splitAux_scan (by decide) _ _ _ hsep, splitAux_newline,
      Strings.splitAux_sep (by decide), splitAux_newline, List.map_cons, List.nil_append, hrest,
      Strings.TrimSpace_around hcur (by simp [Strings.IsSpace]) hne htrim]

/-- **Round trip of the documents.** Documents that are non-empty, trimmed and free of `---`,
written one after the other with a `---` line between two of them, reach the decoder as
themselves, in order. -/
theorem loadConfigFile_join (d : String) (ds : List String)
    (h : ∀ e ∈ d :: ds,
      e ≠ "" ∧ Strings.TrimSpace e = e ∧ Strings.Contains e "---" = false) :
    configDocuments (d ++ String.join (ds.map ("\n---\n" ++ ·))) = d :: ds ∧
      ∀ dec path, loadConfigFile dec path (.ok (d ++ String.join (ds.map ("\n---\n" ++ ·)))) =
        (d :: ds).foldlM (loadStep dec path) [] := by
  have hdata : (d ++ String.join (ds.map ("\n---\n" ++ ·))).data =
      d.data ++ ds.flatMap fun e => ("\n---\n" ++ e).data := by
    simp [String.data_join, List.flatMap, Function.comp_def]
  have hdocs : configDocuments (d ++ String.join (ds.map ("\n---\n" ++ ·))) = d :: ds := by
    rw [configDocuments, Strings.Split, hdata, List.map_map, Function.comp_def,
      splitAux_documents ds d [] (by simp) h]
    exact List.filter_eq_self.2 fun e he => by simpa using (h e he).1
  exact ⟨hdocs, fun dec path => by rw [loadConfigFile_eq, hdocs]⟩

/-- Two trimmed documents joined by a `---` line come back as themselves. -/
theorem loadConfigFile_join_two :
    (∀ e ∈ ["kind: a", "kind: b"],
      e ≠ "" ∧ Strings.TrimSpace e = e ∧ Strings.Contains e "---" = false) ∧
      configDocuments ("kind: a" ++ String.join (["kind: b"].map ("\n---\n" ++ ·))) =
        ["kind: a", "kind: b"] :=
  ⟨by decide, (loadConfigFile_join "kind: a" ["kind: b"] (by decide)).1⟩

end FileBackend

end VaultSecretSync
