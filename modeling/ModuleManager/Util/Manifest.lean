import ModuleManager.Declarative.Accessor

/-!
# Splitting a manifest into objects

`ParseManifestStringToObjects` (in `pkg/util`) reads a manifest with the YAML reader of
`apimachinery`, one document at a time, and decodes each document into an
`unstructured.Unstructured` with `sigs.k8s.io/yaml`. A document that fails to decode is kept
as a raw blob; a document that is not empty, not `null` and decodes to a non-empty map is kept
as an object. The two tests are independent: the loop has no `continue` after keeping a blob.

The reader is modelled on the characters of the manifest: `yaml.LineReader` gives the lines
(`readLines`) and `yaml.YAMLReader` gathers them into documents at separator lines
(`readDocuments`). The YAML to JSON conversion of `sigs.k8s.io/yaml` is a parameter,
`yamlToJSON`; what `yaml.Unmarshal` then leaves in the object is `yamlUnmarshal`.
`UnstructuredJSONScheme.Decode` stores a decoded map in the object before it checks the kind,
so a map without a kind is both stored and reported as an error.

So the objects and the blobs are the documents' own contributions, in order
(`parseManifestStringToObjects_eq`), and a map without a kind is kept twice
(`parseManifestStringToObjects_kindless`). A manifest written as documents that decode to maps
with a kind is read back as those maps (`parseManifestStringToObjects_intercalate`).

## Main definitions

* `readLines`, `readDocuments`, `yamlDocuments`: the documents of a manifest.
* `IsPlainLine`: a line ended by one newline.
* `yamlUnmarshal`, `ManifestResources`, `parseDocument`, `parseManifestStringToObjects`,
  `transform`.
* `documentItem`, `documentBlob`: what one document adds to the objects and to the blobs.

## Main results

* `yamlDocuments_intercalate`: documents joined by separator lines are read back.
* `parseManifestStringToObjects_eq`: the objects and the blobs, document by document.
* `documentItem_documentBlob`: where a document goes, by what its conversion gives.
* `parseManifestStringToObjects_kindless`: a map without a kind is both an object and a blob.
* `parseManifestStringToObjects_intercalate`: writing documents and parsing them back.
-/

namespace ModuleManager

/-! ### Reading documents -/

/-- `unicode.IsSpace`. -/
def Unicode.isSpace (c : Char) : Bool :=
  if c.toNat ≤ 0xFF then [0x09, 0x0A, 0x0B, 0x0C, 0x0D, 0x20, 0x85, 0xA0].contains c.toNat
  else [0x1680, 0x2028, 0x2029, 0x202F, 0x205F, 0x3000].contains c.toNat ||
    (0x2000 ≤ c.toNat && c.toNat ≤ 0x200A)

namespace Bytes

/-- `bytes.TrimSpace`: without the white space at both ends. -/
def trimSpace (s : List Char) : List Char :=
  ((s.dropWhile Unicode.isSpace).reverse.dropWhile Unicode.isSpace).reverse

/-- `bytes.TrimPrefix`. -/
def trimPrefix (s pre : List Char) : List Char :=
  if pre.isPrefixOf s then s.drop pre.length else s

end Bytes

/-- `yaml.LineReader.Read` until the end of the text: every line with a newline in place of its
end of line, which `bufio.Reader.ReadLine` drops together with a carriage return before it. The
text after the last newline is a line when it is not empty. `line` holds the current line,
last character first. -/
def readLines (line : List Char) : List Char → List (List Char)
  | [] => if line = [] then [] else [line.reverse ++ ['\n']]
  | '\n' :: s =>
    ((match line with
      | '\r' :: l => l
      | l => l).reverse ++ ['\n']) :: readLines [] s
  | c :: s => readLines (c :: line) s

/-- A document separator of `yaml.YAMLReader`: `---` followed by white space only. -/
def isSeparator (line : List Char) : Bool :=
  "---".data.isPrefixOf line && (line.drop 3).all Unicode.isSpace

/-- `yaml.YAMLReader.Read` until `io.EOF`: the documents of the lines, `buffer` holding the
current one. A separator ends a non-empty document; an empty one takes it as its first line. -/
def readDocuments (buffer : List Char) : List (List Char) → List (List Char)
  | [] => if buffer = [] then [] else [buffer]
  | line :: lines =>
    if isSeparator line ∧ buffer ≠ [] then buffer :: readDocuments [] lines
    else readDocuments (buffer ++ line) lines

/-- The documents the YAML reader returns for a manifest. -/
def yamlDocuments (manifest : String) : List (List Char) :=
  readDocuments [] (readLines [] manifest.data)

/-! ### The reader gives back what was written -/

/-- A line as `yaml.LineReader` returns it from a text without a carriage return before a
newline: its characters, none a newline, then one newline. -/
def IsPlainLine (l : List Char) : Prop :=
  ∃ body, l = body ++ ['\n'] ∧ '\n' ∉ body ∧ body.getLast? ≠ some '\r'

theorem readLines_cons {c : Char} (hc : c ≠ '\n') (acc s : List Char) :
    readLines acc (c :: s) = readLines (c :: acc) s := by
  simp [readLines, hc]

theorem readLines_append_newline (rest : List Char) :
    ∀ (body acc : List Char), '\n' ∉ body →
      readLines acc (body ++ '\n' :: rest) = readLines (body.reverse ++ acc) ('\n' :: rest)
  | [], _, _ => rfl
  | c :: body, acc, h => by
    rw [List.cons_append, readLines_cons (fun hc => h (hc ▸ List.mem_cons_self c body)),
      readLines_append_newline rest body (c :: acc) (fun h' => h (List.mem_cons_of_mem c h'))]
    simp

theorem readLines_plain {body : List Char} (hnl : '\n' ∉ body) (hcr : body.getLast? ≠ some '\r')
    (rest : List Char) :
    readLines [] (body ++ '\n' :: rest) = (body ++ ['\n']) :: readLines [] rest := by
  rw [readLines_append_newline _ _ _ hnl, List.append_nil]
  rcases hb : body.reverse with _ | ⟨c, l⟩
  · rw [List.reverse_eq_nil_iff.1 hb]
    rfl
  · have hc : c ≠ '\r' := fun hc => hcr (by rw [← List.head?_reverse, hb, hc]; rfl)
    rw [← List.reverse_reverse body, hb]
    simp [readLines, hc]

theorem readLines_flatten_append :
    ∀ (lines : List (List Char)), (∀ l ∈ lines, IsPlainLine l) → ∀ rest : List Char,
      readLines [] (lines.flatten ++ rest) = lines ++ readLines [] rest
  | [], _, _ => rfl
  | l :: lines, h, rest => by
    obtain ⟨body, rfl, hnl, hcr⟩ := h l (List.mem_cons_self l lines)
    rw [List.flatten_cons, List.append_assoc, List.append_assoc, List.singleton_append,
      readLines_plain hnl hcr, List.cons_append,
      readLines_flatten_append lines (fun l' hl' => h l' (List.mem_cons_of_mem _ hl'))]

theorem readDocuments_append {d : List (List Char)} (hd : ∀ l ∈ d, isSeparator l = false)
    (buffer : List Char) (rest : List (List Char)) :
    readDocuments buffer (d ++ rest) = readDocuments (buffer ++ d.flatten) rest := by
  induction d generalizing buffer with
  | nil => simp
  | cons l d ih =>
    rw [List.cons_append, readDocuments, if_neg (by simp [hd l (List.mem_cons_self l d)]),
      ih (fun l' hl' => hd l' (List.mem_cons_of_mem l hl')), List.flatten_cons, List.append_assoc]

theorem intercalate_cons_cons_singleton {α : Type} (s : α) (d d' : List α) (ds : List (List α)) :
    [s].intercalate (d :: d' :: ds) = d ++ s :: [s].intercalate (d' :: ds) := by
  simp [List.intercalate]

theorem mem_intercalate_singleton {α : Type} {s l : α} :
    ∀ {docs : List (List α)}, l ∈ [s].intercalate docs → l = s ∨ ∃ d ∈ docs, l ∈ d
  | [], h => by simp [List.intercalate] at h
  | [d], h => .inr ⟨d, List.mem_singleton_self d, by simpa [List.intercalate] using h⟩
  | d :: d' :: ds, h => by
    rw [intercalate_cons_cons_singleton] at h
    rcases List.mem_append.1 h with h | h
    · exact .inr ⟨d, List.mem_cons_self _ _, h⟩
    rcases List.mem_cons.1 h with h | h
    · exact .inl h
    rcases mem_intercalate_singleton h with h | ⟨x, hx, h⟩
    · exact .inl h
    · exact .inr ⟨x, List.mem_cons_of_mem d hx, h⟩

/-- Documents of lines that are not separators, joined by a separator line, are read back one
by one. -/
theorem readDocuments_intercalate {sep : List Char} (hsep : isSeparator sep = true) :
    ∀ docs : List (List (List Char)), (∀ d ∈ docs, ∀ l ∈ d, isSeparator l = false) →
      (∀ d ∈ docs, d.flatten ≠ []) →
      readDocuments [] ([sep].intercalate docs) = docs.map List.flatten
  | [], _, _ => rfl
  | [d], hl, hne => by
    rw [show [sep].intercalate [d] = d ++ [] by simp [List.intercalate],
      readDocuments_append (hl d (List.mem_singleton_self d)), List.nil_append, readDocuments,
      if_neg (hne d (List.mem_singleton_self d))]
    rfl
  | d :: d' :: ds, hl, hne => by
    have hrest := readDocuments_intercalate hsep (d' :: ds)
      (fun x hx => hl x (List.mem_cons_of_mem d hx)) (fun x hx => hne x (List.mem_cons_of_mem d hx))
    rw [intercalate_cons_cons_singleton, readDocuments_append (hl d (List.mem_cons_self _ _)),
      List.nil_append, readDocuments, if_pos ⟨hsep, hne d (List.mem_cons_self _ _)⟩, hrest]
    rfl

/-- A manifest written as documents of plain lines, separated by `---` lines, is read back as
those documents, when no line of a document is a separator. -/
theorem yamlDocuments_intercalate (docs : List (List (List Char)))
    (hlines : ∀ d ∈ docs, ∀ l ∈ d, IsPlainLine l ∧ isSeparator l = false)
    (hne : ∀ d ∈ docs, d ≠ []) :
    yamlDocuments ⟨(["---\n".data].intercalate docs).flatten⟩ = docs.map List.flatten := by
  have hplain : ∀ l ∈ ["---\n".data].intercalate docs, IsPlainLine l := fun l hl => by
    rcases mem_intercalate_singleton hl with rfl | ⟨d, hd, hl⟩
    · exact ⟨"---".data, rfl, by decide, by decide⟩
    · exact (hlines d hd l hl).1
  have hflat : ∀ d ∈ docs, d.flatten ≠ [] := fun d hd => by
    obtain ⟨l, ls, rfl⟩ := List.exists_cons_of_ne_nil (hne d hd)
    obtain ⟨body, rfl, -⟩ := (hlines _ hd l (List.mem_cons_self l ls)).1
    simp
  have hlines' := readLines_flatten_append _ hplain []
  rw [List.append_nil, show readLines [] [] = [] from rfl, List.append_nil] at hlines'
  rw [yamlDocuments, hlines']
  exact readDocuments_intercalate (by decide) docs (fun d hd l hl => (hlines d hd l hl).2) hflat

example : yamlDocuments "a: 1\n---\nb: 2\n" = ["a: 1\n".data, "b: 2\n".data] := by decide

/-! ### Decoding documents -/

/-- The `Kind` of `u.GroupVersionKind()`: `GetKind()`, or `""` when `schema.ParseGroupVersion`
refuses the API version, which it does for more than one slash. -/
def Unstructured.gvkKind (u : Unstructured) : String :=
  if (u.getNestedString ["apiVersion"]).data.count '/' ≤ 1 then u.getNestedString ["kind"] else ""

/-- What `yaml.Unmarshal(rawBytes, &unstructuredObj)` leaves in `unstructuredObj.Object`, and
whether it returns an error. A `null` document is decoded into nothing without an error. A map
is stored by `UnstructuredJSONScheme.Decode`, which then reports a missing kind. Any other value,
like a failed conversion, is an error and stores nothing. -/
def yamlUnmarshal (yamlToJSON : List Char → Except Error Value) (y : List Char) :
    JsonObject × Bool :=
  match yamlToJSON y with
  | .ok .null => ([], false)
  | .ok (.object m) => (m, Unstructured.gvkKind ⟨m⟩ = "")
  | _ => ([], true)

/-- `types.ManifestResources`, declared outside the sources, with the two fields that
`ParseManifestStringToObjects` fills: the objects to apply and the documents kept raw. -/
structure ManifestResources where
  items : List Unstructured := []
  blobs : List (List Char) := []

/-- One turn of the loop of `ParseManifestStringToObjects`, on a document the reader returned. -/
def parseDocument (yamlToJSON : List Char → Except Error Value) (objects : ManifestResources)
    (doc : List Char) : ManifestResources :=
  let rawBytes := Bytes.trimSpace doc
  let unstructuredObj := yamlUnmarshal yamlToJSON rawBytes
  let objects := if unstructuredObj.2 then
      { objects with blobs := objects.blobs ++ [Bytes.trimPrefix rawBytes "---\n".data ++ ['\n']] }
    else objects
  if rawBytes = [] ∨ rawBytes = "null".data ∨ unstructuredObj.1.isEmpty then objects
  else { objects with items := objects.items ++ [⟨unstructuredObj.1⟩] }

/-- `ParseManifestStringToObjects`. The reader cannot fail on a string, so the error it would
return, `invalid YAML doc`, does not arise. -/
def parseManifestStringToObjects (yamlToJSON : List Char → Except Error Value)
    (manifest : String) : Except Error ManifestResources :=
  .ok ((yamlDocuments manifest).foldl (parseDocument yamlToJSON) {})

/-- `types.ObjectTransform`, for the object being reconciled. -/
abbrev ObjectTransform := BaseCustomObject → ManifestResources → Except Error ManifestResources

/-- `Transform`: the resources of a manifest, rewritten by each transform in turn. -/
def transform (yamlToJSON : List Char → Except Error Value) (manifestStringified : String)
    (object : BaseCustomObject) (transforms : List ObjectTransform) :
    Except Error ManifestResources := do
  let objects ← parseManifestStringToObjects yamlToJSON manifestStringified
  transforms.foldlM (fun objects t => t object objects) objects

/-! ### Document by document -/

section Documents

variable (yamlToJSON : List Char → Except Error Value)

/-- The object a document adds to the items, if any. -/
def documentItem (doc : List Char) : Option Unstructured :=
  let rawBytes := Bytes.trimSpace doc
  let object := (yamlUnmarshal yamlToJSON rawBytes).1
  if rawBytes = [] ∨ rawBytes = "null".data ∨ object.isEmpty then none else some ⟨object⟩

/-- The raw document a document adds to the blobs, if any. -/
def documentBlob (doc : List Char) : Option (List Char) :=
  let rawBytes := Bytes.trimSpace doc
  if (yamlUnmarshal yamlToJSON rawBytes).2 then
    some (Bytes.trimPrefix rawBytes "---\n".data ++ ['\n'])
  else none

theorem parseDocument_eq (objects : ManifestResources) (doc : List Char) :
    parseDocument yamlToJSON objects doc =
      ⟨objects.items ++ (documentItem yamlToJSON doc).toList,
        objects.blobs ++ (documentBlob yamlToJSON doc).toList⟩ := by
  unfold parseDocument documentItem documentBlob
  dsimp only
  split_ifs <;> simp

theorem foldl_parseDocument (docs : List (List Char)) (objects : ManifestResources) :
    docs.foldl (parseDocument yamlToJSON) objects =
      ⟨objects.items ++ docs.filterMap (documentItem yamlToJSON),
        objects.blobs ++ docs.filterMap (documentBlob yamlToJSON)⟩ := by
  induction docs generalizing objects with
  | nil => simp
  | cons doc docs ih =>
    rw [List.foldl_cons, ih, parseDocument_eq, List.filterMap_cons, List.filterMap_cons]
    cases documentItem yamlToJSON doc <;> cases documentBlob yamlToJSON doc <;> simp

/-- The objects and the blobs of a manifest: each document adds at most one object and at most
one blob, in the order of the documents. -/
theorem parseManifestStringToObjects_eq (manifest : String) :
    parseManifestStringToObjects yamlToJSON manifest =
      .ok ⟨(yamlDocuments manifest).filterMap (documentItem yamlToJSON),
        (yamlDocuments manifest).filterMap (documentBlob yamlToJSON)⟩ := by
  rw [parseManifestStringToObjects, foldl_parseDocument]
  rfl

/-- Where a document goes, by what its conversion gives, for a conversion that reads the empty
document and `null` as `null`. A `null` document goes nowhere. A map is an object unless it is
empty, and a blob exactly when it has no kind. Anything else is a blob only. -/
theorem documentItem_documentBlob (hempty : yamlToJSON [] = .ok .null)
    (hnull : yamlToJSON "null".data = .ok .null) (doc : List Char) :
    match yamlToJSON (Bytes.trimSpace doc) with
    | .ok .null => documentItem yamlToJSON doc = none ∧ documentBlob yamlToJSON doc = none
    | .ok (.object m) =>
      documentItem yamlToJSON doc = (if m.isEmpty then none else some ⟨m⟩) ∧
        (documentBlob yamlToJSON doc).isSome = (Unstructured.gvkKind ⟨m⟩ = "")
    | _ => documentItem yamlToJSON doc = none ∧ (documentBlob yamlToJSON doc).isSome := by
  unfold documentItem documentBlob
  split <;> rename_i h <;> simp only [yamlUnmarshal, h]
  · simp
  · have hraw : ¬(Bytes.trimSpace doc = [] ∨ Bytes.trimSpace doc = "null".data) := by
      rintro (h' | h') <;> rw [h'] at h <;> simp_all
    exact ⟨if_congr (by rw [← or_assoc, or_iff_right hraw]) rfl rfl, by simp⟩
  · simp

end Documents

/-- A document that decodes to a non-empty map without a kind is kept both as an object and as
a blob, for a conversion that reads the empty document and `null` as `null`. -/
theorem parseManifestStringToObjects_kindless {yamlToJSON : List Char → Except Error Value}
    (hempty : yamlToJSON [] = .ok .null) (hnull : yamlToJSON "null".data = .ok .null)
    {manifest : String} {doc : List Char} (hdoc : doc ∈ yamlDocuments manifest)
    {m : JsonObject} (hm : yamlToJSON (Bytes.trimSpace doc) = .ok (.object m)) (hne : m ≠ [])
    (hkind : Unstructured.gvkKind ⟨m⟩ = "") :
    ∃ objects, parseManifestStringToObjects yamlToJSON manifest = .ok objects ∧
      (⟨m⟩ : Unstructured) ∈ objects.items ∧
      Bytes.trimPrefix (Bytes.trimSpace doc) "---\n".data ++ ['\n'] ∈ objects.blobs := by
  have hplace := documentItem_documentBlob yamlToJSON hempty hnull doc
  rw [hm] at hplace
  obtain ⟨hitem, hblob⟩ := hplace
  rw [if_neg (by simpa using hne)] at hitem
  have hblob' : documentBlob yamlToJSON doc =
      some (Bytes.trimPrefix (Bytes.trimSpace doc) "---\n".data ++ ['\n']) := by
    simpa [documentBlob, Option.isSome_iff_exists, hkind] using hblob
  exact ⟨_, parseManifestStringToObjects_eq yamlToJSON manifest,
    List.mem_filterMap.2 ⟨doc, hdoc, hitem⟩, List.mem_filterMap.2 ⟨doc, hdoc, hblob'⟩⟩

theorem parseManifestStringToObjects_kindless_foo :
    let yamlToJSON : List Char → Except Error Value := fun y =>
      if y = "foo: bar".data then .ok (.object [("foo", .string "bar")]) else .ok .null
    yamlToJSON [] = .ok .null ∧ yamlToJSON "null".data = .ok .null ∧
      "foo: bar\n".data ∈ yamlDocuments "foo: bar\n" ∧
      yamlToJSON (Bytes.trimSpace "foo: bar\n".data) = .ok (.object [("foo", .string "bar")]) ∧
      [("foo", Value.string "bar")] ≠ [] ∧ Unstructured.gvkKind ⟨[("foo", .string "bar")]⟩ = "" ∧
      ∃ objects, parseManifestStringToObjects yamlToJSON "foo: bar\n" = .ok objects ∧
        (⟨[("foo", .string "bar")]⟩ : Unstructured) ∈ objects.items ∧
        Bytes.trimPrefix (Bytes.trimSpace "foo: bar\n".data) "---\n".data ++ ['\n'] ∈
          objects.blobs :=
  ⟨rfl, rfl, by decide, rfl, List.cons_ne_nil _ _, rfl,
    parseManifestStringToObjects_kindless rfl rfl (by decide) rfl (List.cons_ne_nil _ _) rfl⟩

/-! ### Writing a manifest and reading it back -/

/-- A manifest written as documents separated by `---` lines is read back as the maps the
documents decode to, in order, with no blob, when every line of a document is a plain line and
not a separator and every document decodes to a non-empty map with a kind. -/
theorem parseManifestStringToObjects_intercalate {yamlToJSON : List Char → Except Error Value}
    (hempty : yamlToJSON [] = .ok .null) (hnull : yamlToJSON "null".data = .ok .null)
    (docs : List (List (List Char) × JsonObject))
    (hlines : ∀ d ∈ docs, ∀ l ∈ d.1, IsPlainLine l ∧ isSeparator l = false)
    (hne : ∀ d ∈ docs, d.1 ≠ [])
    (hobj : ∀ d ∈ docs, yamlToJSON (Bytes.trimSpace d.1.flatten) = .ok (.object d.2) ∧
      d.2 ≠ [] ∧ Unstructured.gvkKind ⟨d.2⟩ ≠ "") :
    parseManifestStringToObjects yamlToJSON
        ⟨(["---\n".data].intercalate (docs.map Prod.fst)).flatten⟩ =
      .ok ⟨docs.map fun d => ⟨d.2⟩, []⟩ := by
  have hplace : ∀ d ∈ docs, documentItem yamlToJSON d.1.flatten = some ⟨d.2⟩ ∧
      documentBlob yamlToJSON d.1.flatten = none := fun d hd => by
    obtain ⟨hm, hne', hkind⟩ := hobj d hd
    have h := documentItem_documentBlob yamlToJSON hempty hnull d.1.flatten
    rw [hm] at h
    refine ⟨by rw [h.1, if_neg (mt List.isEmpty_iff.1 hne')], ?_⟩
    simpa [hkind] using h.2
  have hlines' : ∀ d ∈ docs.map Prod.fst, ∀ l ∈ d, IsPlainLine l ∧ isSeparator l = false :=
    fun _ hd => by
      obtain ⟨x, hx, rfl⟩ := List.mem_map.1 hd
      exact hlines x hx
  have hne' : ∀ d ∈ docs.map Prod.fst, d ≠ [] := fun _ hd => by
    obtain ⟨x, hx, rfl⟩ := List.mem_map.1 hd
    exact hne x hx
  rw [parseManifestStringToObjects_eq, yamlDocuments_intercalate _ hlines' hne', List.map_map, List.filterMap_map, List.filterMap_map,
    @List.filterMap_congr _ _ (documentItem yamlToJSON ∘ List.flatten ∘ Prod.fst)
      (some ∘ fun d : List (List Char) × JsonObject => (⟨d.2⟩ : Unstructured)) docs
      fun d hd => (hplace d hd).1,
    List.filterMap_eq_map,
    (@List.filterMap_eq_nil_iff _ _ (documentBlob yamlToJSON ∘ List.flatten ∘ Prod.fst) docs).2
      fun d hd => (hplace d hd).2]

theorem parseManifestStringToObjects_intercalate_two :
    let yamlToJSON : List Char → Except Error Value := fun y =>
      if y = "kind: A".data then .ok (.object [("kind", .string "A")])
      else if y = "kind: B".data then .ok (.object [("kind", .string "B")])
      else .ok .null
    let docs := [(["kind: A\n".data], [("kind", Value.string "A")]),
      (["kind: B\n".data], [("kind", Value.string "B")])]
    yamlToJSON [] = .ok .null ∧ yamlToJSON "null".data = .ok .null ∧
      (∀ d ∈ docs, ∀ l ∈ d.1, IsPlainLine l ∧ isSeparator l = false) ∧ (∀ d ∈ docs, d.1 ≠ []) ∧
      (∀ d ∈ docs, yamlToJSON (Bytes.trimSpace d.1.flatten) = .ok (.object d.2) ∧
        d.2 ≠ [] ∧ Unstructured.gvkKind ⟨d.2⟩ ≠ "") ∧
      parseManifestStringToObjects yamlToJSON
          ⟨(["---\n".data].intercalate (docs.map Prod.fst)).flatten⟩ =
        .ok ⟨docs.map fun d => ⟨d.2⟩, []⟩ := by
  intro yamlToJSON docs
  have hlines : ∀ d ∈ docs, ∀ l ∈ d.1, IsPlainLine l ∧ isSeparator l = false := by
    simp only [docs, List.mem_cons, List.mem_singleton, forall_eq_or_imp, forall_eq,
      List.not_mem_nil, false_implies, implies_true, and_true]
    exact ⟨⟨⟨"kind: A".data, rfl, by decide, by decide⟩, rfl⟩,
      ⟨⟨"kind: B".data, rfl, by decide, by decide⟩, rfl⟩⟩
  have hne : ∀ d ∈ docs, d.1 ≠ [] := by simp [docs]
  have hobj : ∀ d ∈ docs, yamlToJSON (Bytes.trimSpace d.1.flatten) = .ok (.object d.2) ∧
      d.2 ≠ [] ∧ Unstructured.gvkKind ⟨d.2⟩ ≠ "" := by
    simp only [docs, List.mem_cons, List.mem_singleton, forall_eq_or_imp, forall_eq,
      List.not_mem_nil, false_implies, implies_true, and_true]
    exact ⟨⟨rfl, List.cons_ne_nil _ _, by decide⟩, ⟨rfl, List.cons_ne_nil _ _, by decide⟩⟩
  exact ⟨rfl, rfl, hlines, hne, hobj,
    parseManifestStringToObjects_intercalate rfl rfl docs hlines hne hobj⟩

end ModuleManager
