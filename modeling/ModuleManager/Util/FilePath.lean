import ModuleManager.Declarative.Object

/-!
# Joining an archive path under a root

`CleanFilePathJoin` (in `pkg/util`) places a path read from an archive under a root directory.
It refuses a path with a `:`, a path with a `..` element once backslashes are read as slashes,
and an absolute path; otherwise it joins the root and the cleaned path with `filepath.Join`.

The library functions are modelled as they behave on Unix, where the separator is `/`:
`strings.Split`, `strings.Join`, `strings.ReplaceAll` and `strings.Contains` with one-character
arguments, `path.IsAbs`, `filepath.Join`, `filepath.ToSlash` (the identity) and `filepath.Clean`.
`filepath.Clean` scans the path byte by byte; its loop is modelled element by element, an element
being a piece between slashes, on the elements written so far kept last first
(`Filepath.cleanStep`).

A path is inside the root when its components, the pieces between slashes other than empty ones
and `.`, start with the components of the cleaned root and no later one is `..`
(`cleanFilePathJoin_contained`). What `filepath.Clean` keeps is a run of elements other than
`..` above the `..` elements of a relative path that nothing removes (`Filepath.Normal`); cleaning
its text gives it back, so `filepath.Clean` is idempotent and the paths `CleanFilePathJoin`
returns are clean.

The chart helpers of `pkg/util` join fixed names under a directory: the manifest of a chart
(`GetFsManifestChartPath`), the chart of an image and its install configuration under the
temporary directory (`GetFsChartPath`, `GetConfigFilePath`). The name and the ref of an image
come from the resource, so they stay under the temporary directory only when they have no slash,
or no `..` component.

## Main definitions

* `Strings.split`, `Strings.join`, `Path.isAbs`.
* `Filepath.clean`, `Filepath.join`, `Filepath.toSlash`.
* `cleanFilePathJoin`.
* `Filepath.components`: the components of a path.
* `ImageSpec`, `getFsChartPath`, `getConfigFilePath`, `getFsManifestChartPath`.

## Main results

* `Strings.split_append`, `Strings.split_join`: splitting at a slash and joining.
* `Filepath.components_render`: the components of a cleaned path are the elements it kept.
* `cleanFilePathJoin_contained`: every path `CleanFilePathJoin` returns is inside the root.
* `Filepath.clean_clean`, `cleanFilePathJoin_clean`: cleaning a cleaned path changes nothing.
* `getFsManifestChartPath_components`, `getFsChartPath_components`,
  `getConfigFilePath_components`: where the chart paths are.
-/

namespace ModuleManager

/-! ### Strings and paths -/

namespace Strings

/-- `strings.Split(s, string(sep))`: the pieces between the occurrences of `sep`. -/
def split (s : String) (sep : Char) : List String :=
  (s.data.splitOn sep).map String.mk

/-- `strings.Join(elems, string(sep))`. -/
def join (elems : List String) (sep : Char) : String :=
  ⟨[sep].intercalate (elems.map String.data)⟩

/-- `strings.Contains(s, string(c))`. -/
def contains (s : String) (c : Char) : Bool :=
  s.data.contains c

/-- `strings.ReplaceAll(s, string(old), string(new))`. -/
def replaceAll (s : String) (old new : Char) : String :=
  ⟨s.data.map fun c => if c = old then new else c⟩

end Strings

/-- `path.IsAbs`: the path starts with a slash. -/
def Path.isAbs (path : String) : Bool :=
  path.data.head? = some '/'

theorem Path.isAbs_append {a : String} (h : a ≠ "") (b : String) :
    Path.isAbs (a ++ b) = Path.isAbs a := by
  obtain ⟨_ | ⟨c, cs⟩⟩ := a
  · exact absurd rfl h
  · rfl

namespace Filepath

/-- One element in the loop of `filepath.Clean`, on the elements written so far, last first.
Empty elements and `.` are skipped. A `..` removes the last element written unless that is a
`..` itself (the loop's `out.w > dotdot`); with nothing to remove it is dropped at the root of a
rooted path and written otherwise. -/
def cleanStep (rooted : Bool) (out : List String) (elem : String) : List String :=
  if elem = "" ∨ elem = "." then out
  else if elem = ".." then
    match out with
    | last :: rest => if last = ".." then elem :: out else rest
    | [] => if rooted then [] else [elem]
  else elem :: out

/-- The elements `filepath.Clean` keeps of a path, last first. -/
def cleanElems (rooted : Bool) (path : String) : List String :=
  (Strings.split path '/').foldl (cleanStep rooted) []

/-- The text `filepath.Clean` returns for the elements it kept: a rooted path starts with a
slash, and a relative path with no element is `.`. -/
def render (rooted : Bool) (out : List String) : String :=
  if rooted then "/" ++ Strings.join out.reverse '/'
  else if out = [] then "." else Strings.join out.reverse '/'

/-- `filepath.Clean` on Unix: the shortest path naming the same file by lexical processing.
A path is rooted when it starts with a slash, which `Path.isAbs` tests. -/
def clean (path : String) : String :=
  render (Path.isAbs path) (cleanElems (Path.isAbs path) path)

/-- `filepath.Join` on Unix: the elements from the first non-empty one, joined by slashes and
cleaned; `""` when every element is empty. -/
def join (elem : List String) : String :=
  match elem.dropWhile (· = "") with
  | [] => ""
  | es => clean (Strings.join es '/')

/-- `filepath.ToSlash` on Unix, where the separator already is a slash. -/
def toSlash (path : String) : String :=
  path

/-- The components of a path: its pieces between slashes, without the empty ones and `.`. -/
def components (path : String) : List String :=
  (Strings.split path '/').filter fun e => e ≠ "" ∧ e ≠ "."

end Filepath

/-- `CleanFilePathJoin`: the path of an archive entry `destDir` under `root`, or the reason it
is refused. -/
def cleanFilePathJoin (root destDir : String) : Except Error String :=
  if Strings.contains destDir ':' then
    .error (.message "path contains \x27:\x27, which is illegal")
  else
    let destDir := Strings.replaceAll destDir '\\' '/'
    if (Strings.split destDir '/').any (· = "..") then
      .error (.message "path contains \x27..\x27, which is illegal")
    else if Path.isAbs destDir then
      .error (.message "path is absolute, which is illegal")
    else
      .ok (Filepath.toSlash (Filepath.join [root, Filepath.clean destDir]))

/-! ### Splitting and joining -/

section Split

theorem not_mem_of_mem_splitOn {c : Char} : ∀ {l w : List Char}, w ∈ l.splitOn c → c ∉ w
  | [], w, h => by simp_all
  | x :: l, w, h => by
    rw [List.splitOn, List.splitOnP_cons] at h
    split_ifs at h with hx
    · rcases List.mem_cons.1 h with rfl | h
      · simp
      · exact not_mem_of_mem_splitOn h
    · obtain ⟨r, rs, hr⟩ := List.exists_cons_of_ne_nil (List.splitOnP_ne_nil (· == c) l)
      rw [hr, List.modifyHead_cons] at h
      have hmem : ∀ w ∈ r :: rs, c ∉ w := fun w hw =>
        not_mem_of_mem_splitOn (by rw [List.splitOn, hr]; exact hw)
      rcases List.mem_cons.1 h with rfl | h
      · simpa [Ne.symm (beq_eq_false_iff_ne.1 (Bool.eq_false_iff.2 hx))] using
          hmem r (List.mem_cons_self r rs)
      · exact hmem w (List.mem_cons_of_mem r h)

theorem splitOn_append_cons (c : Char) (b : List Char) :
    ∀ a : List Char, (a ++ c :: b).splitOn c = a.splitOn c ++ b.splitOn c
  | [] => by simp [List.splitOn]
  | x :: a => by
    have ih := splitOn_append_cons c b a
    simp only [List.splitOn] at ih ⊢
    rw [List.cons_append, List.splitOnP_cons, List.splitOnP_cons, ih]
    split_ifs
    · rfl
    · obtain ⟨r, rs, hr⟩ := List.exists_cons_of_ne_nil (List.splitOnP_ne_nil (· == c) a)
      rw [hr]
      rfl

namespace Strings

theorem split_append (a b : String) : split (a ++ "/" ++ b) '/' = split a '/' ++ split b '/' := by
  simp only [split, String.data_append, List.append_assoc]
  rw [List.singleton_append, splitOn_append_cons, List.map_append]

theorem not_mem_of_mem_split {s e : String} {c : Char} (h : e ∈ split s c) : c ∉ e.data := by
  obtain ⟨w, hw, rfl⟩ := List.mem_map.1 h
  exact not_mem_of_mem_splitOn hw

theorem split_join {es : List String} {c : Char} (hc : ∀ e ∈ es, c ∉ e.data) (hne : es ≠ []) :
    split (join es c) c = es := by
  simp only [split, join]
  rw [List.splitOn_intercalate _ c (by simpa using hc) (by simpa using hne), List.map_map]
  exact List.map_id'' (fun _ => rfl) es

@[simp] theorem split_empty (c : Char) : split "" c = [""] := rfl

/-- A path that starts with a slash splits with an empty first piece. -/
theorem split_head?_of_isAbs {s : String} (h : Path.isAbs s) : (split s '/').head? = some "" := by
  obtain ⟨_ | ⟨c, t⟩⟩ := s
  · cases h
  · obtain rfl : c = '/' := by simpa [Path.isAbs] using h
    simp [split, List.splitOn, List.splitOnP_cons]

theorem join_singleton (e : String) (c : Char) : join [e] c = e := by
  simp [join, List.intercalate]

theorem join_pair (a b : String) : join [a, b] '/' = a ++ "/" ++ b := by
  simp [join, List.intercalate, String.ext_iff]

end Strings

end Split

/-! ### The cleaned path -/

namespace Filepath

/-- An element `filepath.Clean` keeps: not empty, not `.`, and without a slash. -/
def Kept (e : String) : Prop :=
  e ≠ "" ∧ e ≠ "." ∧ '/' ∉ e.data

theorem cleanStep_kept {rooted : Bool} {out : List String} {elem : String}
    (hout : ∀ e ∈ out, Kept e) (helem : '/' ∉ elem.data) :
    ∀ e ∈ cleanStep rooted out elem, Kept e := by
  have hdd : Kept ".." := by simp only [Kept]; decide
  unfold cleanStep
  by_cases h1 : elem = "" ∨ elem = "."
  · rwa [if_pos h1]
  rw [if_neg h1]
  by_cases h2 : elem = ".."
  · rw [if_pos h2, h2]
    rcases out with _ | ⟨last, rest⟩
    · cases rooted <;> simp [hdd]
    · by_cases h3 : last = ".."
      · simpa [h3, hdd] using hout
      · simpa [h3] using fun e he => hout e (List.mem_cons_of_mem _ he)
  · rw [if_neg h2]
    exact List.forall_mem_cons.2 ⟨⟨fun h => h1 (.inl h), fun h => h1 (.inr h), helem⟩, hout⟩

theorem foldl_cleanStep_kept (rooted : Bool) :
    ∀ (out : List String) (es : List String), (∀ e ∈ out, Kept e) → (∀ e ∈ es, '/' ∉ e.data) →
      ∀ e ∈ es.foldl (cleanStep rooted) out, Kept e
  | _, [], hout, _ => hout
  | _, elem :: es, hout, hes =>
    foldl_cleanStep_kept rooted _ es (cleanStep_kept hout (hes elem (List.mem_cons_self _ _)))
      fun e he => hes e (List.mem_cons_of_mem _ he)

theorem cleanElems_kept (rooted : Bool) (path : String) : ∀ e ∈ cleanElems rooted path, Kept e :=
  foldl_cleanStep_kept rooted [] _ (by simp) fun _ => Strings.not_mem_of_mem_split

/-- Without `..`, the loop of `filepath.Clean` writes every element other than empty ones and
`.`, in order. -/
theorem foldl_cleanStep_of_not_dotdot (rooted : Bool) :
    ∀ (out es : List String), ".." ∉ es →
      es.foldl (cleanStep rooted) out = (es.filter fun e => e ≠ "" ∧ e ≠ ".").reverse ++ out
  | _, [], _ => rfl
  | out, elem :: es, h => by
    have helem : elem ≠ ".." := fun h' => h (h' ▸ List.mem_cons_self _ _)
    rw [List.foldl_cons, foldl_cleanStep_of_not_dotdot rooted _ es
      fun h' => h (List.mem_cons_of_mem _ h')]
    by_cases h1 : elem = "" ∨ elem = "."
    · have hf : ¬(elem ≠ "" ∧ elem ≠ ".") := fun h => h1.elim h.1 h.2
      simp [cleanStep, h1, hf]
    · have ht : elem ≠ "" ∧ elem ≠ "." := ⟨fun h => h1 (.inl h), fun h => h1 (.inr h)⟩
      simp [cleanStep, h1, helem, ht]

theorem split_render (rooted : Bool) (out : List String) (hk : ∀ e ∈ out, Kept e)
    (hne : out ≠ []) :
    Strings.split (render rooted out) '/' = (if rooted then [""] else []) ++ out.reverse := by
  have hjoin : Strings.split (Strings.join out.reverse '/') '/' = out.reverse :=
    Strings.split_join (fun e he => (hk e (List.mem_reverse.1 he)).2.2) (by simpa using hne)
  cases rooted
  · simp [render, hne, hjoin]
  · rw [render, if_pos rfl, ← String.empty_append "/", Strings.split_append, hjoin]
    rfl

/-- The components of a cleaned path are the elements it kept. -/
theorem components_render (rooted : Bool) {out : List String} (hk : ∀ e ∈ out, Kept e) :
    components (render rooted out) = out.reverse := by
  rcases eq_or_ne out [] with rfl | hne
  · cases rooted <;> rfl
  · have hk' : ∀ e ∈ out.reverse, e ≠ "" ∧ e ≠ "." := fun e he =>
      ⟨(hk e (List.mem_reverse.1 he)).1, (hk e (List.mem_reverse.1 he)).2.1⟩
    have hf : out.reverse.filter (fun e => e ≠ "" ∧ e ≠ ".") = out.reverse :=
      List.filter_eq_self.2 (by simpa using hk')
    rw [components, split_render rooted out hk hne, List.filter_append, hf]
    cases rooted <;> rfl

theorem isAbs_render (rooted : Bool) {out : List String} (hk : ∀ e ∈ out, Kept e) :
    Path.isAbs (render rooted out) = rooted := by
  cases rooted
  · rcases eq_or_ne out [] with rfl | hne
    · rfl
    · refine Bool.eq_false_iff.2 fun habs => ?_
      have hs := Strings.split_head?_of_isAbs habs
      rw [split_render false out hk hne, if_neg Bool.false_ne_true, List.nil_append] at hs
      exact (hk "" (List.mem_reverse.1 (List.mem_of_mem_head? hs))).1 rfl
  · simp [render, Path.isAbs]

theorem render_ne_empty {out : List String} (hk : ∀ e ∈ out, Kept e) : render false out ≠ "" := by
  intro h
  rcases eq_or_ne out [] with rfl | hne
  · exact absurd h (by decide)
  · have hs := split_render false out hk hne
    rw [h, Strings.split_empty, if_neg Bool.false_ne_true, List.nil_append] at hs
    exact (hk "" (List.mem_reverse.1 (hs ▸ List.mem_singleton_self _))).1 rfl

end Filepath

/-! ### Containment -/

section Containment

open Filepath

theorem not_dotdot_mem_cleanElems {d : String} (hd : ".." ∉ Strings.split d '/') :
    ".." ∉ cleanElems false d := by
  rw [cleanElems, foldl_cleanStep_of_not_dotdot false [] _ hd, List.append_nil, List.mem_reverse]
  exact fun h => hd (List.mem_of_mem_filter h)

/-- The elements of a relative path that passed the `..` check go through the cleaning loop
as they are, and reading the cleaned path again gives them back. -/
theorem foldl_split_clean {d : String} (hd : ".." ∉ Strings.split d '/') (rooted : Bool)
    (out : List String) :
    (Strings.split (render false (cleanElems false d)) '/').foldl (cleanStep rooted) out =
      cleanElems false d ++ out := by
  have hk := cleanElems_kept false d
  rcases eq_or_ne (cleanElems false d) [] with h | hne
  · rw [h]
    rfl
  · rw [split_render false _ hk hne, if_neg Bool.false_ne_true, List.nil_append,
      foldl_cleanStep_of_not_dotdot rooted _ _ (by simpa using not_dotdot_mem_cleanElems hd),
      List.filter_eq_self.2, List.reverse_reverse]
    intro e he
    have := hk e (List.mem_reverse.1 he)
    simpa using ⟨this.1, this.2.1⟩

/-- Joining a root and a cleaned relative path without `..`: the elements of the path are kept
after those of the root. -/
theorem join_clean {root d : String} (hd : ".." ∉ Strings.split d '/')
    (habs : Path.isAbs d = false) :
    join [root, clean d] =
      render (Path.isAbs root) (cleanElems false d ++ cleanElems (Path.isAbs root) root) := by
  have hk := cleanElems_kept false d
  have hx : clean d = render false (cleanElems false d) := by rw [clean, habs]
  by_cases hr : root = ""
  · subst hr
    have hxne := render_ne_empty hk
    have hj : join ["", clean d] = clean (clean d) := by
      simp [join, hx, hxne, Strings.join_singleton]
    rw [hj, clean, hx, isAbs_render false hk, cleanElems, foldl_split_clean hd]
    rfl
  · have hj : join [root, clean d] = clean (root ++ "/" ++ clean d) := by
      simp [join, hr, Strings.join_pair]
    rw [hj, clean, Path.isAbs_append (by simp [String.ext_iff]), Path.isAbs_append hr,
      cleanElems, Strings.split_append, List.foldl_append, hx, foldl_split_clean hd]
    rfl

/-- **Containment.** A path `CleanFilePathJoin` returns is inside the root: its components are
those of the cleaned root followed by components none of which is `..`, and it is absolute
exactly when the root is. -/
theorem cleanFilePathJoin_contained {root destDir p : String}
    (h : cleanFilePathJoin root destDir = .ok p) :
    (∃ rest, components p = components (clean root) ++ rest ∧ ".." ∉ rest) ∧
      Path.isAbs p = Path.isAbs root := by
  simp only [cleanFilePathJoin] at h
  split_ifs at h with hc hdd habs
  cases h
  have hd : ".." ∉ Strings.split (Strings.replaceAll destDir '\\' '/') '/' := by simpa using hdd
  have hk : ∀ e ∈ cleanElems false (Strings.replaceAll destDir '\\' '/') ++
      cleanElems (Path.isAbs root) root, Kept e := by
    simpa [or_imp, forall_and] using ⟨cleanElems_kept false _, cleanElems_kept _ root⟩
  rw [toSlash, join_clean hd (by simpa using habs), components_render _ hk, isAbs_render _ hk,
    clean, components_render _ (cleanElems_kept _ root), List.reverse_append]
  exact ⟨⟨_, rfl, by simpa using not_dotdot_mem_cleanElems hd⟩, rfl⟩

theorem cleanFilePathJoin_contained_archive :
    cleanFilePathJoin "/srv/charts" "a\\.\\b//..." = .ok "/srv/charts/a/b/..." ∧
      (∃ rest, components "/srv/charts/a/b/..." = components (clean "/srv/charts") ++ rest ∧
        ".." ∉ rest) ∧
      Path.isAbs "/srv/charts/a/b/..." = Path.isAbs "/srv/charts" :=
  ⟨rfl, @cleanFilePathJoin_contained "/srv/charts" "a\\.\\b//..." _ rfl⟩

end Containment

/-! ### A cleaned path is clean -/

namespace Filepath

/-- The shape of what `filepath.Clean` keeps, last first: elements other than `..`, above the
`..` elements that a relative path cannot remove; a rooted path has none of those. -/
def Normal (rooted : Bool) (out : List String) : Prop :=
  ∃ rest k, out = rest ++ List.replicate k ".." ∧ ".." ∉ rest ∧ (rooted = true → k = 0)

theorem normal_nil (rooted : Bool) : Normal rooted [] :=
  ⟨[], 0, rfl, List.not_mem_nil _, fun _ => rfl⟩

theorem cleanStep_normal {rooted : Bool} {out : List String} (h : Normal rooted out)
    (elem : String) : Normal rooted (cleanStep rooted out elem) := by
  obtain ⟨rest, k, rfl, hrest, hk⟩ := h
  unfold cleanStep
  by_cases h1 : elem = "" ∨ elem = "."
  · rw [if_pos h1]
    exact ⟨rest, k, rfl, hrest, hk⟩
  rw [if_neg h1]
  by_cases h2 : elem = ".."
  · subst h2
    rw [if_pos rfl]
    rcases rest with _ | ⟨last, rest⟩
    · rcases k with _ | k
      · cases rooted
        · exact ⟨[], 1, rfl, List.not_mem_nil _, nofun⟩
        · exact normal_nil true
      · exact ⟨[], k + 2, rfl, List.not_mem_nil _, fun hr => absurd (hk hr) (Nat.succ_ne_zero k)⟩
    · have hl : last ≠ ".." := fun h => hrest (h ▸ List.mem_cons_self _ _)
      simp only [List.cons_append, if_neg hl]
      exact ⟨rest, k, rfl, fun h => hrest (List.mem_cons_of_mem _ h), hk⟩
  · rw [if_neg h2]
    exact ⟨elem :: rest, k, rfl, by simpa [Ne.symm h2] using hrest, hk⟩

theorem foldl_cleanStep_normal (rooted : Bool) :
    ∀ (out es : List String), Normal rooted out → Normal rooted (es.foldl (cleanStep rooted) out)
  | _, [], h => h
  | _, e :: es, h => foldl_cleanStep_normal rooted _ es (cleanStep_normal h e)

theorem cleanElems_normal (rooted : Bool) (path : String) : Normal rooted (cleanElems rooted path) :=
  foldl_cleanStep_normal rooted [] _ (normal_nil rooted)

/-- A relative path's leading `..` elements are all written. -/
theorem foldl_cleanStep_dotdot (j : Nat) :
    ∀ k, (List.replicate k "..").foldl (cleanStep false) (List.replicate j "..") =
      List.replicate (k + j) ".."
  | 0 => by simp
  | k + 1 => by
    have hstep : cleanStep false (List.replicate j "..") ".." = List.replicate (j + 1) ".." := by
      cases j <;> rfl
    rw [List.replicate_succ, List.foldl_cons, hstep, foldl_cleanStep_dotdot (j + 1) k]
    congr 1
    omega

/-- Cleaning the text of what `filepath.Clean` keeps gives back the same elements. -/
theorem cleanElems_render {rooted : Bool} {out : List String} (hk : ∀ e ∈ out, Kept e)
    (hn : Normal rooted out) : cleanElems rooted (render rooted out) = out := by
  rcases eq_or_ne out [] with rfl | hne
  · cases rooted <;> rfl
  have hsplit := split_render rooted out hk hne
  obtain ⟨rest, k, rfl, hrest, hk0⟩ := hn
  have hroot : (if rooted then [""] else []).foldl (cleanStep rooted) [] = [] := by
    cases rooted <;> rfl
  have hdd : (List.replicate k "..").foldl (cleanStep rooted) [] = List.replicate k ".." := by
    cases rooted
    · simpa using foldl_cleanStep_dotdot 0 k
    · rw [hk0 rfl]
      rfl
  have hkept : ∀ e ∈ rest.reverse, e ≠ "" ∧ e ≠ "." := fun e he =>
    have he' := hk e (List.mem_append_left _ (List.mem_reverse.1 he))
    ⟨he'.1, he'.2.1⟩
  rw [cleanElems, hsplit, List.foldl_append, hroot, List.reverse_append, List.reverse_replicate,
    List.foldl_append, hdd, foldl_cleanStep_of_not_dotdot rooted _ _ (by simpa using hrest),
    List.filter_eq_self.2 (by simpa using hkept), List.reverse_reverse]

theorem clean_render {rooted : Bool} {out : List String} (hk : ∀ e ∈ out, Kept e)
    (hn : Normal rooted out) : clean (render rooted out) = render rooted out := by
  rw [clean, isAbs_render rooted hk, cleanElems_render hk hn]

/-- `filepath.Clean` is idempotent. -/
theorem clean_clean (path : String) : clean (clean path) = clean path :=
  clean_render (cleanElems_kept _ path) (cleanElems_normal _ path)

end Filepath

open Filepath in
/-- A path `CleanFilePathJoin` returns is clean: `filepath.Clean` leaves it as it is. -/
theorem cleanFilePathJoin_clean {root destDir p : String}
    (h : cleanFilePathJoin root destDir = .ok p) : clean p = p := by
  simp only [cleanFilePathJoin] at h
  split_ifs at h with hc hdd habs
  cases h
  have hd : ".." ∉ Strings.split (Strings.replaceAll destDir '\\' '/') '/' := by simpa using hdd
  obtain ⟨rest, k, hr, hrest, hk⟩ := cleanElems_normal (Path.isAbs root) root
  rw [toSlash, join_clean hd (by simpa using habs)]
  refine clean_render (fun e he => (List.mem_append.1 he).elim (cleanElems_kept false _ e)
    (cleanElems_kept _ root e)) ⟨_ ++ rest, k, by rw [hr, List.append_assoc],
    fun h => (List.mem_append.1 h).elim (not_dotdot_mem_cleanElems hd) hrest, hk⟩

theorem cleanFilePathJoin_clean_archive :
    cleanFilePathJoin "/srv/charts" "a\\.\\b//..." = .ok "/srv/charts/a/b/..." ∧
      Filepath.clean "/srv/charts/a/b/..." = "/srv/charts/a/b/..." :=
  ⟨rfl, @cleanFilePathJoin_clean "/srv/charts" "a\\.\\b//..." _ rfl⟩

/-! ### Chart paths -/

/-- `types.ImageSpec`, declared outside the sources, with the two fields `pkg/util` reads. -/
structure ImageSpec where
  name : String
  ref : String
  deriving DecidableEq, Repr

/-- `ManifestDir`. -/
def manifestDir : String := "manifest"

/-- `manifestFile`. -/
def manifestFile : String := "manifest.yaml"

/-- `configFileName`. -/
def configFileName : String := "installConfig.yaml"

/-- `GetFsChartPath`, under the directory `os.TempDir()` returns. -/
def getFsChartPath (tempDir : String) (imageSpec : ImageSpec) : String :=
  Filepath.join [tempDir, imageSpec.name ++ "-" ++ imageSpec.ref]

/-- `GetConfigFilePath`, under the directory `os.TempDir()` returns. -/
def getConfigFilePath (tempDir : String) (config : ImageSpec) : String :=
  Filepath.join [tempDir, Filepath.join [config.ref, configFileName]]

/-- `GetFsManifestChartPath`. -/
def getFsManifestChartPath (imageChartPath : String) : String :=
  Filepath.join [imageChartPath, manifestDir, manifestFile]

namespace Filepath

theorem not_dotdot_mem_split {path : String} (h : ".." ∉ components path) :
    ".." ∉ Strings.split path '/' :=
  fun h' => h (List.mem_filter.2 ⟨h', by decide⟩)

/-- Without `..`, cleaning a path keeps its components. -/
theorem components_clean {path : String} (h : ".." ∉ components path) :
    components (clean path) = components path := by
  rw [clean, components_render _ (cleanElems_kept _ path), cleanElems,
    foldl_cleanStep_of_not_dotdot _ _ _ (not_dotdot_mem_split h), List.append_nil,
    List.reverse_reverse]
  rfl

/-- Joining a directory and a path without `..`: the components of the path follow those of the
cleaned directory. -/
theorem components_join_pair (dir : String) {path : String} (h : ".." ∉ components path) :
    components (join [dir, path]) = components (clean dir) ++ components path := by
  by_cases hd : dir = ""
  · subst hd
    by_cases hp : path = ""
    · subst hp
      rfl
    · have hj : join ["", path] = clean path := by simp [join, hp, Strings.join_singleton]
      rw [hj, components_clean h]
      rfl
  · have hj : join [dir, path] = clean (dir ++ "/" ++ path) := by
      simp [join, hd, Strings.join_pair]
    rw [hj, clean, Path.isAbs_append (by simp [String.ext_iff]), Path.isAbs_append hd,
      components_render _ (cleanElems_kept _ _), cleanElems, Strings.split_append,
      List.foldl_append, foldl_cleanStep_of_not_dotdot _ _ _ (not_dotdot_mem_split h),
      List.reverse_append, List.reverse_reverse, clean, components_render _ (cleanElems_kept _ _)]
    rfl

end Filepath

open Filepath

/-- The manifest of a chart is the file `manifest/manifest.yaml` inside the cleaned chart
directory, whatever that directory is. -/
theorem getFsManifestChartPath_components (imageChartPath : String) :
    components (getFsManifestChartPath imageChartPath) =
      components (clean imageChartPath) ++ [manifestDir, manifestFile] := by
  have hj : getFsManifestChartPath imageChartPath = join [imageChartPath, "manifest/manifest.yaml"] := by
    by_cases hp : imageChartPath = ""
    · subst hp
      rfl
    · simp [getFsManifestChartPath, join, hp, Strings.join, List.intercalate, manifestDir,
        manifestFile]
  rw [hj, components_join_pair _ (by decide)]
  rfl

/-- The chart of an image is one entry of the temporary directory, `name-ref`, when neither the
image's name nor its ref has a slash. -/
theorem getFsChartPath_components (tempDir : String) {imageSpec : ImageSpec}
    (hname : '/' ∉ imageSpec.name.data) (href : '/' ∉ imageSpec.ref.data) :
    components (getFsChartPath tempDir imageSpec) =
      components (clean tempDir) ++ [imageSpec.name ++ "-" ++ imageSpec.ref] := by
  have hdash : '-' ∈ (imageSpec.name ++ "-" ++ imageSpec.ref).data := by simp
  have hslash : '/' ∉ (imageSpec.name ++ "-" ++ imageSpec.ref).data := by simp [hname, href]
  have hsplit : Strings.split (imageSpec.name ++ "-" ++ imageSpec.ref) '/' =
      [imageSpec.name ++ "-" ++ imageSpec.ref] := by
    rw [Strings.split, List.splitOn,
      List.splitOnP_eq_single (· == '/') _ fun x hx hsl => hslash (eq_of_beq hsl ▸ hx)]
    rfl
  have hne : ∀ t : String, '-' ∉ t.data → imageSpec.name ++ "-" ++ imageSpec.ref ≠ t :=
    fun t ht h => ht (h ▸ hdash)
  have hcomp : components (imageSpec.name ++ "-" ++ imageSpec.ref) =
      [imageSpec.name ++ "-" ++ imageSpec.ref] := by
    rw [components, hsplit]
    simp [hne "" (by decide), hne "." (by decide)]
  rw [getFsChartPath, components_join_pair _ (by rw [hcomp]; simpa using (hne ".." (by decide)).symm),
    hcomp]

theorem getFsChartPath_components_tmp :
    '/' ∉ "nginx".data ∧ '/' ∉ "v1".data ∧
      components (getFsChartPath "/tmp" ⟨"nginx", "v1"⟩) =
        components (clean "/tmp") ++ ["nginx" ++ "-" ++ "v1"] :=
  ⟨by decide, by decide, @getFsChartPath_components "/tmp" ⟨"nginx", "v1"⟩ (by decide) (by decide)⟩

/-- The install configuration of an image is `installConfig.yaml` under its ref inside the
temporary directory, when the ref has no `..` component. -/
theorem getConfigFilePath_components (tempDir : String) {config : ImageSpec}
    (href : ".." ∉ components config.ref) :
    components (getConfigFilePath tempDir config) =
      components (clean tempDir) ++ components config.ref ++ [configFileName] := by
  have hinner : components (join [config.ref, configFileName]) =
      components config.ref ++ [configFileName] := by
    rw [components_join_pair _ (by decide), components_clean href]
    rfl
  rw [getConfigFilePath, components_join_pair _ (by simpa [hinner] using ⟨href, by decide⟩), hinner,
    List.append_assoc]

theorem getConfigFilePath_components_tmp :
    ".." ∉ components "sha256/abc" ∧
      components (getConfigFilePath "/tmp" ⟨"nginx", "sha256/abc"⟩) =
        components (clean "/tmp") ++ components "sha256/abc" ++ [configFileName] :=
  ⟨by decide, @getConfigFilePath_components "/tmp" ⟨"nginx", "sha256/abc"⟩ (by decide)⟩

end ModuleManager
