import ModuleManager.Declarative.Accessor

/-!
# Reading objects of the cluster

Four helpers of `pkg/util` build or read objects. `GetResourceLabel` reads one label of an
object, `GetNamespaceObjBytes` serializes a namespace, `FilterExistingResources` keeps the
resources of a helm resource list that the cluster has, and `CalculateHash` hashes the JSON of a
value with 32-bit FNV-1a. The serializers of `sigs.k8s.io/yaml` and `encoding/json` are
parameters.

`FilterExistingResources` asks the cluster for each resource in turn (`helper.Get`, the argument
`get`). It skips a resource the cluster does not find, collects every other failure as an error
that names the resource, and returns the resources it found even when some lookups failed. Its
loop is a fold over the list carrying the two slices of the source (`filterStep`). What it returns
is the list split by the cluster's answers (`filterExistingResources_partition`).

`GetResourceLabel` builds its `LabelNotFoundError` from the value it failed to read, the empty
string, where the label's name is meant, so the error never names the missing label.

## Main definitions

* `LabelNotFoundError`, `getResourceLabel`.
* `NamespaceObject`, `getNamespaceObjBytes`.
* `ResourceInfo`, `MultiError`, `filterStep`, `filterExistingResources`.
* `getFailure`: the error one resource adds.
* `fnv32a`, `calculateHash`.

## Main results

* `filterExistingResources_partition`: the resources found, and the failures other than
  `NotFound`, in order.
-/

namespace ModuleManager

open BaseCustomObject

/-! ### One label -/

/-- `types.LabelNotFoundError`, declared outside the sources, with the two fields that
`GetResourceLabel` sets. -/
structure LabelNotFoundError where
  resource : BaseCustomObject
  labelName : String

/-- `GetResourceLabel`. Indexing a map, `nil` or not, at a missing key gives the zero value `""`
and `ok = false`, and the error is built with that value. -/
def getResourceLabel (resource : BaseCustomObject) (labelName : String) :
    Except LabelNotFoundError String :=
  let labels := resource.getLabels
  let (label, ok) := match labels.bind (·.lookup labelName) with
    | some v => (v, true)
    | none => ("", false)
  if !ok then .error { resource, labelName := label } else .ok label

/-! ### The namespace object -/

/-- The `v1.Namespace` that `GetNamespaceObjBytes` builds, by the fields it sets. -/
structure NamespaceObject where
  apiVersion : String
  kind : String
  name : String
  labels : StringMap

/-- `GetNamespaceObjBytes`, for `yaml.Marshal` as `marshal`. -/
def getNamespaceObjBytes (marshal : NamespaceObject → Except Error (List UInt8))
    (clientNs : String) : Except Error (List UInt8) :=
  marshal { apiVersion := "v1", kind := "Namespace", name := clientNs
            labels := (∅ : StringMap).insert "name" clientNs }

/-! ### Resources the cluster has -/

/-- A `*resource.Info` of a helm `kube.ResourceList`, by what `FilterExistingResources` reads: the
REST mapping of its kind, by name, its name and its namespace. -/
structure ResourceInfo where
  mapping : String
  name : String
  «namespace» : String
  deriving DecidableEq, Repr

/-- `types.MultiError`, declared outside the sources, by the errors it holds. -/
structure MultiError where
  errs : List Error

/-- `apierrors.IsNotFound`. -/
def isNotFound : Error → Bool
  | .notFound => true
  | _ => false

/-- `errors.Wrapf(err, "could not get information about the resource %s / %s", ...)`, for the
name and the namespace of the resource. -/
def wrapGetError (err : Error) (info : ResourceInfo) : Error :=
  .message ("could not get information about the resource " ++ info.name ++ " / " ++
    info.namespace ++ ": " ++ err.text)

section Filter

/- `get info` is `helper.Get(info.Namespace, info.Name)` for the client and the mapping of
`info`, by its error: `none` for `nil`. -/
variable (get : ResourceInfo → Option Error)

/-- One turn of the loop of `FilterExistingResources`, on the resources found so far and the
errors so far. -/
def filterStep (acc : List ResourceInfo × List Error) (info : ResourceInfo) :
    List ResourceInfo × List Error :=
  match get info with
  | some err => if isNotFound err then acc else (acc.1, acc.2 ++ [wrapGetError err info])
  | none => (acc.1 ++ [info], acc.2)

/-- `FilterExistingResources`: the resources found, and the `MultiError` of the failed lookups,
`none` for `nil`. -/
def filterExistingResources (resources : List ResourceInfo) :
    List ResourceInfo × Option MultiError :=
  let (existingResources, errs) := resources.foldl (filterStep get) ([], [])
  if 0 < errs.length then (existingResources, some ⟨errs⟩) else (existingResources, none)

/-- The error a resource adds to the `MultiError`: the error of its lookup, wrapped with its
name and namespace, unless the cluster did not find it. -/
def getFailure (info : ResourceInfo) : Option Error :=
  match get info with
  | some err => if isNotFound err then none else some (wrapGetError err info)
  | none => none

theorem getFailure_eq_none (info : ResourceInfo) :
    getFailure get info = none ↔ get info = none ∨ get info = some .notFound := by
  unfold getFailure
  rcases get info with _ | (_ | _ | _ | _) <;> simp [isNotFound]

theorem foldl_filterStep :
    ∀ (resources : List ResourceInfo) (acc : List ResourceInfo × List Error),
      resources.foldl (filterStep get) acc =
        (acc.1 ++ resources.filter (fun info => (get info).isNone),
          acc.2 ++ resources.filterMap (getFailure get))
  | [], acc => by simp
  | info :: resources, acc => by
    rw [List.foldl_cons, foldl_filterStep resources, List.filter_cons, List.filterMap_cons]
    unfold filterStep getFailure
    rcases get info with _ | err
    · simp
    · by_cases h : isNotFound err <;> simp [h]

/-- `FilterExistingResources` splits the resources by the cluster's answers. It returns, in
order, the resources the cluster found. It fails exactly when a lookup failed other than by
`NotFound`, with one error per such resource, in order, each naming it. A resource the cluster
did not find is dropped without an error. -/
theorem filterExistingResources_partition (resources : List ResourceInfo) :
    (filterExistingResources get resources).1 = resources.filter (fun info => (get info).isNone) ∧
      (filterExistingResources get resources).2.map MultiError.errs =
        (match resources.filterMap (getFailure get) with
          | [] => none
          | errs => some errs) ∧
      ((filterExistingResources get resources).2 = none ↔
        ∀ info ∈ resources, get info = none ∨ get info = some .notFound) := by
  have hfold := foldl_filterStep get resources ([], [])
  rw [List.nil_append, List.nil_append] at hfold
  have hnil : resources.filterMap (getFailure get) = [] ↔
      ∀ info ∈ resources, get info = none ∨ get info = some .notFound := by
    simp only [List.filterMap_eq_nil_iff, getFailure_eq_none]
  rw [← hnil]
  unfold filterExistingResources
  rw [hfold]
  rcases resources.filterMap (getFailure get) with _ | ⟨e, es⟩ <;> simp

end Filter

/-! ### Hashing -/

/-- The 32-bit FNV offset basis of `hash/fnv`. -/
def offset32 : UInt32 := 2166136261

/-- The 32-bit FNV prime of `hash/fnv`. -/
def prime32 : UInt32 := 16777619

/-- `fnv.New32a()`, `h.Write(data)` and `h.Sum32()`: each byte is xored into the hash, which is
then multiplied by the prime modulo `2^32`. -/
def fnv32a (data : List UInt8) : UInt32 :=
  data.foldl (fun hash c => (hash ^^^ c.toUInt32) * prime32) offset32

example : fnv32a [0x61] = 0xe40c292c := by decide

/-- `CalculateHash`, for `json.Marshal` as `marshal`: the hash, and the error. -/
def calculateHash {α : Type} (marshal : α → Except Error (List UInt8))
    (interfaceToBeHashed : α) : UInt32 × Option Error :=
  match marshal interfaceToBeHashed with
  | .error err => (0, some err)
  | .ok data => (fnv32a data, none)

end ModuleManager
