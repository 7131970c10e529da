import Mathlib.Data.List.AList

/-!
# Objects of the declarative reconciler

The data that the reconciler of `pkg/declarative` reads and writes. A custom resource as the
API server persists it (`Resource`) has the part of `metav1.ObjectMeta` the reconciler touches,
a spec and a status. The reconciler sees it through a typed Go value (`CustomObject`, the
resource together with what its Go type supplies) or through a schema-less attribute tree
(`Unstructured`, in `ModuleManager.Declarative.Unstructured`).

The package `types` of the operator, which declares the spec, the status and the state
constants, is not among the sources; those declarations are modelled from the specification
and say so.

## Main definitions

* `StringMap`: a Go `map[string]string`.
* `ObjectMeta`, `CustomObjectSpec`, `CustomObjectStatus`, `Resource`, `CustomObject`.
* `customStateProcessing`, `customStateReady`, `customStateError`, `customStateDeleting`.
* `Error`, `getTypeError`, `ignoreNotFound`.
-/

namespace ModuleManager

/-- A Go `map[string]string`: its keys are distinct and its iteration order is unspecified.
Where a `nil` map behaves differently from an empty one it is written `Option StringMap`. -/
abbrev StringMap := AList fun _ : String => String

/-- A `metav1.Time`: the instant as the whole seconds after Go's zero time, January 1 of year 1,
UTC (negative before it), and the nanoseconds within the second. -/
structure Time where
  sec : Int
  nsec : Nat
  nsec_lt : nsec < 1000000000
  deriving DecidableEq, Repr

namespace Time

/-- `(*metav1.Time).IsZero`: a `nil` pointer or the zero time. -/
def IsZero : Option Time → Bool
  | none => true
  | some t => t.sec == 0 && t.nsec == 0

@[simp] theorem isZero_none : IsZero none = true := rfl

end Time

/-- The fields of `metav1.ObjectMeta` that the reconciler and the API server's handling of its
writes read. `labels = none` is a `nil` label map. -/
structure ObjectMeta where
  name : String
  «namespace» : String
  labels : Option StringMap
  finalizers : List String
  deletionTimestamp : Option Time
  resourceVersion : Nat

/-- Modelled from the spec: `types.CustomObjectSpec` is not among the sources. The spec is "a
chart locator (path or reference), release name, free-form configuration flags". -/
structure CustomObjectSpec where
  chartPath : String
  releaseName : String
  chartFlags : String
  deriving DecidableEq, Repr

/-- Modelled from the spec: the install snapshot a status condition records. -/
structure InstallItem where
  chartPath : String
  releaseName : String
  deriving DecidableEq, Repr

/-- Modelled from the spec: a status condition, `{type, lastTransitionTime, installInfo}`. -/
structure CustomObjectCondition where
  type : String
  lastTransitionTime : Option Time
  installInfo : InstallItem
  deriving DecidableEq, Repr

/-- Modelled from the spec: `types.CustomObjectStatus`, a `State` string and the ordered
conditions. The empty state `""` is the initial one. -/
structure CustomObjectStatus where
  state : String := ""
  conditions : List CustomObjectCondition := []
  deriving DecidableEq, Repr

/-- Modelled from the spec: `types.CustomStateProcessing`. -/
def customStateProcessing : String := "Processing"

/-- Modelled from the spec: `types.CustomStateReady`. -/
def customStateReady : String := "Ready"

/-- Modelled from the spec: `types.CustomStateError`. -/
def customStateError : String := "Error"

/-- Modelled from the spec: `types.CustomStateDeleting`. -/
def customStateDeleting : String := "Deleting"

/-- The finalizer the reconciler owns, `deletionFinalizer`. -/
def deletionFinalizer : String := "custom-deletion-finalizer"

/-- A custom resource as the API server persists it. -/
structure Resource where
  metadata : ObjectMeta
  spec : CustomObjectSpec
  status : CustomObjectStatus

/-- A value of the user's Go type implementing `types.CustomObject`: the resource, and the
component name its `ComponentName` method supplies. -/
structure CustomObject extends Resource where
  componentName : String

/-- The errors a pass can return: the error of `getTypeError` for the object key it names, the
`NotFound` and `Conflict` status errors of the API server (the latter for a write that carried a
stale resource version), and any other error, by its text. Errors of the API server are told
apart by kind, all others by their text. -/
inductive Error
  | typeError (namespacedName : String)
  | notFound
  | conflict
  | message (text : String)
  deriving DecidableEq, Repr

/-- `getTypeError`. -/
def getTypeError (namespacedName : String) : Error :=
  .typeError namespacedName

/-- The text of an error, `err.Error()`. -/
def Error.text : Error → String
  | .typeError n => "invalid custom resource object type for reconciliation " ++ n
  | .notFound => "not found"
  | .conflict => "the object has been modified; please apply your changes to the latest version"
  | .message t => t

/-- `client.IgnoreNotFound`. -/
def ignoreNotFound : Error → Option Error
  | .notFound => none
  | e => some e

/-- A `types.NamespacedName`. -/
structure NamespacedName where
  «namespace» : String
  name : String
  deriving DecidableEq, Repr

/-- `NamespacedName.String`. -/
def NamespacedName.toString (n : NamespacedName) : String :=
  n.«namespace» ++ "/" ++ n.name

/-- A `ctrl.Request`. -/
structure Request where
  namespacedName : NamespacedName
  deriving DecidableEq, Repr

/-! ### The state constants are distinct -/

@[simp] theorem customStateDeleting_ne_empty : customStateDeleting ≠ "" := by decide
@[simp] theorem customStateDeleting_ne_processing : customStateDeleting ≠ customStateProcessing := by
  decide
@[simp] theorem customStateDeleting_ne_ready : customStateDeleting ≠ customStateReady := by decide
@[simp] theorem customStateDeleting_ne_error : customStateDeleting ≠ customStateError := by decide
@[simp] theorem customStateError_ne_processing : customStateError ≠ customStateProcessing := by
  decide
@[simp] theorem customStateError_ne_ready : customStateError ≠ customStateReady := by decide
@[simp] theorem customStateProcessing_ne_empty : customStateProcessing ≠ "" := by decide
@[simp] theorem customStateProcessing_ne_ready : customStateProcessing ≠ customStateReady := by
  decide
@[simp] theorem customStateError_ne_empty : customStateError ≠ "" := by decide
@[simp] theorem customStateReady_ne_empty : customStateReady ≠ "" := by decide

end ModuleManager
