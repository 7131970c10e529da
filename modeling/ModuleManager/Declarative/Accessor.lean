import ModuleManager.Declarative.Unstructured

/-!
# Reading and writing either representation

A `BaseCustomObject` interface value holds a value of the user's typed resource, an
`*unstructured.Unstructured`, or some other Kubernetes object. Every accessor of the reconciler
switches on which (`setStatusForObjectInstance`, `getStatusFromObjectInstance`,
`getSpecFromObjectInstance`, `GetComponentName`), and fails with `getTypeError` on the third.
The `metav1.Object` methods and `controllerutil.AddFinalizer` / `RemoveFinalizer` read and
write the metadata of all three.

On a typed value every accessor is a field projection or update and never fails
(`getStatusFromObjectInstance_customObject` and its neighbours); the proofs about the
reconciler rely on these lemmas only. On an `*unstructured.Unstructured`, setting the status
always fails, because `setStatusForObjectInstance` passes the status struct to `ToUnstructured`
by value where the converter needs a pointer (`setStatusForObjectInstance_unstructured_fails`).

## Main results

* `setStatusForObjectInstance_unstructured_fails`: the status accessors on the two
  representations.
-/

namespace ModuleManager

/-- The dynamic type behind a `BaseCustomObject` interface value: a value of a type implementing
`types.CustomObject`, an `*unstructured.Unstructured`, or any other `runtime.Object` that is a
`metav1.Object`, by its metadata. -/
inductive BaseCustomObject
  | customObject (o : CustomObject)
  | unstructured (u : Unstructured)
  | other (meta : ObjectMeta)

namespace BaseCustomObject

/-! ### The `metav1.Object` methods -/

/-- `GetLabels`; `none` is the `nil` map. -/
def getLabels : BaseCustomObject → Option StringMap
  | customObject o => o.metadata.labels
  | unstructured u => u.getLabels
  | other m => m.labels

/-- `SetLabels`. -/
def setLabels (l : Option StringMap) : BaseCustomObject → BaseCustomObject
  | customObject o => customObject { o with metadata := { o.metadata with labels := l } }
  | unstructured u => unstructured (u.setLabels l)
  | other m => other { m with labels := l }

/-- `GetFinalizers`. -/
def getFinalizers : BaseCustomObject → List String
  | customObject o => o.metadata.finalizers
  | unstructured u => u.getFinalizers
  | other m => m.finalizers

/-- `SetFinalizers`. -/
def setFinalizers (fs : List String) : BaseCustomObject → BaseCustomObject
  | customObject o => customObject { o with metadata := { o.metadata with finalizers := fs } }
  | unstructured u => unstructured (u.setFinalizers fs)
  | other m => other { m with finalizers := fs }

/-- `GetDeletionTimestamp`. -/
def getDeletionTimestamp : BaseCustomObject → Option Time
  | customObject o => o.metadata.deletionTimestamp
  | unstructured u => u.getDeletionTimestamp
  | other m => m.deletionTimestamp

/-- `GetResourceVersion`. -/
def getResourceVersion : BaseCustomObject → Nat
  | customObject o => o.metadata.resourceVersion
  | unstructured u => u.getResourceVersion
  | other m => m.resourceVersion

/-- `client.ObjectKeyFromObject`. -/
def objectKey : BaseCustomObject → NamespacedName
  | customObject o => ⟨o.metadata.namespace, o.metadata.name⟩
  | unstructured u => ⟨u.getNestedString ["metadata", "namespace"],
      u.getNestedString ["metadata", "name"]⟩
  | other m => ⟨m.namespace, m.name⟩

@[simp] theorem getFinalizers_setFinalizers_customObject (o : CustomObject) (fs : List String) :
    (setFinalizers fs (customObject o)).getFinalizers = fs := rfl

@[simp] theorem getFinalizers_setLabels_customObject (o : CustomObject) (l : Option StringMap) :
    (setLabels l (customObject o)).getFinalizers = o.metadata.finalizers := rfl

end BaseCustomObject

open BaseCustomObject

/-! ### Finalizers -/

/-- `controllerutil.AddFinalizer`: appends the finalizer unless it is there, and reports
whether it did. -/
def addFinalizer (o : BaseCustomObject) (finalizer : String) : BaseCustomObject × Bool :=
  if finalizer ∈ o.getFinalizers then (o, false)
  else (o.setFinalizers (o.getFinalizers ++ [finalizer]), true)

/-- `controllerutil.RemoveFinalizer`: removes every occurrence of the finalizer, and reports
whether there was one. -/
def removeFinalizer (o : BaseCustomObject) (finalizer : String) : BaseCustomObject × Bool :=
  (o.setFinalizers (o.getFinalizers.filter (· != finalizer)), finalizer ∈ o.getFinalizers)

/-! ### The accessors of the reconciler -/

/-- The error of `runtime.DefaultUnstructuredConverter.ToUnstructured` on a value that is not a
pointer, for the name of its type. -/
def toUnstructuredError (typeName : String) : Error :=
  .message ("ToUnstructured requires a non-nil pointer to an object, got " ++ typeName)

/-- `setStatusForObjectInstance`, returning the object it updated in place. On an
`*unstructured.Unstructured` it hands `ToUnstructured` the status struct itself, which the
converter refuses, so the `SetNestedMap` that follows is never reached. -/
def setStatusForObjectInstance (objectInstance : BaseCustomObject) (status : CustomObjectStatus) :
    Except Error BaseCustomObject :=
  match objectInstance with
  | customObject o => .ok (customObject { o with status })
  | unstructured _ => .error (.message ("unable to convert unstructured to addonStatus: " ++
      (toUnstructuredError "types.CustomObjectStatus").text))
  | other m => .error (getTypeError (objectKey (other m)).toString)

/-- `getStatusFromObjectInstance`. -/
def getStatusFromObjectInstance : BaseCustomObject → Except Error CustomObjectStatus
  | customObject o => .ok o.status
  | unstructured u =>
    match nestedMap u.object ["status"] with
    | .error e => .error (.message ("unable to get status from unstuctured: " ++ e.text))
    | .ok m => statusFromUnstructured (m.getD [])
  | other m => .error (getTypeError (objectKey (other m)).toString)

/-- `getSpecFromObjectInstance`. -/
def getSpecFromObjectInstance : BaseCustomObject → Except Error CustomObjectSpec
  | customObject o => .ok o.spec
  | unstructured u =>
    match nestedMap u.object ["spec"] with
    | .error e => .error (.message ("unable to get spec from unstuctured: " ++ e.text))
    | .ok m => specFromUnstructured (m.getD [])
  | other m => .error (getTypeError (objectKey (other m)).toString)

/-- `GetComponentName`. -/
def getComponentName : BaseCustomObject → Except Error String
  | customObject o => .ok o.componentName
  | unstructured u => .ok (u.getNestedString ["kind"]).toLower
  | other m => .error (getTypeError (objectKey (other m)).toString)

/-! ### On a typed value the accessors are projections -/

section CustomObject

variable (o : CustomObject)

@[simp] theorem getStatusFromObjectInstance_customObject :
    getStatusFromObjectInstance (customObject o) = .ok o.status := rfl

@[simp] theorem getSpecFromObjectInstance_customObject :
    getSpecFromObjectInstance (customObject o) = .ok o.spec := rfl

@[simp] theorem setStatusForObjectInstance_customObject (status : CustomObjectStatus) :
    setStatusForObjectInstance (customObject o) status = .ok (customObject { o with status }) :=
  rfl

theorem addFinalizer_customObject (finalizer : String) :
    addFinalizer (customObject o) finalizer =
      if finalizer ∈ o.metadata.finalizers then (customObject o, false)
      else (customObject { o with metadata := { o.metadata with
        finalizers := o.metadata.finalizers ++ [finalizer] } }, true) := rfl

theorem removeFinalizer_customObject (finalizer : String) :
    removeFinalizer (customObject o) finalizer =
      (customObject { o with metadata := { o.metadata with
        finalizers := o.metadata.finalizers.filter (· != finalizer) } },
        decide (finalizer ∈ o.metadata.finalizers)) := rfl

end CustomObject

/-! ### Setting the status -/

/-- The status accessors on the two representations. On a typed value, setting a status
succeeds, and the status then reads back as set and the spec as before. On an
`*unstructured.Unstructured` setting any status fails: `ToUnstructured` is handed the status
struct, not a pointer to it, and refuses it. -/
theorem setStatusForObjectInstance_unstructured_fails (s : CustomObjectStatus) :
    (∀ o : CustomObject, ∃ o', setStatusForObjectInstance (customObject o) s = .ok o' ∧
      getStatusFromObjectInstance o' = .ok s ∧
      getSpecFromObjectInstance o' = getSpecFromObjectInstance (customObject o)) ∧
    ∀ u : Unstructured, setStatusForObjectInstance (unstructured u) s =
      .error (.message ("unable to convert unstructured to addonStatus: ToUnstructured " ++
        "requires a non-nil pointer to an object, got types.CustomObjectStatus")) :=
  ⟨fun _ => ⟨_, rfl, rfl, rfl⟩, fun _ => rfl⟩

theorem setStatusForObjectInstance_unstructured_fails_empty :
    setStatusForObjectInstance (unstructured ⟨[]⟩) {} =
      .error (.message ("unable to convert unstructured to addonStatus: ToUnstructured " ++
        "requires a non-nil pointer to an object, got types.CustomObjectStatus")) :=
  (setStatusForObjectInstance_unstructured_fails {}).2 ⟨[]⟩

end ModuleManager
