import ModuleManager.Declarative.Accessor

/-!
# The manifest reconciler

`ManifestReconciler.Reconcile` and its five handlers, as the source computes them. A pass reads
the resource under the requested key through the API client, and then either records deletion
intent in the status, adds the reconciler's finalizer, or dispatches on the status' state to one
handler. Every handler ends in at most one write to the API server, whose answer the pass
returns; `HandleProcessingState` and `HandleDeletingState` call the installer before it.

A pass is modelled by what it does (`Run`): the handler it dispatched to, the installer calls it
made with the answers it got, how it ended (`Ending`: an error value, its one write, or a
panic), and the reconciler after it, whose options `HandleInitialState` changes. The answer of
the API server to the write is applied afterwards (`Ending.returned`), so that the write can be
committed later than the pass read, as the optimistic concurrency of the API server has it.

The collaborators are arguments: the API client (`Client`), and the manifest library with
helm's flag parser (`ManifestEnv`), which builds the installer (`Operations`).

## Main definitions

* `ManifestOptions`, `ManifestReconciler`, `ManifestReconciler.applyOptions`,
  `ManifestReconciler.inject`.
* `ManifestReconciler.getManifestClient`, `ManifestReconciler.prepareInstallInfo`.
* `ManifestReconciler.handleInitialState`, `handleProcessingState`, `handleDeletingState`,
  `handleErrorState`, `handleReadyState`, `ManifestReconciler.reconcile`.
-/

namespace ModuleManager

open BaseCustomObject

/-- A `*rest.Config`, by the host of the cluster it addresses. -/
structure RestConfig where
  host : String
  deriving DecidableEq, Repr

/-- `manifestOptions`. -/
structure ManifestOptions where
  force : Bool := false
  verify : Bool := false
  resourceLabels : StringMap := ∅

/-- `reconcilerOption`. -/
abbrev ReconcilerOption := ManifestOptions → ManifestOptions

/-- The fields of `ManifestReconciler` that a pass reads. -/
structure ManifestReconciler where
  prototype : BaseCustomObject
  config : RestConfig
  options : ManifestOptions

/-- `manifest.InstallInfo`, by the data `prepareInstallInfo` hands to the installer. -/
structure InstallInfo where
  chartPath : String
  releaseName : String
  remoteConfig : RestConfig
  baseResource : Unstructured
  checkReadyStates : Bool

/-- `*manifest.Operations`, the installer. -/
structure Operations where
  install : InstallInfo → Except Error Bool
  uninstall : InstallInfo → Except Error Bool

/-- The manifest library and helm's flag parser, as a pass calls them: `strvals.ParseInto` into
an empty map (`parseInto`), and `manifest.NewOperations` for a rest config, a release name and
the flag maps (`newOperations`). -/
structure ManifestEnv where
  parseInto : String → Except Error JsonObject
  newOperations : RestConfig → String → List (String × JsonObject) → Except Error Operations

/-- `r.nativeClient`, the API server as a pass sees it: `Get` decodes the persisted resource,
and the two writes are answered with an error or `nil`. -/
structure Client where
  get : NamespacedName → Except Error Resource
  update : BaseCustomObject → Option Error
  statusUpdate : BaseCustomObject → Option Error

/-- How a Go call that can panic ends. -/
inductive GoResult (α : Type)
  | ok (a : α)
  | error (e : Error)
  | panic (msg : String)

/-- The write a pass ends with: `r.nativeClient.Update(ctx, obj)` of metadata and spec, or
`r.nativeClient.Status().Update(ctx, obj)` of the status. -/
inductive Write
  | update (obj : BaseCustomObject)
  | statusUpdate (obj : BaseCustomObject)

/-- How a handler or a pass ends: `return err`, with `none` for `nil`; `return` of the API
server's answer to a write; or a run-time panic. -/
inductive Ending
  | ret (err : Option Error)
  | write (w : Write)
  | panic (msg : String)

/-- A call of the installer, with the answer it got. -/
inductive InstallerCall
  | install (info : InstallInfo) (answer : Except Error Bool)
  | uninstall (info : InstallInfo) (answer : Except Error Bool)

/-- The handlers `Reconcile` dispatches to. -/
inductive Handler
  | initialState
  | processingState
  | deletingState
  | errorState
  | readyState
  deriving DecidableEq, Repr

/-- What a handler or a pass did. -/
structure Run where
  handler : Option Handler := none
  calls : List InstallerCall := []
  ending : Ending
  reconciler : ManifestReconciler

/-- The copy of a typed prototype into which `Get` decodes a persisted resource. -/
def CustomObject.decode (proto : CustomObject) (res : Resource) : CustomObject :=
  { proto with toResource := res }

@[simp] theorem CustomObject.decode_metadata (proto : CustomObject) (res : Resource) :
    (proto.decode res).metadata = res.metadata := rfl

@[simp] theorem CustomObject.decode_spec (proto : CustomObject) (res : Resource) :
    (proto.decode res).spec = res.spec := rfl

@[simp] theorem CustomObject.decode_status (proto : CustomObject) (res : Resource) :
    (proto.decode res).status = res.status := rfl

/-- The answer of the API server to a write. -/
def Client.answer (c : Client) : Write → Option Error
  | .update obj => c.update obj
  | .statusUpdate obj => c.statusUpdate obj

/-- What a pass finally does: return an error value, or panic. -/
inductive Returned
  | ret (err : Option Error)
  | panic (msg : String)
  deriving DecidableEq, Repr

/-- The value a pass returns once the API server answered its write. -/
def Ending.returned (c : Client) : Ending → Returned
  | .ret err => .ret err
  | .write w => .ret (c.answer w)
  | .panic msg => .panic msg

/-- The text of a nil pointer dereference. -/
def nilPointerDereference : String :=
  "runtime error: invalid memory address or nil pointer dereference"

/-- The text of an assignment into a `nil` map. -/
def nilMapAssignment : String :=
  "assignment to entry in nil map"

/-- `status.State = state`, `setStatusForObjectInstance`, and
`return r.nativeClient.Status().Update(ctx, objectInstance)`: the tail of every state write. -/
def commitState (objectInstance : BaseCustomObject) (status : CustomObjectStatus)
    (state : String) : Ending :=
  match setStatusForObjectInstance objectInstance { status with state } with
  | .error err => .ret (some err)
  | .ok obj => .write (.statusUpdate obj)

/-- `labels[key] = value`. -/
def mapAssign (labels : Option StringMap) (key value : String) : Except String StringMap :=
  match labels with
  | none => .error nilMapAssignment
  | some l => .ok (l.insert key value)

/-- `for key, value := range resourceLabels { labels[key] = value }`, in the order of the
entries. -/
def assignLabels (labels : Option StringMap) (resourceLabels : StringMap) :
    Except String (Option StringMap) :=
  resourceLabels.entries.foldlM (fun acc e => (mapAssign acc e.1 e.2).map some) labels

namespace ManifestReconciler

variable (r : ManifestReconciler) (m : ManifestEnv)

/-- `applyOptions`: the options from the zero value, each option applied in turn. -/
def applyOptions (opts : List ReconcilerOption) : ManifestReconciler :=
  { r with options := opts.foldl (fun params opt => opt params) {} }

/-- `Inject`, for the config the manager supplies. The options it is passed are not used. -/
def inject (config : RestConfig) (customObject : BaseCustomObject) :
    ManifestReconciler × Option Error :=
  let r := { r with prototype := customObject, config }
  match getComponentName customObject with
  | .error _ => (r, some (getTypeError (objectKey customObject).toString))
  | .ok _ => (r, none)

/-- `getManifestClient`. -/
def getManifestClient (configString : String) : Except Error Operations :=
  match m.parseInto configString with
  | .error err => .error err
  | .ok config => m.newOperations r.config "nginx-release-name" [("set", []), ("flags", config)]

/-- `prepareInstallInfo`. On a typed value the assignment
`unstructuredObj.Object, err = ...ToUnstructured(typedObject)` writes through the `nil` pointer
`unstructuredObj`. -/
def prepareInstallInfo (objectInstance : BaseCustomObject) (chartPath releaseName : String) :
    GoResult InstallInfo :=
  match objectInstance with
  | customObject _ => .panic nilPointerDereference
  | unstructured u =>
    .ok { chartPath := chartPath, releaseName := releaseName, remoteConfig := r.config
          baseResource := u, checkReadyStates := true }
  | other meta => .error (getTypeError (objectKey (other meta)).toString)

/-- `HandleInitialState`. -/
def handleInitialState (objectInstance : BaseCustomObject) : Run :=
  match getStatusFromObjectInstance objectInstance with
  | .error err => { ending := .ret (some err), reconciler := r }
  | .ok status =>
    if 0 < r.options.resourceLabels.entries.length then
      match assignLabels objectInstance.getLabels r.options.resourceLabels with
      | .error msg => { ending := .panic msg, reconciler := r }
      | .ok labels =>
        { ending := .write (.update (objectInstance.setLabels labels))
          reconciler := { r with options := { r.options with resourceLabels := ∅ } } }
    else { ending := commitState objectInstance status customStateProcessing, reconciler := r }

/-- `HandleProcessingState`. -/
def handleProcessingState (objectInstance : BaseCustomObject) : Run :=
  match getSpecFromObjectInstance objectInstance with
  | .error err => { ending := .ret (some err), reconciler := r }
  | .ok spec =>
  match getStatusFromObjectInstance objectInstance with
  | .error err => { ending := .ret (some err), reconciler := r }
  | .ok status =>
  match r.getManifestClient m spec.chartFlags with
  | .error _ => { ending := commitState objectInstance status customStateError, reconciler := r }
  | .ok manifestClient =>
  match r.prepareInstallInfo objectInstance spec.chartPath spec.releaseName with
  | .panic msg => { ending := .panic msg, reconciler := r }
  | .error err => { ending := .ret (some err), reconciler := r }
  | .ok installInfo =>
    let answer := manifestClient.install installInfo
    { calls := [.install installInfo answer], reconciler := r
      ending := match answer with
        | .error _ => commitState objectInstance status customStateError
        | .ok true => commitState objectInstance status customStateReady
        | .ok false => .ret none }

/-- `HandleDeletingState`. -/
def handleDeletingState (objectInstance : BaseCustomObject) : Run :=
  match getSpecFromObjectInstance objectInstance with
  | .error err => { ending := .ret (some err), reconciler := r }
  | .ok spec =>
  match getStatusFromObjectInstance objectInstance with
  | .error err => { ending := .ret (some err), reconciler := r }
  | .ok status =>
  match r.getManifestClient m spec.chartFlags with
  | .error _ => { ending := commitState objectInstance status customStateError, reconciler := r }
  | .ok manifestClient =>
  match r.prepareInstallInfo objectInstance spec.chartPath spec.releaseName with
  | .panic msg => { ending := .panic msg, reconciler := r }
  | .error err => { ending := .ret (some err), reconciler := r }
  | .ok installInfo =>
    let answer := manifestClient.uninstall installInfo
    { calls := [.uninstall installInfo answer], reconciler := r
      ending := match answer with
        | .error _ => commitState objectInstance status customStateError
        | .ok true =>
          match removeFinalizer objectInstance deletionFinalizer with
          | (obj, true) => .write (.update obj)
          | (_, false) => .ret none
        | .ok false => .ret none }

/-- `HandleErrorState`. -/
def handleErrorState (objectInstance : BaseCustomObject) : Run :=
  match getStatusFromObjectInstance objectInstance with
  | .error err => { ending := .ret (some err), reconciler := r }
  | .ok status => { ending := commitState objectInstance status customStateProcessing, reconciler := r }

/-- `HandleReadyState`. -/
def handleReadyState : Run :=
  { ending := .ret none, reconciler := r }

/-- The `switch status.State` at the end of `Reconcile`. -/
def dispatch (objectInstance : BaseCustomObject) (state : String) : Run :=
  if state = "" then
    { r.handleInitialState objectInstance with handler := some .initialState }
  else if state = customStateProcessing then
    { r.handleProcessingState m objectInstance with handler := some .processingState }
  else if state = customStateDeleting then
    { r.handleDeletingState m objectInstance with handler := some .deletingState }
  else if state = customStateError then
    { r.handleErrorState objectInstance with handler := some .errorState }
  else if state = customStateReady then
    { r.handleReadyState with handler := some .readyState }
  else { ending := .ret none, reconciler := r }

/-- `Reconcile`. The type assertion `r.prototype.DeepCopyObject().(types.CustomObject)` holds
of typed prototypes only, and `Get` decodes the persisted resource into the copy. -/
def reconcile (c : Client) (req : Request) : Run :=
  match r.prototype with
  | customObject proto =>
    match c.get req.namespacedName with
    | .error err => { ending := .ret (ignoreNotFound err), reconciler := r }
    | .ok res =>
      let objectInstance := customObject (proto.decode res)
      match getStatusFromObjectInstance objectInstance with
      | .error err => { ending := .ret (some err), reconciler := r }
      | .ok status =>
        if !Time.IsZero objectInstance.getDeletionTimestamp && status.state != customStateDeleting
        then { ending := commitState objectInstance status customStateDeleting, reconciler := r }
        else
          match addFinalizer objectInstance deletionFinalizer with
          | (obj, true) => { ending := .write (.update obj), reconciler := r }
          | (_, false) => r.dispatch m objectInstance status.state
  | _ => { ending := .ret (some (getTypeError req.namespacedName.toString)), reconciler := r }

end ManifestReconciler

end ModuleManager
