import ModuleManager.Declarative.Reconciler

/-!
# What one pass does

The behaviour of one pass of `ManifestReconciler.reconcile`, case by case. With a typed
prototype and a resource that `Get` returns, a pass records deletion intent in the status, adds
the deletion finalizer, or dispatches on the state (`reconcile_of_get`, `dispatch_eq`). Each
handler writes one of a few states, makes at most one installer call, and writes metadata only
to apply labels or, after a successful uninstall, to remove the finalizer (`handle_calls`,
`handle_statusUpdate`, `handle_update`). Every property of a pass below is assembled from these
lemmas, and none depends on what `prepareInstallInfo` does to a typed value, except where that
is the point.

## Main definitions

* `Handler.state`, `ManifestReconciler.handle`: the state each handler is dispatched on, and
  the handler as a function.
* `StateTransition`: the changes of state a pass makes.
-/

namespace ModuleManager

open BaseCustomObject

/-- The deletion intent of a resource: a non-zero deletion timestamp. -/
def Resource.deletionRequested (res : Resource) : Bool :=
  !Time.IsZero res.metadata.deletionTimestamp

namespace CustomObject

variable (o : CustomObject)

/-- The value with the state of its status set. -/
def withState (s : String) : CustomObject :=
  { o with status := { o.status with state := s } }

/-- The value with its labels set. -/
def withLabels (l : Option StringMap) : CustomObject :=
  { o with metadata := { o.metadata with labels := l } }

/-- The value with its finalizers set. -/
def withFinalizers (fs : List String) : CustomObject :=
  { o with metadata := { o.metadata with finalizers := fs } }

end CustomObject

@[simp] theorem commitState_customObject (o : CustomObject) (s : String) :
    commitState (customObject o) o.status s = .write (.statusUpdate (customObject (o.withState s))) :=
  rfl

/-- The state a pass writes, when it ends with a status write. -/
def Ending.writtenState : Ending → Option String
  | .write (.statusUpdate obj) =>
    match getStatusFromObjectInstance obj with
    | .ok status => some status.state
    | .error _ => none
  | _ => none

/-- The state `Reconcile` dispatches on to reach a handler. -/
def Handler.state : Handler → String
  | .initialState => ""
  | .processingState => customStateProcessing
  | .deletingState => customStateDeleting
  | .errorState => customStateError
  | .readyState => customStateReady

/-- The handler a state dispatches to. -/
def Handler.ofState (s : String) : Option Handler :=
  if s = "" then some .initialState
  else if s = customStateProcessing then some .processingState
  else if s = customStateDeleting then some .deletingState
  else if s = customStateError then some .errorState
  else if s = customStateReady then some .readyState
  else none

theorem Handler.eq_deletingState_of_state {h : Handler} (hs : h.state = customStateDeleting) :
    h = .deletingState := by
  cases h <;> simp_all [Handler.state, customStateProcessing, customStateDeleting,
    customStateError, customStateReady]

theorem Handler.ofState_eq_some {s : String} {h : Handler} : Handler.ofState s = some h ↔ s = h.state := by
  refine ⟨fun hs => ?_, by rintro rfl; cases h <;> rfl⟩
  unfold ofState at hs
  split_ifs at hs <;> cases hs <;> assumption

/-- The changes of state a pass makes, by the deletion intent it read. -/
inductive StateTransition : Bool → String → String → Prop
  | markProcessing : StateTransition false "" customStateProcessing
  | installed : StateTransition false customStateProcessing customStateReady
  | installFailed : StateTransition false customStateProcessing customStateError
  | retry : StateTransition false customStateError customStateProcessing
  | markDeleting {x : String} (hx : x ≠ customStateDeleting) : StateTransition true x customStateDeleting
  | uninstallFailed (d : Bool) : StateTransition d customStateDeleting customStateError

/-- With deletion intent a pass writes only `Deleting` and `Error`. -/
theorem StateTransition.of_deletionRequested {x s : String} (h : StateTransition true x s) :
    s = customStateDeleting ∨ s = customStateError := by
  cases h
  · exact .inl rfl
  · exact .inr rfl

/-- Only the recording of deletion intent writes `Deleting`. -/
theorem StateTransition.deletionRequested_of_deleting {d : Bool} {x s : String}
    (h : StateTransition d x s) (hs : s = customStateDeleting) : d = true := by
  cases h <;> simp_all [customStateDeleting, customStateProcessing, customStateError,
    customStateReady]

/-- A handler's transition read without deletion intent is one with the deletion intent a pass
dispatched under: dispatch happens with deletion intent only from `Deleting`. -/
theorem StateTransition.of_dispatch {d : Bool} {x s : String}
    (hd : ¬(d = true ∧ x ≠ customStateDeleting)) (h : StateTransition false x s) :
    StateTransition d x s := by
  cases d
  · exact h
  · have hx : x = customStateDeleting := by simpa using hd
    cases h with
    | uninstallFailed => exact .uninstallFailed true
    | _ => simp [customStateDeleting, customStateProcessing, customStateError] at hx

/-! ### Copying the configured labels -/

/-- The label map after the configured entries are inserted in order. -/
def insertAll (l : StringMap) (es : List (Sigma fun _ : String => String)) : StringMap :=
  es.foldl (fun acc e => acc.insert e.1 e.2) l

theorem assignLabels_some (l L : StringMap) :
    assignLabels (some l) L = .ok (some (insertAll l L.entries)) := by
  unfold assignLabels insertAll
  generalize L.entries = es
  induction es generalizing l with
  | nil => rfl
  | cons e es ih => exact ih _

theorem assignLabels_none {L : StringMap} (hL : L.entries ≠ []) :
    assignLabels none L = .error nilMapAssignment := by
  unfold assignLabels
  cases h : L.entries with
  | nil => exact absurd h hL
  | cons e es => rfl

namespace ManifestReconciler

variable (r : ManifestReconciler) (m : ManifestEnv)

/-- The reconciler with its configured labels consumed, as `HandleInitialState` leaves it. -/
def clearResourceLabels : ManifestReconciler :=
  { r with options := { r.options with resourceLabels := ∅ } }

/-- The handlers as one function. -/
def handle (objectInstance : BaseCustomObject) : Handler → Run
  | .initialState => r.handleInitialState objectInstance
  | .processingState => r.handleProcessingState m objectInstance
  | .deletingState => r.handleDeletingState m objectInstance
  | .errorState => r.handleErrorState objectInstance
  | .readyState => r.handleReadyState

theorem dispatch_eq (objectInstance : BaseCustomObject) (s : String) :
    r.dispatch m objectInstance s =
      match Handler.ofState s with
      | some h => { r.handle m objectInstance h with handler := some h }
      | none => { ending := .ret none, reconciler := r } := by
  simp only [dispatch, Handler.ofState, apply_ite (fun o : Option Handler => match o with
      | some h => ({ r.handle m objectInstance h with handler := some h } : Run)
      | none => { ending := .ret none, reconciler := r })]
  rfl

/-! ### What each handler does to a typed value -/

section Handlers

variable {r m} (o : CustomObject)

/-- Only `HandleProcessingState` installs and only `HandleDeletingState` uninstalls, each at
most once. -/
theorem handle_calls (h : Handler) :
    (r.handle m (customObject o) h).calls = [] ∨
      (h = .processingState ∧ ∃ info a, (r.handle m (customObject o) h).calls = [.install info a]) ∨
      (h = .deletingState ∧ ∃ info a, (r.handle m (customObject o) h).calls = [.uninstall info a]) := by
  cases h <;>
    simp only [handle, handleInitialState, handleProcessingState, handleDeletingState,
      handleErrorState, handleReadyState, getSpecFromObjectInstance_customObject,
      getStatusFromObjectInstance_customObject] <;>
    repeat' split
  all_goals simp

/-- The states a handler writes: the transitions of the state it is dispatched on, read without
deletion intent. -/
theorem handle_statusUpdate {h : Handler} {obj : BaseCustomObject}
    (he : (r.handle m (customObject o) h).ending = .write (.statusUpdate obj)) :
    ∃ s, obj = customObject (o.withState s) ∧ StateTransition false h.state s := by
  cases h <;>
    simp only [handle, handleInitialState, handleProcessingState, handleDeletingState,
      handleErrorState, handleReadyState, getSpecFromObjectInstance_customObject,
      getStatusFromObjectInstance_customObject, commitState_customObject] at he <;>
    repeat' split at he
  all_goals cases he <;> exact ⟨_, rfl, by constructor⟩

/-- A handler writes metadata only to apply the configured labels, or to remove the deletion
finalizer after `Uninstall` answered `(true, nil)`. -/
theorem handle_update {h : Handler} {obj : BaseCustomObject}
    (he : (r.handle m (customObject o) h).ending = .write (.update obj)) :
    (h = .initialState ∧ ∃ l, obj = customObject (o.withLabels l)) ∨
      (h = .deletingState ∧ deletionFinalizer ∈ o.metadata.finalizers ∧
        obj = customObject (o.withFinalizers
          (o.metadata.finalizers.filter (· != deletionFinalizer))) ∧
        ∃ info, (r.handle m (customObject o) h).calls = [.uninstall info (.ok true)]) := by
  cases h <;>
    simp only [handle, handleInitialState, handleProcessingState, handleDeletingState,
      handleErrorState, handleReadyState, getSpecFromObjectInstance_customObject,
      getStatusFromObjectInstance_customObject, commitState_customObject,
      removeFinalizer_customObject] at he ⊢ <;>
    repeat' split at he
  all_goals cases he
  · exact .inl ⟨trivial, _, rfl⟩
  · simp_all [CustomObject.withFinalizers]

/-- Only `HandleInitialState` changes the reconciler: when labels are configured and the value
has labels, it writes them overridden by the configured ones and consumes the configured map. -/
theorem handle_reconciler (h : Handler) :
    (r.handle m (customObject o) h).reconciler = r ∨
      (h = .initialState ∧ r.options.resourceLabels.entries ≠ [] ∧
        (∃ l, o.metadata.labels = some l ∧ (r.handle m (customObject o) h).ending =
          .write (.update (customObject
            (o.withLabels (some (insertAll l r.options.resourceLabels.entries)))))) ∧
        (r.handle m (customObject o) h).reconciler = r.clearResourceLabels) := by
  cases h
  case initialState =>
    by_cases hL : r.options.resourceLabels.entries = []
    · exact .inl (by simp [handle, handleInitialState, hL])
    rcases hl : o.metadata.labels with _ | l
    · exact .inl (by simp [handle, handleInitialState, List.length_pos.2 hL, getLabels, hl,
        assignLabels_none hL])
    · refine .inr ⟨rfl, hL, ⟨l, rfl, ?_⟩, ?_⟩ <;>
        simp [handle, handleInitialState, List.length_pos.2 hL, getLabels, hl,
          assignLabels_some] <;>
        rfl
  all_goals
    refine .inl ?_
    simp only [handle, handleProcessingState, handleDeletingState, handleErrorState,
      handleReadyState, getSpecFromObjectInstance_customObject,
      getStatusFromObjectInstance_customObject]
    repeat' split
    all_goals rfl

/-- On a typed value a handler returns no error of its own: its accessors cannot fail, and
`prepareInstallInfo` panics rather than fail. -/
theorem handle_ending_ne_ret_some (h : Handler) (e : Error) :
    (r.handle m (customObject o) h).ending ≠ .ret (some e) := by
  cases h <;>
    simp only [handle, handleInitialState, handleProcessingState, handleDeletingState,
      handleErrorState, handleReadyState, getSpecFromObjectInstance_customObject,
      getStatusFromObjectInstance_customObject, commitState_customObject, prepareInstallInfo] <;>
    repeat' split
  all_goals simp

end Handlers

/-- `Reconcile` with a typed prototype, on a resource that `Get` returns. -/
theorem reconcile_of_get {c : Client} {req : Request} {proto : CustomObject} {res : Resource}
    (hp : r.prototype = customObject proto) (hg : c.get req.namespacedName = .ok res) :
    r.reconcile m c req =
      let o := proto.decode res
      if res.deletionRequested ∧ res.status.state ≠ customStateDeleting then
        { ending := .write (.statusUpdate (customObject (o.withState customStateDeleting)))
          reconciler := r }
      else if deletionFinalizer ∈ res.metadata.finalizers then
        r.dispatch m (customObject o) res.status.state
      else
        { ending := .write (.update (customObject
            (o.withFinalizers (res.metadata.finalizers ++ [deletionFinalizer]))))
          reconciler := r } := by
  simp only [reconcile, hp, hg, getStatusFromObjectInstance_customObject, getDeletionTimestamp,
    addFinalizer_customObject, CustomObject.decode_metadata, CustomObject.decode_status,
    Resource.deletionRequested, Bool.and_eq_true, bne_iff_ne, ne_eq]
  split_ifs <;> rfl

end ManifestReconciler

/-! ### The ways a pass goes -/

open ManifestReconciler

/-- The ways a pass of `Reconcile` goes, with the run each one makes: the prototype is not typed
and the type assertion fails (`typeError`); `Get` fails, a missing resource being no error
(`getFailed`); deletion intent is recorded in the status (`markDeleting`); the deletion
finalizer is added (`addFinalizer`); the state is none that the switch names (`unknownState`);
or the pass dispatches to the handler of the state (`dispatch`). -/
inductive PassCase (r : ManifestReconciler) (m : ManifestEnv) (c : Client) (req : Request) :
    Run → Prop
  | typeError (hp : ∀ proto, r.prototype ≠ customObject proto) :
      PassCase r m c req
        { ending := .ret (some (getTypeError req.namespacedName.toString)), reconciler := r }
  | getFailed {proto : CustomObject} {err : Error} (hp : r.prototype = customObject proto)
      (hg : c.get req.namespacedName = .error err) :
      PassCase r m c req { ending := .ret (ignoreNotFound err), reconciler := r }
  | markDeleting {proto : CustomObject} {res : Resource} (hp : r.prototype = customObject proto)
      (hg : c.get req.namespacedName = .ok res)
      (hd : res.deletionRequested ∧ res.status.state ≠ customStateDeleting) :
      PassCase r m c req
        { ending := .write (.statusUpdate
            (customObject ((proto.decode res).withState customStateDeleting)))
          reconciler := r }
  | addFinalizer {proto : CustomObject} {res : Resource} (hp : r.prototype = customObject proto)
      (hg : c.get req.namespacedName = .ok res)
      (hd : ¬(res.deletionRequested ∧ res.status.state ≠ customStateDeleting))
      (hf : deletionFinalizer ∉ res.metadata.finalizers) :
      PassCase r m c req
        { ending := .write (.update (customObject ((proto.decode res).withFinalizers
            (res.metadata.finalizers ++ [deletionFinalizer]))))
          reconciler := r }
  | unknownState {proto : CustomObject} {res : Resource} (hp : r.prototype = customObject proto)
      (hg : c.get req.namespacedName = .ok res)
      (hd : ¬(res.deletionRequested ∧ res.status.state ≠ customStateDeleting))
      (hf : deletionFinalizer ∈ res.metadata.finalizers)
      (hs : Handler.ofState res.status.state = none) :
      PassCase r m c req { ending := .ret none, reconciler := r }
  | dispatch {proto : CustomObject} {res : Resource} (h : Handler)
      (hp : r.prototype = customObject proto) (hg : c.get req.namespacedName = .ok res)
      (hd : ¬(res.deletionRequested ∧ res.status.state ≠ customStateDeleting))
      (hf : deletionFinalizer ∈ res.metadata.finalizers) (hs : res.status.state = h.state) :
      PassCase r m c req { r.handle m (customObject (proto.decode res)) h with handler := some h }

theorem reconcile_passCase (r : ManifestReconciler) (m : ManifestEnv) (c : Client)
    (req : Request) : PassCase r m c req (r.reconcile m c req) := by
  rcases hp : r.prototype with proto | u | meta
  · rcases hg : c.get req.namespacedName with err | res
    · simpa only [reconcile, hp, hg] using PassCase.getFailed hp hg
    · rw [reconcile_of_get r m hp hg]
      dsimp only
      split_ifs with hd hf
      · exact .markDeleting hp hg hd
      · rw [dispatch_eq]
        rcases hs : Handler.ofState res.status.state with _ | h
        · exact .unknownState hp hg hd hf hs
        · exact .dispatch h hp hg hd hf (Handler.ofState_eq_some.1 hs)
      · exact .addFinalizer hp hg hd hf
  all_goals simpa only [reconcile, hp] using PassCase.typeError (by simp [hp])

namespace PassCase

variable {r : ManifestReconciler} {m : ManifestEnv} {c : Client} {req : Request} {run : Run}

/-- A pass that reaches a handler read, with a typed prototype, a resource that carries the
deletion finalizer and is in the handler's state, without deletion intent unless `Deleting`. -/
theorem handler_eq_some (hc : PassCase r m c req run) {h : Handler} (hh : run.handler = some h) :
    ∃ proto res, r.prototype = customObject proto ∧ c.get req.namespacedName = .ok res ∧
      ¬(res.deletionRequested ∧ res.status.state ≠ customStateDeleting) ∧
      deletionFinalizer ∈ res.metadata.finalizers ∧ res.status.state = h.state := by
  cases hc with
  | dispatch h' hp hg hd hf hs => cases hh; exact ⟨_, _, hp, hg, hd, hf, hs⟩
  | _ => cases hh

/-- A pass installs only from `HandleProcessingState` and uninstalls only from
`HandleDeletingState`, at most once. -/
theorem calls_cases (hc : PassCase r m c req run) :
    run.calls = [] ∨
      (run.handler = some .processingState ∧ ∃ info a, run.calls = [.install info a]) ∨
      (run.handler = some .deletingState ∧ ∃ info a, run.calls = [.uninstall info a]) := by
  cases hc with
  | dispatch h =>
    rcases handle_calls _ h with hc | ⟨rfl, hc⟩ | ⟨rfl, hc⟩
    · exact .inl hc
    · exact .inr (.inl ⟨rfl, hc⟩)
    · exact .inr (.inr ⟨rfl, hc⟩)
  | _ => exact .inl rfl

/-- Every status write of a pass is a `StateTransition` from the state it read. -/
theorem statusUpdate (hc : PassCase r m c req run) {obj : BaseCustomObject}
    (he : run.ending = .write (.statusUpdate obj)) :
    ∃ proto res s, r.prototype = customObject proto ∧ c.get req.namespacedName = .ok res ∧
      obj = customObject ((proto.decode res).withState s) ∧
      StateTransition res.deletionRequested res.status.state s := by
  cases hc with
  | markDeleting hp hg hd =>
    cases he
    exact ⟨_, _, _, hp, hg, rfl, hd.1 ▸ .markDeleting hd.2⟩
  | dispatch h hp hg hd _ hs =>
    obtain ⟨s, rfl, hs'⟩ := handle_statusUpdate _ he
    exact ⟨_, _, s, hp, hg, rfl, .of_dispatch hd (hs ▸ hs')⟩
  | _ => cases he

/-- The metadata writes of a pass: adding the finalizer, applying labels, or removing the
finalizer from `Deleting` after `Uninstall` answered `(true, nil)`. -/
theorem update (hc : PassCase r m c req run) {obj : BaseCustomObject}
    (he : run.ending = .write (.update obj)) :
    ∃ proto res, r.prototype = customObject proto ∧ c.get req.namespacedName = .ok res ∧
      ((¬(res.deletionRequested ∧ res.status.state ≠ customStateDeleting) ∧
          deletionFinalizer ∉ res.metadata.finalizers ∧
          obj = customObject ((proto.decode res).withFinalizers
            (res.metadata.finalizers ++ [deletionFinalizer]))) ∨
        (∃ l, obj = customObject ((proto.decode res).withLabels l)) ∨
        (run.handler = some .deletingState ∧ res.status.state = customStateDeleting ∧
          deletionFinalizer ∈ res.metadata.finalizers ∧
          obj = customObject ((proto.decode res).withFinalizers
            (res.metadata.finalizers.filter (· != deletionFinalizer))) ∧
          ∃ info, run.calls = [.uninstall info (.ok true)])) := by
  cases hc with
  | addFinalizer hp hg hd hf => cases he; exact ⟨_, _, hp, hg, .inl ⟨hd, hf, rfl⟩⟩
  | dispatch h hp hg hd _ hs =>
    refine ⟨_, _, hp, hg, .inr ?_⟩
    rcases handle_update _ he with ⟨-, l, rfl⟩ | ⟨rfl, hf, rfl, hcalls⟩
    · exact .inl ⟨l, rfl⟩
    · exact .inr ⟨rfl, hs, by simpa using hf, by simp, hcalls⟩
  | _ => cases he

/-- The state a pass writes is a `StateTransition` from the state it read. -/
theorem writtenState (hc : PassCase r m c req run) {s : String}
    (he : run.ending.writtenState = some s) :
    ∃ proto res, r.prototype = customObject proto ∧ c.get req.namespacedName = .ok res ∧
      StateTransition res.deletionRequested res.status.state s := by
  cases hw : run.ending with
  | write w =>
    cases w with
    | statusUpdate obj =>
      obtain ⟨proto, res, s', hp, hg, rfl, ht⟩ := hc.statusUpdate hw
      simp only [hw, Ending.writtenState, getStatusFromObjectInstance_customObject,
        CustomObject.withState, Option.some.injEq] at he
      exact ⟨proto, res, hp, hg, he ▸ ht⟩
    | update obj => simp [hw, Ending.writtenState] at he
  | _ => simp [hw, Ending.writtenState] at he

/-- A pass leaves the reconciler as it was, unless it dispatched to `HandleInitialState` with
labels configured, on a resource with labels, and wrote them; then it leaves the reconciler with
its configured labels consumed. -/
theorem reconciler_cases (hc : PassCase r m c req run) :
    run.reconciler = r ∨
      (run.handler = some .initialState ∧ r.options.resourceLabels.entries ≠ [] ∧
        (∃ proto res l, r.prototype = customObject proto ∧
          c.get req.namespacedName = .ok res ∧ res.metadata.labels = some l ∧
          run.ending = .write (.update (customObject ((proto.decode res).withLabels
            (some (insertAll l r.options.resourceLabels.entries)))))) ∧
        run.reconciler = r.clearResourceLabels) := by
  cases hc with
  | dispatch h hp hg =>
    rcases handle_reconciler _ h with hr | ⟨rfl, hL, ⟨l, hl, he⟩, hr⟩
    · exact .inl hr
    · exact .inr ⟨rfl, hL, ⟨_, _, l, hp, hg, hl, he⟩, hr⟩
  | _ => exact .inl rfl

end PassCase

/-! ### A resource to run passes on -/

/-- A typed prototype, as the operator's own type supplies it. -/
def sampleProto : CustomObject where
  metadata := { name := "sample", «namespace» := "default", labels := none, finalizers := []
                deletionTimestamp := none, resourceVersion := 0 }
  spec := { chartPath := "chart", releaseName := "release", chartFlags := "" }
  status := {}
  componentName := "sample"

/-- A reconciler with that prototype and the given configured labels. -/
def sampleReconciler (labels : StringMap) : ManifestReconciler :=
  ⟨customObject sampleProto, ⟨"cluster"⟩, { resourceLabels := labels }⟩

/-- The resource of the prototype in a state, with finalizers, deletion intent and labels. -/
def sampleResource (state : String) (finalizers : List String) (deletion : Bool)
    (labels : Option StringMap := some ∅) : Resource :=
  { sampleProto.toResource with
    metadata := { sampleProto.metadata with
      finalizers, labels
      deletionTimestamp := if deletion then some ⟨1, 0, by decide⟩ else none }
    status := { state } }

/-- The request for the resource. -/
def sampleRequest : Request :=
  ⟨⟨"default", "sample"⟩⟩

/-- The manifest library: flags that parse or not, and an installer answering `answer`. -/
def sampleManifestEnv (flagsParse : Bool) (answer : Except Error Bool) : ManifestEnv where
  parseInto _ := if flagsParse then .ok [] else .error (.message "key has no value")
  newOperations _ _ _ := .ok ⟨fun _ => answer, fun _ => answer⟩

end ModuleManager
