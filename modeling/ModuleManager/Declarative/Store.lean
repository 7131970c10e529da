import ModuleManager.Declarative.Pass
import Mathlib.Logic.Relation

/-!
# Runs of the reconciler on one resource

The persisted resource under one key, and what changes it: the passes of the reconciler, run
one at a time, whose single write the API server applies when it accepts it, and the other
actors between passes, who request deletion, edit finalizers, labels and spec, and whose
deletion removes the resource once no finalizer is left (`Step`). The API server applies a
write only when the object carries the resource version now persisted and the write adds no
finalizer to a resource being deleted, and every change bumps the resource version. The answer
a pass gets to its write is the environment's choice, so a pass may also see an error for a
write the server would have applied, and `nil` for one it did not.

Every persisted resource reachable from a newly created one is `Deleting` only with deletion
intent (`deletingIntent_of_reachable`). From that and the lemmas on one pass follow the
finalizer gate (`finalizer_gate`), deletion preemption over whole runs (`deletion_preempts`),
and the transitions of the state (`pass_state_transition`). A resource in `Deleting` whose
finalizer is gone gets an `Update` adding it back from every pass, which the API server refuses
(`reconcile_readds_finalizer`).

## Main definitions

* `Write.apply`, `Write.refused`, `Write.commit`, `Ending.commit`: the API server's handling of
  the write.
* `Store.pass`, `Store.afterPass`: one pass run alone on the persisted resource.
* `EnvStep`, `Step`, `Reachable`.
-/

namespace ModuleManager

open BaseCustomObject ManifestReconciler

/-- The persisted resource under the reconciled key; `none` once the API server removed it. -/
abbrev Store := Option Resource

namespace Write

/-- The object a write carries. -/
def obj : Write → BaseCustomObject
  | update o => o
  | statusUpdate o => o

/-- The API server's handling of an accepted write: `Update` takes the labels, finalizers and
spec of the object, `Status().Update` its status, and neither the deletion timestamp, which is
the server's own. Both bump the resource version. -/
def apply : Write → Resource → Resource
  | update obj, res =>
    { res with
      metadata := { res.metadata with
        labels := obj.getLabels, finalizers := obj.getFinalizers,
        resourceVersion := res.metadata.resourceVersion + 1 }
      spec := match getSpecFromObjectInstance obj with
        | .ok spec => spec
        | .error _ => res.spec }
  | statusUpdate obj, res =>
    { res with
      metadata := { res.metadata with resourceVersion := res.metadata.resourceVersion + 1 }
      status := match getStatusFromObjectInstance obj with
        | .ok status => status
        | .error _ => res.status }

/-- The API server refuses an `Update` that adds a finalizer to a resource being deleted: "no
new finalizers can be added if the object is being deleted". A persisted deletion timestamp is
never the zero time, so the server's test for a timestamp is deletion intent. -/
def refused : Write → Resource → Bool
  | update obj, res =>
    res.deletionRequested && obj.getFinalizers.any (· ∉ res.metadata.finalizers)
  | statusUpdate _, _ => false

/-- The persisted resource after the API server took a write: applied when the object carries
the resource version now persisted and the write is not refused, and left as it is otherwise,
as a conflict or as invalid. -/
def commit (w : Write) : Store → Store
  | some res =>
    if w.obj.getResourceVersion = res.metadata.resourceVersion ∧ w.refused res = false then
      some (w.apply res)
    else some res
  | none => none

@[simp] theorem apply_statusUpdate_metadata (obj : BaseCustomObject) (res : Resource) :
    ((statusUpdate obj).apply res).metadata =
      { res.metadata with resourceVersion := res.metadata.resourceVersion + 1 } := rfl

@[simp] theorem apply_update_status (obj : BaseCustomObject) (res : Resource) :
    ((update obj).apply res).status = res.status := rfl

@[simp] theorem apply_update_finalizers (obj : BaseCustomObject) (res : Resource) :
    ((update obj).apply res).metadata.finalizers = obj.getFinalizers := rfl

@[simp] theorem apply_deletionRequested (w : Write) (res : Resource) :
    (w.apply res).deletionRequested = res.deletionRequested := by
  cases w <;> rfl

theorem commit_some (w : Write) (res : Resource) :
    w.commit (some res) = some res ∨ w.commit (some res) = some (w.apply res) := by
  simp only [commit]
  split_ifs <;> simp

end Write

/-- The persisted resource after a pass that ended with `e`, the API server answering its write
with `answer` (`none` accepts it). -/
def Ending.commit (answer : Option Error) (s : Store) : Ending → Store
  | .write w => if answer = none then w.commit s else s
  | _ => s

namespace Store

/-- The API client of a pass run alone on the persisted resource: `Get` returns it, or
`NotFound` once it is removed, and the write is answered with `answer`. -/
def client (s : Store) (answer : Option Error) : Client where
  get _ := match s with
    | some res => .ok res
    | none => .error .notFound
  update _ := answer
  statusUpdate _ := answer

/-- One pass run alone on the persisted resource. -/
def pass (s : Store) (r : ManifestReconciler) (m : ManifestEnv) (req : Request)
    (answer : Option Error) : Run :=
  r.reconcile m (s.client answer) req

/-- The persisted resource after that pass. -/
def afterPass (s : Store) (r : ManifestReconciler) (m : ManifestEnv) (req : Request)
    (answer : Option Error) : Store :=
  (s.pass r m req answer).ending.commit answer s

/-- The persisted resource carries the deletion finalizer. -/
def HasFinalizer : Store → Prop
  | some res => deletionFinalizer ∈ res.metadata.finalizers
  | none => False

/-- Deletion was requested: the persisted resource has deletion intent, or is already gone. -/
def DeletionIntent : Store → Prop
  | some res => res.deletionRequested = true
  | none => True

theorem afterPass_none (r : ManifestReconciler) (m : ManifestEnv) (req : Request)
    (answer : Option Error) : Store.afterPass none r m req answer = none := by
  unfold afterPass Ending.commit
  split
  · split_ifs <;> rfl
  · rfl

/-- A pass leaves the persisted resource as it was, or applies its write to it. -/
theorem afterPass_some (res : Resource) (r : ManifestReconciler) (m : ManifestEnv)
    (req : Request) (answer : Option Error) :
    Store.afterPass (some res) r m req answer = some res ∨
      ∃ w, (Store.pass (some res) r m req answer).ending = .write w ∧
        Store.afterPass (some res) r m req answer = some (w.apply res) := by
  unfold afterPass Ending.commit
  split
  · rename_i w hw
    split_ifs
    · exact (Write.commit_some w res).imp id fun h => ⟨w, hw, h⟩
    · exact .inl rfl
  · exact .inl rfl

end Store

/-- What a pass run alone reads is the persisted resource. -/
theorem Store.eq_of_client_get {s : Store} {res : Resource} {answer : Option Error}
    {key : NamespacedName} (h : (s.client answer).get key = .ok res) : s = some res := by
  cases s with
  | none => cases h
  | some res' => cases h; rfl

/-! ### Runs -/

/-- What the other actors do to the persisted resource between passes: the owner deletes the
resource and the API server records deletion intent, once (`requestDeletion`); another client
sets the finalizers (`setFinalizers`); the owner sets the labels (`setLabels`) or the spec
(`setSpec`); and the API server removes a resource with deletion intent once no finalizer is
left (`remove`). Every change bumps the resource version. -/
inductive EnvStep : Store → Store → Prop
  | requestDeletion {res : Resource} (t : Time) (ht : Time.IsZero (some t) = false)
      (hz : res.deletionRequested = false) :
      EnvStep (some res) (some { res with metadata := { res.metadata with
        deletionTimestamp := some t, resourceVersion := res.metadata.resourceVersion + 1 } })
  | setFinalizers {res : Resource} (fs : List String) :
      EnvStep (some res) (some { res with metadata := { res.metadata with
        finalizers := fs, resourceVersion := res.metadata.resourceVersion + 1 } })
  | setLabels {res : Resource} (l : Option StringMap) :
      EnvStep (some res) (some { res with metadata := { res.metadata with
        labels := l, resourceVersion := res.metadata.resourceVersion + 1 } })
  | setSpec {res : Resource} (spec : CustomObjectSpec) :
      EnvStep (some res) (some { res with spec, metadata := { res.metadata with
        resourceVersion := res.metadata.resourceVersion + 1 } })
  | remove {res : Resource} (hd : res.deletionRequested = true)
      (hf : res.metadata.finalizers = []) : EnvStep (some res) none

/-- One step of a run: a pass of some reconciler run alone, or a step of the other actors. -/
inductive Step : Store → Store → Prop
  | pass (s : Store) (r : ManifestReconciler) (m : ManifestEnv) (req : Request)
      (answer : Option Error) : Step s (s.afterPass r m req answer)
  | env {s s' : Store} (h : EnvStep s s') : Step s s'

/-- A resource as its owner creates it: no state and no deletion intent. -/
def Resource.Created (res : Resource) : Prop :=
  res.status.state = "" ∧ res.deletionRequested = false

/-- The persisted resources of the runs from a newly created resource. -/
inductive Reachable : Store → Prop
  | create {res : Resource} (h : res.Created) : Reachable (some res)
  | step {s s' : Store} (hs : Reachable s) (h : Step s s') : Reachable s'

theorem Reachable.afterPass {s : Store} (hs : Reachable s) (r : ManifestReconciler)
    (m : ManifestEnv) (req : Request) (answer : Option Error) :
    Reachable (s.afterPass r m req answer) :=
  .step hs (.pass s r m req answer)

/-! ### `Deleting` only with deletion intent -/

/-- Every persisted resource in state `Deleting` has deletion intent. -/
def DeletingIntent (s : Store) : Prop :=
  ∀ res, s = some res → res.status.state = customStateDeleting → res.deletionRequested = true

theorem afterPass_deletingIntent {s : Store} (hs : DeletingIntent s) (r : ManifestReconciler)
    (m : ManifestEnv) (req : Request) (answer : Option Error) :
    DeletingIntent (s.afterPass r m req answer) := by
  rcases s with _ | res
  · rw [Store.afterPass_none]; exact hs
  · rcases Store.afterPass_some res r m req answer with h | ⟨w, hw, h⟩
    · rwa [h]
    · rw [h]
      rintro _ ⟨⟩ hst
      rw [Write.apply_deletionRequested]
      cases w with
      | update obj => exact hs res rfl hst
      | statusUpdate obj =>
        obtain ⟨proto, res', st, -, hg, rfl, ht⟩ :=
          (reconcile_passCase r m (Store.client (some res) answer) req).statusUpdate hw
        cases Store.eq_of_client_get hg
        exact ht.deletionRequested_of_deleting hst

theorem EnvStep.deletingIntent {s s' : Store} (h : EnvStep s s') (hs : DeletingIntent s) :
    DeletingIntent s' := by
  cases h with
  | requestDeletion t ht =>
    rintro _ ⟨⟩ -
    simpa [Resource.deletionRequested] using ht
  | remove => intro _ h; cases h
  | _ =>
    rintro _ ⟨⟩ hst
    have := hs _ rfl hst
    exact this

theorem deletingIntent_of_reachable {s : Store} (h : Reachable s) : DeletingIntent s := by
  induction h with
  | create hc =>
    rintro _ ⟨⟩ hst
    exact absurd (hc.1.symm.trans hst) customStateDeleting_ne_empty.symm
  | step _ hstep ih =>
    cases hstep with
    | pass r m req answer => exact afterPass_deletingIntent ih r m req answer
    | env he => exact he.deletingIntent ih

/-! ### The finalizer gate -/

/-- The finalizer gate. In every run, a pass that reaches `HandleProcessingState` or
`HandleDeletingState` read a resource carrying the deletion finalizer, and a pass whose write
drops that finalizer from the persisted resource is one of `HandleDeletingState` that read
deletion intent and `Deleting`, after `Uninstall` answered `(true, nil)`. No pass reaches
`Uninstall`, since `prepareInstallInfo` panics first, so no pass drops the finalizer
(`afterPass_hasFinalizer`) and the second part holds vacuously. -/
theorem finalizer_gate {s : Store} (hs : Reachable s) (r : ManifestReconciler) (m : ManifestEnv)
    (req : Request) (answer : Option Error) :
    ((s.pass r m req answer).handler = some .processingState ∨
        (s.pass r m req answer).handler = some .deletingState → s.HasFinalizer) ∧
      (s.HasFinalizer → ¬(s.afterPass r m req answer).HasFinalizer →
        (s.pass r m req answer).handler = some .deletingState ∧
        ∃ res, s = some res ∧ res.deletionRequested = true ∧
          res.status.state = customStateDeleting ∧
          ∃ info, (s.pass r m req answer).calls = [.uninstall info (.ok true)]) := by
  have hc := reconcile_passCase r m (s.client answer) req
  refine ⟨fun hh => ?_, fun hf hf' => ?_⟩
  · obtain ⟨h, hh⟩ : ∃ h, (s.pass r m req answer).handler = some h :=
      hh.elim (⟨_, ·⟩) (⟨_, ·⟩)
    obtain ⟨-, res, -, hg, -, hfin, -⟩ := hc.handler_eq_some hh
    rw [Store.eq_of_client_get hg]
    exact hfin
  rcases s with _ | res
  · exact hf.elim
  rcases Store.afterPass_some res r m req answer with h | ⟨w, hw, h⟩ <;> rw [h] at hf'
  · exact absurd hf hf'
  cases w with
  | statusUpdate obj => exact absurd hf hf'
  | update obj =>
    obtain ⟨proto, res', -, hg, hcase⟩ := hc.update hw
    cases Store.eq_of_client_get hg
    rcases hcase with ⟨-, -, rfl⟩ | ⟨l, rfl⟩ | ⟨hh, hst, -, -, hcalls⟩
    · simp [Store.HasFinalizer, CustomObject.withFinalizers, getFinalizers] at hf'
    · exact absurd hf hf'
    · exact ⟨hh, _, rfl, deletingIntent_of_reachable hs _ rfl hst, hst, hcalls⟩

theorem finalizer_gate_processing :
    let r := sampleReconciler ∅
    let m := sampleManifestEnv true (.ok true)
    let s : Store := (Store.afterPass (some (sampleResource "" [] false)) r m sampleRequest
      none).afterPass r m sampleRequest none
    let run := s.pass r m sampleRequest none
    Reachable s ∧ s.map (·.status.state) = some customStateProcessing ∧
      run.handler = some .processingState ∧
      ((run.handler = some .processingState ∨ run.handler = some .deletingState →
          s.HasFinalizer) ∧
        (s.HasFinalizer → ¬(s.afterPass r m sampleRequest none).HasFinalizer →
          run.handler = some .deletingState ∧
          ∃ res, s = some res ∧ res.deletionRequested = true ∧
            res.status.state = customStateDeleting ∧
            ∃ info, run.calls = [.uninstall info (.ok true)])) :=
  have hs := ((@Reachable.create (sampleResource "" [] false) ⟨rfl, rfl⟩).afterPass
    (sampleReconciler ∅) (sampleManifestEnv true (.ok true)) sampleRequest none).afterPass
    (sampleReconciler ∅) (sampleManifestEnv true (.ok true)) sampleRequest none
  ⟨hs, rfl, rfl, finalizer_gate hs _ _ _ _⟩

/-- The pass a deleting resource gets once its finalizer is gone: in `Deleting` and without the
deletion finalizer, `Reconcile` sends an `Update` adding the finalizer back, deletion intent or
not. -/
theorem reconcile_readds_finalizer {r : ManifestReconciler} {m : ManifestEnv} {c : Client}
    {req : Request} {proto : CustomObject} {res : Resource}
    (hp : r.prototype = customObject proto) (hg : c.get req.namespacedName = .ok res)
    (hs : res.status.state = customStateDeleting)
    (hf : deletionFinalizer ∉ res.metadata.finalizers) :
    (r.reconcile m c req).ending = .write (.update (customObject ((proto.decode res).withFinalizers
      (res.metadata.finalizers ++ [deletionFinalizer])))) := by
  rw [reconcile_of_get r m hp hg]
  simp [hs, hf]

theorem reconcile_readds_finalizer_released :
    let res := sampleResource customStateDeleting ["foregroundDeletion"] true
    res.deletionRequested = true ∧ res.status.state = customStateDeleting ∧
      deletionFinalizer ∉ res.metadata.finalizers ∧
      ((sampleReconciler ∅).reconcile (sampleManifestEnv true (.ok true))
        (Store.client (some res) none) sampleRequest).ending =
        .write (.update (customObject ((sampleProto.decode res).withFinalizers
          (res.metadata.finalizers ++ [deletionFinalizer])))) ∧
      (Store.afterPass (some res) (sampleReconciler ∅) (sampleManifestEnv true (.ok true))
        sampleRequest none).map (·.metadata.finalizers) = some ["foregroundDeletion"] :=
  ⟨rfl, rfl, by decide, reconcile_readds_finalizer rfl rfl rfl (by decide), rfl⟩

/-! ### Deletion preempts -/

theorem Step.deletionIntent {s s' : Store} (h : Step s s') (hd : s.DeletionIntent) :
    s'.DeletionIntent := by
  cases h with
  | pass r m req answer =>
    rcases s with _ | res
    · rw [Store.afterPass_none]; trivial
    · rcases Store.afterPass_some res r m req answer with h | ⟨w, -, h⟩ <;> rw [h]
      · exact hd
      · simpa [Store.DeletionIntent] using hd
  | env he =>
    cases he with
    | requestDeletion t ht hz => simp_all [Store.DeletionIntent]
    | remove => trivial
    | _ => exact hd

/-- With deletion intent a pass reaches no handler but `HandleDeletingState`, only uninstalls,
and writes neither `Processing` nor `Ready`. -/
theorem pass_of_deletionIntent {s : Store} (hd : s.DeletionIntent) (r : ManifestReconciler)
    (m : ManifestEnv) (req : Request) (answer : Option Error) :
    ((s.pass r m req answer).handler = none ∨
        (s.pass r m req answer).handler = some .deletingState) ∧
      (∀ call ∈ (s.pass r m req answer).calls, ∃ info a, call = .uninstall info a) ∧
      (s.pass r m req answer).ending.writtenState ≠ some customStateProcessing ∧
      (s.pass r m req answer).ending.writtenState ≠ some customStateReady := by
  have hc := reconcile_passCase r m (s.client answer) req
  have hread : ∀ res, (s.client answer).get req.namespacedName = .ok res →
      res.deletionRequested = true := fun res hg => by
    cases Store.eq_of_client_get hg
    exact hd
  have hdel : ∀ h, (s.pass r m req answer).handler = some h → h = .deletingState := by
    intro h hh
    obtain ⟨-, res, -, hg, hguard, -, hst⟩ := hc.handler_eq_some hh
    exact Handler.eq_deletingState_of_state (hst.symm.trans (by simpa [hread res hg] using hguard))
  have hwritten : ∀ st, (s.pass r m req answer).ending.writtenState = some st →
      st = customStateDeleting ∨ st = customStateError := by
    intro st hst
    obtain ⟨-, res, -, hg, ht⟩ := hc.writtenState hst
    exact (hread res hg ▸ ht).of_deletionRequested
  refine ⟨?_, ?_, fun h => ?_, fun h => ?_⟩
  · rcases hh : (s.pass r m req answer).handler with _ | h
    · exact .inl rfl
    · exact .inr (congrArg some (hdel h hh))
  · rcases hc.calls_cases with hcalls | ⟨hh, -⟩ | ⟨-, info, a, hcalls⟩
    · intro call hcall
      simp [Store.pass, hcalls] at hcall
    · cases hdel _ hh
    · intro call hcall
      simp only [Store.pass, hcalls, List.mem_singleton] at hcall
      exact ⟨info, a, hcall⟩
  all_goals rcases hwritten _ h with h' | h' <;> exact absurd h' (by decide)

/-- Deletion preemption. Once deletion intent is set, whatever the state and the finalizers,
every later pass of the run dispatches to `HandleDeletingState` or to no handler, calls no
`Install`, and writes neither `Processing` nor `Ready`. -/
theorem deletion_preempts {s s' : Store} (hss : Relation.ReflTransGen Step s s')
    (hd : s.DeletionIntent) (r : ManifestReconciler) (m : ManifestEnv) (req : Request)
    (answer : Option Error) :
    ((s'.pass r m req answer).handler = none ∨
        (s'.pass r m req answer).handler = some .deletingState) ∧
      (∀ call ∈ (s'.pass r m req answer).calls, ∃ info a, call = .uninstall info a) ∧
      (s'.pass r m req answer).ending.writtenState ≠ some customStateProcessing ∧
      (s'.pass r m req answer).ending.writtenState ≠ some customStateReady := by
  refine pass_of_deletionIntent ?_ r m req answer
  induction hss with
  | refl => exact hd
  | tail _ hstep ih => exact hstep.deletionIntent ih

theorem deletion_preempts_processing :
    let s : Store := some (sampleResource customStateProcessing [deletionFinalizer] true)
    let run := s.pass (sampleReconciler ∅) (sampleManifestEnv true (.ok true)) sampleRequest none
    Relation.ReflTransGen Step s s ∧ s.DeletionIntent ∧
      ((run.handler = none ∨ run.handler = some .deletingState) ∧
        (∀ call ∈ run.calls, ∃ info a, call = .uninstall info a) ∧
        run.ending.writtenState ≠ some customStateProcessing ∧
        run.ending.writtenState ≠ some customStateReady) :=
  ⟨.refl, rfl,
    @deletion_preempts (some (sampleResource customStateProcessing [deletionFinalizer] true)) _
      .refl rfl _ _ _ _⟩

/-! ### The transitions of the state -/

/-- Every change a pass makes to the persisted state is a `StateTransition` under the deletion
intent it read: from `Deleting` the only change is to `Error`. -/
theorem pass_state_transition (res : Resource) (r : ManifestReconciler) (m : ManifestEnv)
    (req : Request) (answer : Option Error) {res' : Resource}
    (h : Store.afterPass (some res) r m req answer = some res')
    (hne : res'.status.state ≠ res.status.state) :
    StateTransition res.deletionRequested res.status.state res'.status.state := by
  rcases Store.afterPass_some res r m req answer with h' | ⟨w, hw, h'⟩ <;> rw [h'] at h <;>
    cases h
  · exact absurd rfl hne
  · cases w with
    | update obj => exact absurd rfl hne
    | statusUpdate obj =>
      obtain ⟨proto, res'', st, -, hg, rfl, ht⟩ :=
        (reconcile_passCase r m (Store.client (some res) answer) req).statusUpdate hw
      cases Store.eq_of_client_get hg
      exact ht

theorem pass_state_transition_markDeleting :
    let res := sampleResource customStateReady [deletionFinalizer] true
    let res' := (Write.statusUpdate (customObject
      ((sampleProto.decode res).withState customStateDeleting))).apply res
    Store.afterPass (some res) (sampleReconciler ∅) (sampleManifestEnv true (.ok true))
        sampleRequest none = some res' ∧
      res'.status.state ≠ res.status.state ∧
      StateTransition res.deletionRequested res.status.state res'.status.state :=
  ⟨rfl, by decide, pass_state_transition _ (sampleReconciler ∅) (sampleManifestEnv true (.ok true))
    sampleRequest none rfl (by decide)⟩

/-- A pass from `Deleting` whose flags do not parse writes `Error`. -/
theorem deleting_pass_writes_error :
    (sampleResource customStateDeleting [deletionFinalizer] true).status.state =
        customStateDeleting ∧
      (Store.afterPass (some (sampleResource customStateDeleting [deletionFinalizer] true))
        (sampleReconciler ∅) (sampleManifestEnv false (.ok true)) sampleRequest none).map
        (·.status.state) = some customStateError :=
  ⟨rfl, rfl⟩

end ModuleManager
