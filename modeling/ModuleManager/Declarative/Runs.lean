import ModuleManager.Declarative.Outcome
import ModuleManager.Declarative.Concurrency

/-!
# What passes do over whole runs

`prepareInstallInfo` panics on every typed value, and a prototype that is not typed fails the
type assertion of `Reconcile` before any handler runs. So no pass calls `Install` or
`Uninstall`, whatever the reconciler, the resource and the answers
(`reconcile_calls_eq_nil`). Over whole runs this means that no persisted resource ever becomes
`Ready` (`reachable_state_ne_ready`), and that no pass removes the deletion finalizer
(`afterPass_hasFinalizer`): a resource whose deletion was requested is released only when
another client removes the finalizer.

What is left of a pass is one of four changes to the persisted resource (`afterPass_cases`): a
new state other than `Ready`, the deletion finalizer appended, new labels, or none. So a resource
that reached `Processing` goes back and forth between `Processing` and `Error` until its deletion
is requested (`runs_stay_processing_or_error`), and a newly created resource gets there in at
most two passes once the API server accepts the writes (`created_reaches_processing`). Since no
pass changes the spec, and interleaved commits act as serial passes, no interleaving lets a pass
overwrite an owner's edit of the spec (`ConcReachable.commit_keeps_spec`).

## Main results

* `reconcile_calls_eq_nil`
* `reachable_state_ne_ready`
* `afterPass_hasFinalizer`, `passes_keep_finalizer`
* `afterPass_frame`: a pass writes back the name, the namespace, the deletion timestamp and the
  spec it read, and leaves the persisted spec as it was.
* `afterPass_finalizers`: a pass removes no finalizer and adds only the deletion finalizer.
* `ConcReachable.commit_keeps_spec`: no interleaving lets a pass overwrite the owner's spec.
* `runs_stay_processing_or_error`: the install loop is left only by a deletion request.
* `created_reaches_processing`: a new resource reaches `Processing` in at most two passes.
-/

namespace ModuleManager

open BaseCustomObject ManifestReconciler

namespace ManifestReconciler

section Handlers

variable {r : ManifestReconciler} {m : ManifestEnv} (o : CustomObject)

theorem handle_calls_eq_nil (h : Handler) : (r.handle m (customObject o) h).calls = [] := by
  cases h <;>
    simp only [handle, handleInitialState, handleProcessingState, handleDeletingState,
      handleErrorState, handleReadyState, getSpecFromObjectInstance_customObject,
      getStatusFromObjectInstance_customObject, prepareInstallInfo] <;>
    repeat' split
  all_goals rfl

theorem handle_writtenState_ne_ready (h : Handler) :
    (r.handle m (customObject o) h).ending.writtenState ≠ some customStateReady := by
  cases h <;>
    simp only [handle, handleInitialState, handleProcessingState, handleDeletingState,
      handleErrorState, handleReadyState, getSpecFromObjectInstance_customObject,
      getStatusFromObjectInstance_customObject, prepareInstallInfo, commitState_customObject] <;>
    repeat' split
  all_goals simp [Ending.writtenState, CustomObject.withState]

end Handlers

end ManifestReconciler

namespace PassCase

variable {r : ManifestReconciler} {m : ManifestEnv} {c : Client} {req : Request} {run : Run}

theorem calls_eq_nil (hc : PassCase r m c req run) : run.calls = [] := by
  cases hc with
  | dispatch h => exact handle_calls_eq_nil _ h
  | _ => rfl

theorem writtenState_ne_ready (hc : PassCase r m c req run) :
    run.ending.writtenState ≠ some customStateReady := by
  cases hc with
  | markDeleting =>
    simp [Ending.writtenState, CustomObject.withState, customStateDeleting_ne_ready]
  | dispatch h => exact handle_writtenState_ne_ready _ h
  | _ => simp [Ending.writtenState]

end PassCase

/-- No pass calls the installer. -/
theorem reconcile_calls_eq_nil (r : ManifestReconciler) (m : ManifestEnv) (c : Client)
    (req : Request) : (r.reconcile m c req).calls = [] :=
  (reconcile_passCase r m c req).calls_eq_nil

/-! ### Whole runs -/

/-- A pass leaves the persisted state as it was, or sets the state its write carries. -/
theorem afterPass_state {res res' : Resource} {r : ManifestReconciler} {m : ManifestEnv}
    {req : Request} {answer : Option Error}
    (h : Store.afterPass (some res) r m req answer = some res') :
    res'.status.state = res.status.state ∨
      (Store.pass (some res) r m req answer).ending.writtenState = some res'.status.state := by
  rcases Store.afterPass_some res r m req answer with h' | ⟨w, hw, h'⟩ <;>
    rw [h', Option.some.injEq] at h <;> subst h
  · exact .inl rfl
  cases w with
  | update obj => exact .inl rfl
  | statusUpdate obj =>
    rw [hw]
    cases hs : getStatusFromObjectInstance obj <;>
      simp [Write.apply, Ending.writtenState, hs]

theorem EnvStep.status_eq {res res' : Resource} (h : EnvStep (some res) (some res')) :
    res'.status = res.status := by
  cases h <;> rfl

/-- No persisted resource of a run is ever `Ready`. -/
theorem reachable_state_ne_ready {s : Store} (hs : Reachable s) :
    ∀ res, s = some res → res.status.state ≠ customStateReady := by
  induction hs with
  | create hc =>
    rintro _ ⟨⟩
    rw [hc.1]
    exact customStateReady_ne_empty.symm
  | @step s _ _ hstep ih =>
    intro res' hres'
    cases hstep with
    | pass r m req answer =>
      rcases s with _ | res
      · rw [Store.afterPass_none] at hres'; cases hres'
      · rcases afterPass_state hres' with h | h
        · rw [h]; exact ih res rfl
        · intro hr
          exact (reconcile_passCase r m _ req).writtenState_ne_ready (hr ▸ h)
    | env he =>
      subst hres'
      rcases s with _ | res
      · cases he
      · rw [EnvStep.status_eq he]; exact ih res rfl

theorem reachable_state_ne_ready_processing :
    let r := sampleReconciler ∅
    let m := sampleManifestEnv true (.ok true)
    let s : Store := (Store.afterPass (some (sampleResource "" [] false)) r m sampleRequest
      none).afterPass r m sampleRequest none
    Reachable s ∧ s.map (·.status.state) = some customStateProcessing ∧
      ∀ res, s = some res → res.status.state ≠ customStateReady :=
  have hs := ((@Reachable.create (sampleResource "" [] false) ⟨rfl, rfl⟩).afterPass
    (sampleReconciler ∅) (sampleManifestEnv true (.ok true)) sampleRequest none).afterPass
    (sampleReconciler ∅) (sampleManifestEnv true (.ok true)) sampleRequest none
  ⟨hs, rfl, reachable_state_ne_ready hs⟩

/-- What a pass does to the persisted resource: nothing; a new state, by a transition from the
state it read; the deletion finalizer appended, when it was missing; or new labels. Every write
also bumps the resource version. -/
theorem afterPass_cases (res : Resource) (r : ManifestReconciler) (m : ManifestEnv)
    (req : Request) (answer : Option Error) :
    Store.afterPass (some res) r m req answer = some res ∨
      (∃ s, StateTransition res.deletionRequested res.status.state s ∧ s ≠ customStateReady ∧
        Store.afterPass (some res) r m req answer = some { res with
          metadata := { res.metadata with resourceVersion := res.metadata.resourceVersion + 1 }
          status := { res.status with state := s } }) ∨
      (deletionFinalizer ∉ res.metadata.finalizers ∧
        Store.afterPass (some res) r m req answer = some { res with
          metadata := { res.metadata with
            finalizers := res.metadata.finalizers ++ [deletionFinalizer]
            resourceVersion := res.metadata.resourceVersion + 1 } }) ∨
      ∃ l, Store.afterPass (some res) r m req answer = some { res with
        metadata := { res.metadata with
          labels := l, resourceVersion := res.metadata.resourceVersion + 1 } } := by
  rcases Store.afterPass_some res r m req answer with h | ⟨w, hw, h⟩
  · exact .inl h
  rw [h]
  have hc := reconcile_passCase r m (Store.client (some res) answer) req
  cases w with
  | statusUpdate obj =>
    obtain ⟨proto, res', s, -, hg, rfl, ht⟩ := hc.statusUpdate hw
    cases Store.eq_of_client_get hg
    have hready := hc.writtenState_ne_ready
    rw [show r.reconcile m (Store.client (some res) answer) req =
      Store.pass (some res) r m req answer from rfl, hw] at hready
    exact .inr (.inl ⟨s, ht, fun hs => hready (by rw [← hs]; rfl), rfl⟩)
  | update obj =>
    obtain ⟨proto, res', -, hg, hcase⟩ := hc.update hw
    cases Store.eq_of_client_get hg
    rcases hcase with ⟨-, hf, rfl⟩ | ⟨l, rfl⟩ | ⟨-, -, -, -, info, hcalls⟩
    · exact .inr (.inr (.inl ⟨hf, rfl⟩))
    · exact .inr (.inr (.inr ⟨l, rfl⟩))
    · simp [Store.pass, hc.calls_eq_nil] at hcalls

/-- No pass removes the deletion finalizer from the persisted resource. -/
theorem afterPass_hasFinalizer {s : Store} (hf : s.HasFinalizer) (r : ManifestReconciler)
    (m : ManifestEnv) (req : Request) (answer : Option Error) :
    (s.afterPass r m req answer).HasFinalizer := by
  rcases s with _ | res
  · exact hf.elim
  rcases afterPass_cases res r m req answer with h | ⟨_, -, -, h⟩ | ⟨-, h⟩ | ⟨_, h⟩ <;> rw [h]
  · exact hf
  · exact hf
  · exact List.mem_append_left _ hf
  · exact hf

/-- Passes alone never release a resource: from a persisted resource with the deletion
finalizer, every run of passes keeps it. -/
theorem passes_keep_finalizer {s s' : Store}
    (h : Relation.ReflTransGen (fun s s' => ∃ r m req answer, s' = Store.afterPass s r m req answer)
      s s')
    (hf : s.HasFinalizer) : s'.HasFinalizer := by
  induction h with
  | refl => exact hf
  | tail _ hstep ih =>
    obtain ⟨r, m, req, answer, rfl⟩ := hstep
    exact afterPass_hasFinalizer ih r m req answer

theorem passes_keep_finalizer_deleting :
    let s : Store := some (sampleResource customStateDeleting [deletionFinalizer] true)
    let s' := s.afterPass (sampleReconciler ∅) (sampleManifestEnv true (.ok true)) sampleRequest none
    Relation.ReflTransGen
        (fun s s' => ∃ r m req answer, s' = Store.afterPass s r m req answer) s s' ∧
      s.HasFinalizer ∧ s'.HasFinalizer :=
  have hstep : Relation.ReflTransGen
      (fun s s' => ∃ r m req answer, s' = Store.afterPass s r m req answer)
      (some (sampleResource customStateDeleting [deletionFinalizer] true)) _ :=
    .single ⟨sampleReconciler ∅, sampleManifestEnv true (.ok true), sampleRequest, none, rfl⟩
  ⟨hstep, List.mem_singleton_self _, passes_keep_finalizer hstep (List.mem_singleton_self _)⟩

/-- The frame of a pass. The object a pass writes is the resource it read under the same name,
namespace and deletion timestamp, with the spec it read; so the spec of the persisted resource,
which belongs to the owner, is as it was after the pass. -/
theorem afterPass_frame (res : Resource) (r : ManifestReconciler) (m : ManifestEnv)
    (req : Request) (answer : Option Error) :
    (∃ res', Store.afterPass (some res) r m req answer = some res' ∧ res'.spec = res.spec) ∧
      ∀ w, (Store.pass (some res) r m req answer).ending = .write w →
        objectKey w.obj = ⟨res.metadata.namespace, res.metadata.name⟩ ∧
        w.obj.getDeletionTimestamp = res.metadata.deletionTimestamp ∧
        getSpecFromObjectInstance w.obj = .ok res.spec := by
  refine ⟨?_, fun w hw => ?_⟩
  · rcases afterPass_cases res r m req answer with h | ⟨_, -, -, h⟩ | ⟨-, h⟩ | ⟨_, h⟩ <;>
      exact ⟨_, h, rfl⟩
  have hc := reconcile_passCase r m (Store.client (some res) answer) req
  cases w with
  | statusUpdate obj =>
    obtain ⟨proto, res', -, -, hg, rfl, -⟩ := hc.statusUpdate hw
    cases Store.eq_of_client_get hg
    exact ⟨rfl, rfl, rfl⟩
  | update obj =>
    obtain ⟨proto, res', -, hg, h⟩ := hc.update hw
    cases Store.eq_of_client_get hg
    rcases h with ⟨-, -, rfl⟩ | ⟨_, rfl⟩ | ⟨-, -, -, rfl, -⟩ <;>
      exact ⟨rfl, rfl, rfl⟩

/-- A pass removes no finalizer of the persisted resource, and the one it adds is the deletion
finalizer, at the end and only when it was missing. -/
theorem afterPass_finalizers (res : Resource) (r : ManifestReconciler) (m : ManifestEnv)
    (req : Request) (answer : Option Error) :
    ∃ res', Store.afterPass (some res) r m req answer = some res' ∧
      (res'.metadata.finalizers = res.metadata.finalizers ∨
        deletionFinalizer ∉ res.metadata.finalizers ∧
          res'.metadata.finalizers = res.metadata.finalizers ++ [deletionFinalizer]) := by
  rcases afterPass_cases res r m req answer with h | ⟨_, -, -, h⟩ | ⟨hf, h⟩ | ⟨_, h⟩
  · exact ⟨_, h, .inl rfl⟩
  · exact ⟨_, h, .inl rfl⟩
  · exact ⟨_, h, .inr ⟨hf, rfl⟩⟩
  · exact ⟨_, h, .inl rfl⟩

/-- No lost update of the spec. Under any interleaving of passes and of the other actors, the
commit of a running pass leaves the persisted spec as it is: a pass writes back the spec it
read, and the API server accepts the write only when nothing changed since that read. So an
owner's edit of the spec is never overwritten by a pass that read the spec before it. -/
theorem ConcReachable.commit_keeps_spec {g : Cluster} (hg : ConcReachable g) {i : Nat}
    {res : Resource} {run : Run} (hi : g.passes i = .running res run) :
    (run.ending.commit none g.store).map (·.spec) = g.store.map (·.spec) := by
  obtain ⟨⟨r, m, req, rfl⟩, hfresh⟩ := hg.serial.running i res run hi
  rcases Store.pass_commit_cases hfresh r m req with h | ⟨hs, h, -⟩
  · rw [h]
  rw [h, hs]
  rcases afterPass_cases res r m req none with h' | ⟨_, -, -, h'⟩ | ⟨-, h'⟩ | ⟨_, h'⟩ <;>
    rw [h'] <;> rfl

theorem ConcReachable.commit_keeps_spec_created :
    let res := sampleResource "" [] false
    let run := Store.pass (some res) (sampleReconciler ∅) (sampleManifestEnv true (.ok true))
      sampleRequest none
    let g : Cluster := ⟨some res, Function.update (fun _ => .idle) 0 (.running res run)⟩
    ConcReachable g ∧ g.passes 0 = .running res run ∧
      (run.ending.commit none g.store).map (·.spec) = g.store.map (·.spec) := by
  intro res run g
  have hg : ConcReachable g := (@ConcReachable.create res ⟨rfl, rfl⟩).step
    (.read 0 (sampleReconciler ∅) (sampleManifestEnv true (.ok true)) sampleRequest rfl rfl)
  exact ⟨hg, rfl, @ConcReachable.commit_keeps_spec g hg 0 res run rfl⟩

/-! ### The install loop -/

/-- Without deletion intent, a transition from `Processing` or `Error` other than to `Ready`
goes to `Processing` or `Error`. -/
theorem StateTransition.installLoop {x s : String} (h : StateTransition false x s)
    (hx : x = customStateProcessing ∨ x = customStateError) (hs : s ≠ customStateReady) :
    s = customStateProcessing ∨ s = customStateError := by
  cases h <;> simp_all [customStateDeleting, customStateProcessing, customStateError,
    customStateReady]

/-- Every persisted resource without deletion intent is `Processing` or `Error`. -/
def InstallLoop (s : Store) : Prop :=
  ∀ res, s = some res → res.deletionRequested = false →
    res.status.state = customStateProcessing ∨ res.status.state = customStateError

theorem Step.installLoop {s s' : Store} (h : Step s s') (hs : InstallLoop s) : InstallLoop s' := by
  cases h with
  | pass r m req answer =>
    rcases s with _ | res
    · rwa [Store.afterPass_none]
    intro res' hres' hd
    rcases afterPass_cases res r m req answer with h | ⟨st, ht, hne, h⟩ | ⟨-, h⟩ | ⟨_, h⟩ <;>
      rw [h, Option.some.injEq] at hres' <;> subst hres'
    · exact hs res rfl hd
    · have hd' : res.deletionRequested = false := hd
      exact (hd' ▸ ht).installLoop (hs res rfl hd') hne
    · exact hs res rfl hd
    · exact hs res rfl hd
  | env he =>
    cases he with
    | requestDeletion t ht =>
      rintro _ ⟨⟩ hd
      simp [Resource.deletionRequested, ht] at hd
    | remove => intro _ h; cases h
    | _ =>
      rintro _ ⟨⟩ hd
      have h := hs _ rfl hd
      exact h

/-- The install loop. From a resource in `Processing` or `Error`, every later persisted resource
of the run that has no deletion intent is in `Processing` or `Error` again: passes only move it
between the two, and only a deletion request takes it out. -/
theorem runs_stay_processing_or_error {s s' : Store} (hss : Relation.ReflTransGen Step s s')
    (hs : ∀ res, s = some res →
      res.status.state = customStateProcessing ∨ res.status.state = customStateError) :
    ∀ res', s' = some res' → res'.deletionRequested = false →
      res'.status.state = customStateProcessing ∨ res'.status.state = customStateError := by
  induction hss with
  | refl => exact fun res h _ => hs res h
  | tail _ hstep ih => exact hstep.installLoop ih

theorem runs_stay_processing_or_error_flags :
    let s : Store := some (sampleResource customStateProcessing [deletionFinalizer] false)
    let s' := s.afterPass (sampleReconciler ∅) (sampleManifestEnv false (.ok true)) sampleRequest none
    Relation.ReflTransGen Step s s' ∧
      (∀ res, s = some res →
        res.status.state = customStateProcessing ∨ res.status.state = customStateError) ∧
      ∀ res', s' = some res' → res'.deletionRequested = false →
        res'.status.state = customStateProcessing ∨ res'.status.state = customStateError :=
  have hs : ∀ res, some (sampleResource customStateProcessing [deletionFinalizer] false) = some res →
      res.status.state = customStateProcessing ∨ res.status.state = customStateError :=
    fun _ h => by cases h; exact .inl rfl
  ⟨.single (.pass _ _ _ _ _), hs, runs_stay_processing_or_error (.single (.pass _ _ _ _ _)) hs⟩

/-! ### Progress from creation -/

/-- An accepted pass on a resource without deletion intent and without the deletion finalizer
appends the finalizer. -/
theorem afterPass_addFinalizer {res : Resource} {r : ManifestReconciler} {proto : CustomObject}
    (hp : r.prototype = customObject proto) (hd : res.deletionRequested = false)
    (hf : deletionFinalizer ∉ res.metadata.finalizers) (m : ManifestEnv) (req : Request) :
    Store.afterPass (some res) r m req none = some { res with metadata := { res.metadata with
      finalizers := res.metadata.finalizers ++ [deletionFinalizer]
      resourceVersion := res.metadata.resourceVersion + 1 } } := by
  rw [Store.afterPass, Store.pass, reconcile_of_get r m hp rfl]
  simp only [Ending.commit, hd, Bool.false_eq_true, ne_eq, false_and, ↓reduceIte, hf,
    CustomObject.withFinalizers, CustomObject.decode_metadata, CustomObject.decode_spec,
    CustomObject.decode_status, Write.commit, Write.refused, getResourceVersion, Write.obj,
    Bool.false_and, and_self, Option.some.injEq]
  rfl

/-- An accepted pass on a resource in the initial state, without deletion intent and with the
deletion finalizer, of a reconciler without configured labels records `Processing`. -/
theorem afterPass_initial {res : Resource} {r : ManifestReconciler} {proto : CustomObject}
    (hp : r.prototype = customObject proto) (hl : r.options.resourceLabels.entries = [])
    (hd : res.deletionRequested = false) (hf : deletionFinalizer ∈ res.metadata.finalizers)
    (hs : res.status.state = "") (m : ManifestEnv) (req : Request) :
    Store.afterPass (some res) r m req none = some { res with
      metadata := { res.metadata with resourceVersion := res.metadata.resourceVersion + 1 }
      status := { res.status with state := customStateProcessing } } := by
  rw [Store.afterPass, Store.pass, reconcile_of_get r m hp rfl]
  simp only [Ending.commit, hd, Bool.false_eq_true, hs, ne_eq, false_and, ↓reduceIte, hf,
    dispatch, handleInitialState, getStatusFromObjectInstance_customObject,
    CustomObject.decode_status, hl, List.length_nil, lt_self_iff_false, commitState,
    setStatusForObjectInstance_customObject, CustomObject.decode_metadata,
    CustomObject.decode_spec, Write.commit, Write.refused, getResourceVersion, Write.obj,
    and_self, Option.some.injEq]
  rfl

/-- Progress from creation. When the API server accepts the writes, a reconciler with a typed
prototype and no configured labels brings a newly created resource to `Processing`, with the
deletion finalizer, in at most two passes: the first adds the finalizer if it is missing, the
next records `Processing`. -/
theorem created_reaches_processing {res : Resource} (hc : res.Created) {r : ManifestReconciler}
    {proto : CustomObject} (hp : r.prototype = customObject proto)
    (hl : r.options.resourceLabels.entries = []) (m : ManifestEnv) (req : Request) :
    ∃ k ≤ 2, ∃ res', (fun s : Store => s.afterPass r m req none)^[k] (some res) = some res' ∧
      res'.status.state = customStateProcessing ∧ deletionFinalizer ∈ res'.metadata.finalizers := by
  obtain ⟨hs, hd⟩ := hc
  by_cases hf : deletionFinalizer ∈ res.metadata.finalizers
  · exact ⟨1, by omega, _, afterPass_initial hp hl hd hf hs m req, rfl, hf⟩
  · have hf' : deletionFinalizer ∈ res.metadata.finalizers ++ [deletionFinalizer] :=
      List.mem_append_right _ (List.mem_singleton_self _)
    refine ⟨2, le_rfl, ?_⟩
    show ∃ res', Store.afterPass (Store.afterPass (some res) r m req none) r m req none =
      some res' ∧ _
    rw [afterPass_addFinalizer hp hd hf m req, afterPass_initial hp hl ?_ ?_ ?_ m req]
    exacts [⟨_, rfl, rfl, hf'⟩, hd, hf', hs]

theorem created_reaches_processing_sample :
    (sampleResource "" [] false).Created ∧ (sampleReconciler ∅).prototype = customObject sampleProto ∧
      (sampleReconciler ∅).options.resourceLabels.entries = [] ∧
      ∃ k ≤ 2, ∃ res', (fun s : Store => s.afterPass (sampleReconciler ∅)
          (sampleManifestEnv true (.ok true)) sampleRequest none)^[k]
          (some (sampleResource "" [] false)) = some res' ∧
        res'.status.state = customStateProcessing ∧ deletionFinalizer ∈ res'.metadata.finalizers :=
  ⟨⟨rfl, rfl⟩, rfl, rfl,
    @created_reaches_processing (sampleResource "" [] false) ⟨rfl, rfl⟩ _ _ rfl rfl _ _⟩

end ModuleManager
