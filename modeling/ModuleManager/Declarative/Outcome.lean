import ModuleManager.Declarative.Store

/-!
# What a pass returns

With a typed prototype and a resource that `Get` returns, no accessor can fail, so a pass
returns an error of its own making never: every non-`nil` error it returns is the API server's
answer to its one write (`reconcile_error_is_write_answer`), a rejected write included. An
`*unstructured.Unstructured` prototype fails the type assertion of `Reconcile` before the
resource is read, so the two representations never agree
(`reconcile_typed_unstructured_differ`). A typed value that reaches `HandleProcessingState` or
`HandleDeletingState` with flags the manifest client takes makes `prepareInstallInfo` write
through a `nil` pointer, before any installer call (`reconcile_installInfo_panics`).

## Main results

* `reconcile_error_is_write_answer`, `error_pass_conflict_returned`.
* `reconcile_typed_unstructured_differ`.
* `reconcile_installInfo_panics`.
-/

namespace ModuleManager

open BaseCustomObject ManifestReconciler

namespace ManifestReconciler

section Handlers

variable {r : ManifestReconciler} {m : ManifestEnv} (o : CustomObject)

/-- A manifest client that cannot be built sends both installing handlers to `Error`. -/
theorem handle_manifestClient_error {h : Handler}
    (hh : h = .processingState ∨ h = .deletingState) {err : Error}
    (he : r.getManifestClient m o.spec.chartFlags = .error err) :
    (r.handle m (customObject o) h).ending =
      .write (.statusUpdate (customObject (o.withState customStateError))) := by
  rcases hh with rfl | rfl <;> simp [handle, handleProcessingState, handleDeletingState, he]

/-- Once the manifest client is built, both installing handlers build the `InstallInfo` of a
typed value by writing through a `nil` pointer. -/
theorem handle_installInfo_panics {h : Handler}
    (hh : h = .processingState ∨ h = .deletingState) {ops : Operations}
    (he : r.getManifestClient m o.spec.chartFlags = .ok ops) :
    (r.handle m (customObject o) h).ending = .panic nilPointerDereference ∧
      (r.handle m (customObject o) h).calls = [] := by
  rcases hh with rfl | rfl <;>
    simp [handle, handleProcessingState, handleDeletingState, he, prepareInstallInfo]

end Handlers

end ManifestReconciler

namespace PassCase

variable {r : ManifestReconciler} {m : ManifestEnv} {c : Client} {req : Request} {run : Run}

/-- A pass that reaches a handler runs that handler on the value `Get` decoded. -/
theorem eq_handle (hc : PassCase r m c req run) {h : Handler} (hh : run.handler = some h) :
    ∃ proto res, r.prototype = customObject proto ∧ c.get req.namespacedName = .ok res ∧
      run = { r.handle m (customObject (proto.decode res)) h with handler := some h } := by
  cases hc with
  | dispatch h' hp hg => cases hh; exact ⟨_, _, hp, hg, rfl⟩
  | _ => cases hh

/-- With a typed prototype and a resource that `Get` returns, a pass ends with no error value
but `nil`. -/
theorem ending_ne_ret_some (hc : PassCase r m c req run) {proto : CustomObject} {res : Resource}
    (hp : r.prototype = customObject proto) (hg : c.get req.namespacedName = .ok res)
    (e : Error) : run.ending ≠ .ret (some e) := by
  cases hc with
  | typeError hp' => exact absurd hp (hp' proto)
  | getFailed _ hg' => rw [hg] at hg'; cases hg'
  | dispatch h => exact handle_ending_ne_ret_some _ h e
  | _ => simp

end PassCase

/-! ### Errors -/

/-- A pass returns an error either as its own value or as the answer to its write. -/
theorem Ending.returned_eq_ret_some {e : Ending} {c : Client} {err : Error}
    (h : e.returned c = .ret (some err)) :
    e = .ret (some err) ∨ ∃ w, e = .write w ∧ c.answer w = some err := by
  cases e <;> simp_all [Ending.returned]

/-- The errors a pass returns. With a typed prototype and a resource that `Get` returns, every
non-`nil` error `Reconcile` returns is the API server's answer to the pass's one write, so the
write was rejected and the pass committed nothing; and a write the API server answers with an
error, a conflict included, ends the pass with that error rather than absorbing it. A manifest
client that cannot be built for the spec's flags ends the pass with a status write of `Error`,
not with an error value. -/
theorem reconcile_error_is_write_answer {r : ManifestReconciler} {m : ManifestEnv} {c : Client}
    {req : Request} {proto : CustomObject} {res : Resource}
    (hp : r.prototype = customObject proto) (hg : c.get req.namespacedName = .ok res) :
    (∀ e, (r.reconcile m c req).ending.returned c = .ret (some e) →
      ∃ w, (r.reconcile m c req).ending = .write w ∧ c.answer w = some e) ∧
    (∀ w e, (r.reconcile m c req).ending = .write w → c.answer w = some e →
      (r.reconcile m c req).ending.returned c = .ret (some e)) ∧
    ((r.reconcile m c req).handler = some .processingState ∨
        (r.reconcile m c req).handler = some .deletingState →
      ∀ err, r.getManifestClient m res.spec.chartFlags = .error err →
        (r.reconcile m c req).ending.writtenState = some customStateError) := by
  have hc := reconcile_passCase r m c req
  refine ⟨fun e he => ?_, fun w e hw he => ?_, fun hh err herr => ?_⟩
  · exact (Ending.returned_eq_ret_some he).resolve_left (hc.ending_ne_ret_some hp hg e)
  · rw [hw]
    exact congrArg (Returned.ret ·) he
  · obtain ⟨h, hh', hh⟩ : ∃ h, (h = .processingState ∨ h = .deletingState) ∧
        (r.reconcile m c req).handler = some h :=
      hh.elim (⟨_, .inl rfl, ·⟩) (⟨_, .inr rfl, ·⟩)
    obtain ⟨proto', res', hp', hg', hrun⟩ := hc.eq_handle hh
    cases customObject.inj (hp.symm.trans hp')
    cases Except.ok.inj (hg.symm.trans hg')
    rw [hrun]
    show Ending.writtenState (r.handle m (customObject (proto.decode res)) h).ending = _
    rw [handle_manifestClient_error (proto.decode res) hh' herr]
    rfl

theorem reconcile_error_is_write_answer_flags :
    let res := sampleResource customStateProcessing [deletionFinalizer] false
    let c := Store.client (some res) (some .conflict)
    let r := sampleReconciler ∅
    let m := sampleManifestEnv false (.ok true)
    r.prototype = customObject sampleProto ∧ c.get sampleRequest.namespacedName = .ok res ∧
      (r.reconcile m c sampleRequest).handler = some .processingState ∧
      r.getManifestClient m res.spec.chartFlags = .error (.message "key has no value") ∧
      (r.reconcile m c sampleRequest).ending.returned c = .ret (some .conflict) ∧
      ((∀ e, (r.reconcile m c sampleRequest).ending.returned c = .ret (some e) →
        ∃ w, (r.reconcile m c sampleRequest).ending = .write w ∧ c.answer w = some e) ∧
      (∀ w e, (r.reconcile m c sampleRequest).ending = .write w → c.answer w = some e →
        (r.reconcile m c sampleRequest).ending.returned c = .ret (some e)) ∧
      ((r.reconcile m c sampleRequest).handler = some .processingState ∨
          (r.reconcile m c sampleRequest).handler = some .deletingState →
        ∀ err, r.getManifestClient m res.spec.chartFlags = .error err →
          (r.reconcile m c sampleRequest).ending.writtenState = some customStateError)) :=
  ⟨rfl, rfl, rfl, rfl, rfl, reconcile_error_is_write_answer rfl rfl⟩

theorem error_pass_conflict_returned :
    let c := Store.client (some (sampleResource customStateError [deletionFinalizer] false))
      (some .conflict)
    ((sampleReconciler ∅).reconcile (sampleManifestEnv true (.ok true)) c
      sampleRequest).ending.returned c = .ret (some .conflict) :=
  rfl

/-! ### The two representations -/

/-- On every resource that `Get` returns, a pass with an `*unstructured.Unstructured`
prototype ends otherwise than the same pass with a typed one: the type assertion of
`Reconcile` sends it to the type error before the resource is read. -/
theorem reconcile_typed_unstructured_differ (r : ManifestReconciler) (proto : CustomObject)
    (u : Unstructured) (m : ManifestEnv) {c : Client} {req : Request} {res : Resource}
    (hg : c.get req.namespacedName = .ok res) :
    ({ r with prototype := unstructured u }.reconcile m c req).ending =
        .ret (some (getTypeError req.namespacedName.toString)) ∧
      ({ r with prototype := customObject proto }.reconcile m c req).ending ≠
        ({ r with prototype := unstructured u }.reconcile m c req).ending :=
  ⟨rfl, (reconcile_passCase _ m c req).ending_ne_ret_some rfl hg _⟩

theorem reconcile_typed_unstructured_differ_fresh :
    (Store.client (some (sampleResource "" [] false)) none).get sampleRequest.namespacedName =
        .ok (sampleResource "" [] false) ∧
      ({ sampleReconciler ∅ with prototype := unstructured ⟨[]⟩ }.reconcile
          (sampleManifestEnv true (.ok true)) (Store.client (some (sampleResource "" [] false)) none)
          sampleRequest).ending =
        .ret (some (getTypeError "default/sample")) ∧
      ({ sampleReconciler ∅ with prototype := customObject sampleProto }.reconcile
          (sampleManifestEnv true (.ok true)) (Store.client (some (sampleResource "" [] false)) none)
          sampleRequest).ending ≠
        ({ sampleReconciler ∅ with prototype := unstructured ⟨[]⟩ }.reconcile
          (sampleManifestEnv true (.ok true)) (Store.client (some (sampleResource "" [] false)) none)
          sampleRequest).ending :=
  ⟨rfl, reconcile_typed_unstructured_differ (sampleReconciler ∅) sampleProto ⟨[]⟩
    (sampleManifestEnv true (.ok true)) rfl⟩

/-! ### The installer is not reached -/

/-- A typed resource that `Reconcile` dispatches to `HandleProcessingState` or
`HandleDeletingState`, and whose flags the manifest client takes, makes the pass panic in
`prepareInstallInfo`, before any installer call. -/
theorem reconcile_installInfo_panics {r : ManifestReconciler} {m : ManifestEnv} {c : Client}
    {req : Request} {proto : CustomObject} {res : Resource}
    (hp : r.prototype = customObject proto) (hg : c.get req.namespacedName = .ok res)
    (hs : (res.status.state = customStateProcessing ∧ res.deletionRequested = false) ∨
      res.status.state = customStateDeleting)
    (hf : deletionFinalizer ∈ res.metadata.finalizers) {ops : Operations}
    (hm : r.getManifestClient m res.spec.chartFlags = .ok ops) :
    (r.reconcile m c req).ending = .panic nilPointerDereference ∧
      (r.reconcile m c req).calls = [] := by
  obtain ⟨h, hh, hst⟩ : ∃ h : Handler, (h = .processingState ∨ h = .deletingState) ∧
      res.status.state = h.state ∧ ¬(res.deletionRequested ∧ res.status.state ≠ customStateDeleting) := by
    rcases hs with ⟨hs, hd⟩ | hs
    · exact ⟨_, .inl rfl, hs, by simp [hd]⟩
    · exact ⟨_, .inr rfl, hs, by simp [hs]⟩
  rw [reconcile_of_get r m hp hg]
  simp only [if_neg hst.2, if_pos hf, dispatch_eq, Handler.ofState_eq_some.2 hst.1]
  exact handle_installInfo_panics _ hh hm

theorem reconcile_installInfo_panics_processing :
    (sampleReconciler ∅).getManifestClient (sampleManifestEnv true (.ok true)) "" =
        .ok ⟨fun _ => .ok true, fun _ => .ok true⟩ ∧
      ((sampleReconciler ∅).reconcile (sampleManifestEnv true (.ok true))
          (Store.client (some (sampleResource customStateProcessing [deletionFinalizer] false))
            none) sampleRequest).ending = .panic nilPointerDereference ∧
      ((sampleReconciler ∅).reconcile (sampleManifestEnv true (.ok true))
          (Store.client (some (sampleResource customStateProcessing [deletionFinalizer] false))
            none) sampleRequest).calls = [] :=
  ⟨rfl, reconcile_installInfo_panics rfl rfl (.inl ⟨rfl, rfl⟩) (List.mem_singleton_self _) rfl⟩

end ModuleManager
