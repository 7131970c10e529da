import ModuleManager.Declarative.Outcome

/-!
# Configured resource labels

`HandleInitialState` copies the configured labels into the label map of the resource, one entry
at a time, and then empties the configured map of the reconciler. Copying into a resource
without labels assigns into the `nil` map that `GetLabels` returns (`assignLabels_none`);
otherwise the result maps every configured key to its configured value and keeps every other
key (`lookup_assignLabels`). Emptying the configured map, by a pass that writes the labels, is
the only change a pass makes to the reconciler, so any history of passes leaves it as it was or
with its labels consumed (`afterPasses_cases`).

## Main results

* `initial_pass_labels`: what a pass dispatched to `HandleInitialState` commits.
* `afterPasses_cases`: the reconciler after any sequence of passes.
-/

namespace ModuleManager

open BaseCustomObject ManifestReconciler

/-! ### Copying the configured labels -/

theorem lookup_insertAll (l : StringMap) {es : List (Sigma fun _ : String => String)}
    (hes : es.NodupKeys) (k : String) :
    (insertAll l es).lookup k = if k ∈ es.keys then es.dlookup k else l.lookup k := by
  induction es generalizing l with
  | nil => simp [insertAll]
  | cons e es ih =>
    obtain ⟨k', v⟩ := e
    obtain ⟨he, hes⟩ := List.nodupKeys_cons.1 hes
    simp only [insertAll, List.foldl_cons] at ih ⊢
    rw [ih _ hes, List.keys_cons]
    by_cases hk : k = k'
    · subst hk
      simp [he, AList.lookup_insert, List.dlookup_cons_eq]
    · by_cases hk' : k ∈ es.keys <;>
        simp [hk, hk', AList.lookup_insert_ne hk, List.dlookup_cons_ne es (⟨k', v⟩ : Sigma fun _ : String => String) hk]

/-- Copying into a label map gives every configured key its configured value and keeps every
other key. -/
theorem lookup_assignLabels (l L : StringMap) (k : String) :
    (insertAll l L.entries).lookup k = if k ∈ L then L.lookup k else l.lookup k := by
  rw [lookup_insertAll l L.nodupKeys]
  exact if_congr AList.mem_keys.symm rfl rfl

/-! ### The pass in the initial state -/

section Initial

variable {r : ManifestReconciler} {m : ManifestEnv} {c : Client} {req : Request}
  {proto : CustomObject} {res : Resource}

/-- A pass dispatched to `HandleInitialState` runs it on the value `Get` decoded. -/
theorem reconcile_of_initial (hp : r.prototype = customObject proto)
    (hg : c.get req.namespacedName = .ok res) (hd : res.deletionRequested = false)
    (hf : deletionFinalizer ∈ res.metadata.finalizers) (hs : res.status.state = "") :
    (r.reconcile m c req) =
      { r.handleInitialState (customObject (proto.decode res)) with
        handler := some .initialState } := by
  rw [reconcile_of_get r m hp hg]
  simp only [hd, Bool.false_eq_true, false_and, if_false, if_pos hf, dispatch_eq, hs]
  rfl

/-- Label application. A pass on a resource in the initial state, with the deletion finalizer
and without deletion intent, commits `Processing` when no labels are configured. Otherwise it
panics on a resource without labels, and on one with labels it writes the labels overridden by
the configured ones. -/
theorem initial_pass_labels (hp : r.prototype = customObject proto)
    (hg : c.get req.namespacedName = .ok res) (hd : res.deletionRequested = false)
    (hf : deletionFinalizer ∈ res.metadata.finalizers) (hs : res.status.state = "") :
    (r.options.resourceLabels.entries = [] → (r.reconcile m c req).ending =
      .write (.statusUpdate (customObject ((proto.decode res).withState customStateProcessing)))) ∧
    (r.options.resourceLabels.entries ≠ [] → res.metadata.labels = none →
      (r.reconcile m c req).ending = .panic nilMapAssignment) ∧
    (r.options.resourceLabels.entries ≠ [] → ∀ l, res.metadata.labels = some l →
      ∃ l' : StringMap, (r.reconcile m c req).ending =
          .write (.update (customObject ((proto.decode res).withLabels (some l')))) ∧
        ∀ k, l'.lookup k =
          if k ∈ r.options.resourceLabels then r.options.resourceLabels.lookup k
          else l.lookup k) := by
  rw [reconcile_of_initial hp hg hd hf hs]
  refine ⟨fun hL => ?_, fun hL hl => ?_, fun hL l hl => ⟨_, ?_, lookup_assignLabels l _⟩⟩
  · simp only [handleInitialState, getStatusFromObjectInstance_customObject, hL,
      List.length_nil, Nat.lt_irrefl, if_false]
    rfl
  · simp [handleInitialState, List.length_pos.2 hL, getLabels, hl, assignLabels_none hL]
  · simp [handleInitialState, List.length_pos.2 hL, getLabels, hl, assignLabels_some]
    rfl

end Initial

/-- A label map to configure: `app` set to `x`. -/
def appLabels : StringMap :=
  (∅ : StringMap).insert "app" "x"

theorem initial_pass_labels_unlabelled :
    (sampleResource "" [deletionFinalizer] false none).metadata.labels = none ∧
      (sampleReconciler appLabels).options.resourceLabels.entries ≠ [] ∧
      ((sampleReconciler appLabels).reconcile (sampleManifestEnv true (.ok true))
          (Store.client (some (sampleResource "" [deletionFinalizer] false none)) none)
          sampleRequest).ending = .panic nilMapAssignment :=
  ⟨rfl, List.cons_ne_nil _ _,
    (@initial_pass_labels (sampleReconciler appLabels) (sampleManifestEnv true (.ok true))
      (Store.client (some (sampleResource "" [deletionFinalizer] false none)) none) sampleRequest
      sampleProto (sampleResource "" [deletionFinalizer] false none) rfl rfl rfl
      (List.mem_singleton_self _) rfl).2.1 (List.cons_ne_nil _ _) rfl⟩

/-! ### The reconciler across passes -/

namespace ManifestReconciler

/-- The reconciler after a sequence of passes, each with its own manifest library, client and
key: the manager calls `Reconcile` on the one reconciler it registered. -/
def afterPasses (r : ManifestReconciler) : List (ManifestEnv × Client × Request) → ManifestReconciler
  | [] => r
  | (m, c, req) :: ps => afterPasses (r.reconcile m c req).reconciler ps

@[simp] theorem clearResourceLabels_clearResourceLabels (r : ManifestReconciler) :
    r.clearResourceLabels.clearResourceLabels = r.clearResourceLabels := rfl

/-- Statelessness between passes, as far as it holds. A pass leaves the reconciler as it was,
unless it dispatched to `HandleInitialState` with labels configured, on a resource that has
labels, and wrote them; then it leaves the reconciler with its configured labels consumed. So
any sequence of passes leaves the prototype, the config and the options of the reconciler as
they were, except that the configured labels may have been consumed. -/
theorem afterPasses_cases (r : ManifestReconciler) :
    (∀ m c req, (r.reconcile m c req).reconciler = r ∨
      ((r.reconcile m c req).handler = some .initialState ∧
        r.options.resourceLabels.entries ≠ [] ∧
        (∃ proto res l, r.prototype = customObject proto ∧
          c.get req.namespacedName = .ok res ∧ res.metadata.labels = some l ∧
          (r.reconcile m c req).ending = .write (.update (customObject
            ((proto.decode res).withLabels (some (insertAll l r.options.resourceLabels.entries)))))) ∧
        (r.reconcile m c req).reconciler = r.clearResourceLabels)) ∧
    ∀ ps, r.afterPasses ps = r ∨ r.afterPasses ps = r.clearResourceLabels := by
  have hpass (r : ManifestReconciler) m c req := (reconcile_passCase r m c req).reconciler_cases
  refine ⟨hpass r, fun ps => ?_⟩
  induction ps generalizing r with
  | nil => exact .inl rfl
  | cons p ps ih =>
    obtain ⟨m, c, req⟩ := p
    rcases hpass r m c req with h | ⟨-, -, -, h⟩ <;> simp only [afterPasses, h]
    · exact ih r
    · exact .inr ((ih _).elim id (·.trans (clearResourceLabels_clearResourceLabels r)))

end ManifestReconciler

theorem initial_pass_consumes_labels :
    sampleReconciler appLabels =
        (sampleReconciler ∅).applyOptions [fun p => { p with resourceLabels := appLabels }] ∧
      ((sampleReconciler appLabels).reconcile (sampleManifestEnv true (.ok true))
          (Store.client (some (sampleResource "" [deletionFinalizer] false)) none)
          sampleRequest).reconciler ≠ sampleReconciler appLabels :=
  ⟨rfl, fun h => List.cons_ne_nil _ _
    (congrArg (fun r : ManifestReconciler => r.options.resourceLabels.entries) h).symm⟩

end ModuleManager
