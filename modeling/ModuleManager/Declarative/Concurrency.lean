import ModuleManager.Declarative.Store

/-!
# Passes that overlap

The same key may be delivered to several passes at once, and the engine takes no lock. A pass
reads the persisted resource with its resource version, runs the handler it dispatches to,
calling the installer, and later commits its one write, which the API server rejects when the
resource changed since the read (`Write.commit`). Between the read and the commit the pass is
running (`Phase.running`); any number of passes, their reads and commits, and the steps of the
other actors interleave (`ConcStep`).

Nothing keeps two passes out of each other's handlers: one can be in `HandleProcessingState`
while another is in `HandleDeletingState` (`passes_overlap`). What the version check gives is
that commits are serialized: a commit is accepted only when nothing was committed since its
pass read, so the persisted resource goes only through what passes run one at a time reach
(`concurrent_commits_serialize`). Each commit takes effect as the pass run alone on the resource
persisted at the commit (`ConcReachable.commit_linearizes`), and, since a pass that reads and
commits with nothing in between is a pass run alone, interleaving reaches exactly the persisted
resources that serial runs reach (`concReachable_iff_reachable`).

## Main definitions

* `Phase`, `Cluster`, `ConcStep`, `ConcReachable`.
* `Serial`: the invariant of interleaved passes.

## Main results

* `concurrent_commits_serialize`, `passes_overlap`.
* `ConcReachable.commit_linearizes`: every commit acts as a serial pass on the current resource.
* `concReachable_iff_reachable`: interleaved and serial runs persist the same resources.
-/

namespace ModuleManager

open BaseCustomObject ManifestReconciler

/-! ### Resource versions -/

@[simp] theorem Write.apply_resourceVersion (w : Write) (res : Resource) :
    (w.apply res).metadata.resourceVersion = res.metadata.resourceVersion + 1 := by
  cases w <;> rfl

/-- `s'` is `s` changed once: removed, or given the next resource version. -/
def Store.Bumps (s s' : Store) : Prop :=
  ∀ cur', s' = some cur' → ∃ cur, s = some cur ∧
    cur'.metadata.resourceVersion = cur.metadata.resourceVersion + 1

theorem EnvStep.bumps {s s' : Store} (h : EnvStep s s') : s.Bumps s' := by
  cases h <;> rintro _ ⟨⟩ <;> exact ⟨_, rfl, rfl⟩

theorem Ending.commit_none_store (answer : Option Error) (e : Ending) :
    e.commit answer none = none := by
  cases e <;> simp [Ending.commit, Write.commit]

/-- An accepted write changes the persisted resource once. -/
theorem Ending.commit_accepted (e : Ending) (cur : Resource) :
    e.commit none (some cur) = some cur ∨ Store.Bumps (some cur) (e.commit none (some cur)) := by
  cases e with
  | write w =>
    show w.commit (some cur) = some cur ∨ Store.Bumps (some cur) (w.commit (some cur))
    rcases Write.commit_some w cur with h | h <;> rw [h]
    · exact .inl rfl
    · exact .inr fun _ h' => ⟨cur, rfl, by cases h'; simp⟩
  | _ => exact .inl rfl

/-- The object a pass writes carries the resource version of what the pass read. -/
theorem PassCase.write_resourceVersion {r : ManifestReconciler} {m : ManifestEnv} {c : Client}
    {req : Request} {run : Run} (hc : PassCase r m c req run) {w : Write}
    (hw : run.ending = .write w) :
    ∃ res, c.get req.namespacedName = .ok res ∧
      w.obj.getResourceVersion = res.metadata.resourceVersion := by
  cases w with
  | statusUpdate obj =>
    obtain ⟨proto, res, -, -, hg, rfl, -⟩ := hc.statusUpdate hw
    exact ⟨res, hg, rfl⟩
  | update obj =>
    obtain ⟨proto, res, -, hg, h⟩ := hc.update hw
    rcases h with ⟨-, -, rfl⟩ | ⟨_, rfl⟩ | ⟨-, -, -, rfl, -⟩ <;> exact ⟨res, hg, rfl⟩

/-- A pass whose read is not the persisted version has its write rejected. -/
theorem Store.pass_commit_stale {res cur : Resource} (r : ManifestReconciler) (m : ManifestEnv)
    (req : Request) (answer : Option Error)
    (hv : res.metadata.resourceVersion ≠ cur.metadata.resourceVersion) :
    (Store.pass (some res) r m req answer).ending.commit none (some cur) = some cur := by
  cases hw : (Store.pass (some res) r m req answer).ending with
  | write w =>
    obtain ⟨res', hg, hver⟩ := (reconcile_passCase r m _ req).write_resourceVersion hw
    cases Store.eq_of_client_get hg
    simp [Ending.commit, Write.commit, hver, hv]
  | _ => rfl

/-! ### Interleaved passes -/

/-- Where a pass is: not running, or between its read and its commit, with the resource it read
and what it did with it. -/
inductive Phase
  | idle
  | running (read : Resource) (run : Run)

/-- The persisted resource under one key, and the passes on it. -/
structure Cluster where
  store : Store
  passes : Nat → Phase

/-- One step of interleaved passes: an idle pass reads the persisted resource and runs its
handler (`read`); a running pass commits its write, which the API server checks against the
resource version (`commit`); or the other actors change the persisted resource (`env`). -/
inductive ConcStep : Cluster → Cluster → Prop
  | read {g : Cluster} {res : Resource} (i : Nat) (r : ManifestReconciler) (m : ManifestEnv)
      (req : Request) (hi : g.passes i = .idle) (hs : g.store = some res) :
      ConcStep g
        { g with
          passes := Function.update g.passes i (.running res (Store.pass (some res) r m req none)) }
  | commit {g : Cluster} {res : Resource} {run : Run} (i : Nat)
      (hi : g.passes i = .running res run) :
      ConcStep g
        { store := run.ending.commit none g.store
          passes := Function.update g.passes i .idle }
  | env {g : Cluster} {s : Store} (h : EnvStep g.store s) : ConcStep g { g with store := s }

/-- The clusters of the interleaved runs from a newly created resource. -/
inductive ConcReachable : Cluster → Prop
  | create {res : Resource} (h : res.Created) : ConcReachable ⟨some res, fun _ => .idle⟩
  | step {g g' : Cluster} (hg : ConcReachable g) (h : ConcStep g g') : ConcReachable g'

/-! ### Commits are serialized -/

/-- The read of a running pass is no newer than the persisted resource, and is that resource
when it has its resource version. -/
def ReadFresh (res : Resource) (s : Store) : Prop :=
  ∀ cur, s = some cur → res.metadata.resourceVersion ≤ cur.metadata.resourceVersion ∧
    (res.metadata.resourceVersion = cur.metadata.resourceVersion → res = cur)

theorem ReadFresh.of_bumps {res : Resource} {s s' : Store} (h : ReadFresh res s)
    (hb : s.Bumps s') : ReadFresh res s' := by
  intro cur' hs'
  obtain ⟨cur, hs, hv⟩ := hb cur' hs'
  have := (h cur hs).1
  exact ⟨by omega, fun _ => by omega⟩

/-- The commit of a pass whose read is fresh is rejected, or is the pass run alone on the
persisted resource. -/
theorem Store.pass_commit_cases {res : Resource} {s : Store} (hfresh : ReadFresh res s)
    (r : ManifestReconciler) (m : ManifestEnv) (req : Request) :
    (Store.pass (some res) r m req none).ending.commit none s = s ∨
      (s = some res ∧
        (Store.pass (some res) r m req none).ending.commit none s =
          Store.afterPass (some res) r m req none ∧
        s.Bumps ((Store.pass (some res) r m req none).ending.commit none s)) := by
  rcases s with _ | cur
  · exact .inl (Ending.commit_none_store _ _)
  · by_cases hv : res.metadata.resourceVersion = cur.metadata.resourceVersion
    · obtain rfl := (hfresh cur rfl).2 hv
      exact (Ending.commit_accepted _ res).imp_right fun hb => ⟨rfl, rfl, hb⟩
    · exact .inl (Store.pass_commit_stale r m req none hv)

/-- The invariant of interleaved passes: the persisted resource is one that passes run one at
a time reach, and every running pass ran alone on a read that is fresh. -/
structure Serial (g : Cluster) : Prop where
  reachable : Reachable g.store
  running : ∀ i res run, g.passes i = .running res run →
    (∃ r m req, run = Store.pass (some res) r m req none) ∧ ReadFresh res g.store

theorem Serial.create {res : Resource} (h : res.Created) :
    Serial ⟨some res, fun _ => .idle⟩ :=
  ⟨.create h, fun _ _ _ h => by cases h⟩

/-- The passes other than `i` keep the invariant when the persisted resource is unchanged or
changed once. -/
theorem Serial.running_update {g : Cluster} (hg : Serial g) {s : Store}
    (hs : s = g.store ∨ g.store.Bumps s) (i : Nat) {j : Nat} (hji : j ≠ i) (res : Resource)
    (run : Run) (p : Phase) (hj : Function.update g.passes i p j = .running res run) :
    (∃ r m req, run = Store.pass (some res) r m req none) ∧ ReadFresh res s := by
  rw [Function.update_noteq hji] at hj
  refine (hg.running j res run hj).imp_right fun h => ?_
  rcases hs with rfl | hb
  · exact h
  · exact h.of_bumps hb

theorem ConcStep.serial {g g' : Cluster} (h : ConcStep g g') (hg : Serial g) : Serial g' := by
  cases h with
  | read i r m req hi hs =>
    refine ⟨hg.reachable, fun j res run hj => ?_⟩
    by_cases hji : j = i
    · subst hji
      simp only [Function.update_same, Phase.running.injEq] at hj
      obtain ⟨rfl, rfl⟩ := hj
      refine ⟨⟨r, m, req, rfl⟩, fun cur hcur => ?_⟩
      cases hs.symm.trans hcur
      exact ⟨le_rfl, fun _ => rfl⟩
    · exact hg.running_update (.inl rfl) i hji res run _ hj
  | commit i hi =>
    obtain ⟨⟨r, m, req, rfl⟩, hfresh⟩ := hg.running i _ _ hi
    have hrun : ∀ j res run, Function.update g.passes i .idle j = .running res run → j ≠ i :=
      fun j _ _ hj hji => by subst hji; simp at hj
    rcases Store.pass_commit_cases hfresh r m req with h | ⟨hs, h, hb⟩
    · refine ⟨by dsimp only; rw [h]; exact hg.reachable, fun j res run hj => ?_⟩
      exact hg.running_update (.inl h) i (hrun j res run hj) res run _ hj
    · refine ⟨by dsimp only; rw [h]; exact .step (hs ▸ hg.reachable) (.pass _ r m req none),
        fun j res run hj => ?_⟩
      exact hg.running_update (.inr hb) i (hrun j res run hj) res run _ hj
  | env he =>
    refine ⟨.step hg.reachable (.env he), fun j res run hj => ?_⟩
    exact (hg.running j res run hj).imp_right (·.of_bumps he.bumps)

theorem ConcReachable.serial {g : Cluster} (h : ConcReachable g) : Serial g := by
  induction h with
  | create hc => exact .create hc
  | step _ hstep ih => exact hstep.serial ih

/-- Interleaved passes are serialized by the version check. Whatever the interleaving, the
persisted resource is one that passes run one at a time reach; a pass inside
`HandleProcessingState` read a resource with the deletion finalizer and without deletion
intent; and the write of a running pass is rejected, leaving the persisted resource as it is,
once anything was committed since its read. -/
theorem concurrent_commits_serialize {g : Cluster} (hg : ConcReachable g) :
    Reachable g.store ∧
      ∀ i res run, g.passes i = .running res run →
        (run.handler = some .processingState →
          deletionFinalizer ∈ res.metadata.finalizers ∧ res.deletionRequested = false) ∧
        (g.store ≠ some res → run.ending.commit none g.store = g.store) := by
  have hs := hg.serial
  refine ⟨hs.reachable, fun i res run hi => ?_⟩
  obtain ⟨⟨r, m, req, rfl⟩, hfresh⟩ := hs.running i res run hi
  refine ⟨fun hh => ?_, fun hne => ?_⟩
  · obtain ⟨-, res', -, hg', hguard, hf, hst⟩ := (reconcile_passCase r m _ req).handler_eq_some hh
    cases Store.eq_of_client_get hg'
    have hpd : customStateProcessing ≠ customStateDeleting := by decide
    exact ⟨hf, by simpa [hst, Handler.state, hpd] using hguard⟩
  · exact (Store.pass_commit_cases hfresh r m req).resolve_right fun h => hne h.1

/-- The overlap. Pass `0` reads `Processing` and enters `HandleProcessingState`; deletion is
requested; pass `1` records it as `Deleting`; pass `2` reads that and enters
`HandleDeletingState` while pass `0` is still running, on a read that is no longer the persisted
resource. -/
theorem overlap_reachable :
    ∃ g, ConcReachable g ∧
      (∃ res run, g.passes 0 = .running res run ∧ run.handler = some .processingState ∧
        g.store ≠ some res) ∧
      (∃ res run, g.passes 2 = .running res run ∧ run.handler = some .deletingState) := by
  have h0 : ConcReachable ⟨some (sampleResource "" [] false), fun _ => .idle⟩ :=
    .create ⟨rfl, rfl⟩
  have h1 := h0.step (.read 0 (sampleReconciler ∅) (sampleManifestEnv true (.ok true))
    sampleRequest rfl rfl)
  have h2 := h1.step (.commit 0 rfl)
  have h3 := h2.step (.read 0 (sampleReconciler ∅) (sampleManifestEnv true (.ok true))
    sampleRequest rfl rfl)
  have h4 := h3.step (.commit 0 rfl)
  have h5 := h4.step (.read 0 (sampleReconciler ∅) (sampleManifestEnv true (.ok true))
    sampleRequest rfl rfl)
  have h6 := h5.step (.env (.requestDeletion ⟨1, 0, by decide⟩ rfl rfl))
  have h7 := h6.step (.read 1 (sampleReconciler ∅) (sampleManifestEnv true (.ok true))
    sampleRequest rfl rfl)
  have h8 := h7.step (.commit 1 rfl)
  have h9 := h8.step (.read 2 (sampleReconciler ∅) (sampleManifestEnv true (.ok true))
    sampleRequest rfl rfl)
  refine ⟨_, h9, ⟨_, _, rfl, rfl, fun h => ?_⟩, ⟨_, _, rfl, rfl⟩⟩
  have hv := congrArg (Option.map fun res : Resource => res.metadata.resourceVersion) h
  exact absurd hv (by decide)

theorem concurrent_commits_serialize_overlap :
    ∃ g, ConcReachable g ∧
      (∃ res run, g.passes 0 = .running res run ∧ run.handler = some .processingState ∧
        g.store ≠ some res) ∧
      (Reachable g.store ∧
        ∀ i res run, g.passes i = .running res run →
          (run.handler = some .processingState →
            deletionFinalizer ∈ res.metadata.finalizers ∧ res.deletionRequested = false) ∧
          (g.store ≠ some res → run.ending.commit none g.store = g.store)) :=
  let ⟨g, hg, h0, _⟩ := overlap_reachable
  ⟨g, hg, h0, concurrent_commits_serialize hg⟩

theorem passes_overlap :
    ∃ g, ConcReachable g ∧
      (∃ res run, g.passes 0 = .running res run ∧ run.handler = some .processingState) ∧
      (∃ res run, g.passes 2 = .running res run ∧ run.handler = some .deletingState) :=
  let ⟨g, hg, ⟨res, run, h0, hh, _⟩, h2⟩ := overlap_reachable
  ⟨g, hg, ⟨res, run, h0, hh⟩, h2⟩

/-! ### Linearization -/

/-- Every commit of interleaved passes takes effect as a pass run alone on the resource persisted
at the commit: it leaves that resource as it is, or leaves what such a pass leaves. -/
theorem ConcReachable.commit_linearizes {g : Cluster} (hg : ConcReachable g) {i : Nat}
    {res : Resource} {run : Run} (hi : g.passes i = .running res run) :
    run.ending.commit none g.store = g.store ∨
      ∃ r m req, run.ending.commit none g.store = Store.afterPass g.store r m req none := by
  obtain ⟨⟨r, m, req, rfl⟩, hfresh⟩ := hg.serial.running i res run hi
  exact (Store.pass_commit_cases hfresh r m req).imp_right fun ⟨hs, h, _⟩ =>
    ⟨r, m, req, by rw [h, hs]⟩

theorem ConcReachable.commit_linearizes_created :
    let res := sampleResource "" [] false
    let run := Store.pass (some res) (sampleReconciler ∅) (sampleManifestEnv true (.ok true))
      sampleRequest none
    let g : Cluster := ⟨some res, Function.update (fun _ => .idle) 0 (.running res run)⟩
    ConcReachable g ∧ g.passes 0 = .running res run ∧
      (run.ending.commit none g.store = g.store ∨
        ∃ r m req, run.ending.commit none g.store = Store.afterPass g.store r m req none) := by
  intro res run g
  have hg : ConcReachable g := (@ConcReachable.create res ⟨rfl, rfl⟩).step
    (.read 0 (sampleReconciler ∅) (sampleManifestEnv true (.ok true)) sampleRequest rfl rfl)
  exact ⟨hg, rfl, @ConcReachable.commit_linearizes g hg 0 res run rfl⟩

/-- A write the API server refuses leaves the persisted resource as it is. -/
theorem Ending.commit_rejected (err : Error) (s : Store) (e : Ending) :
    e.commit (some err) s = s := by
  cases e <;> rfl

/-- A serial run is an interleaved run with no pass running between its steps: a pass whose
write is accepted reads and commits with nothing in between. -/
theorem ConcReachable.of_reachable {s : Store} (h : Reachable s) :
    ConcReachable ⟨s, fun _ => .idle⟩ := by
  induction h with
  | create hc => exact .create hc
  | @step s _ _ hstep ih =>
    cases hstep with
    | env he => exact ih.step (.env he)
    | pass r m req answer =>
      rcases s with _ | res
      · rwa [Store.afterPass_none]
      cases answer with
      | some err => rwa [Store.afterPass, Ending.commit_rejected]
      | none =>
        have hidle : Function.update (fun _ => Phase.idle) 0 Phase.idle = fun _ => .idle :=
          Function.update_eq_self 0 _
        have h2 := (ih.step (.read 0 r m req rfl rfl)).step (.commit 0 rfl)
        rwa [Function.update_idem, hidle] at h2

/-- Interleaving adds no persisted resource: under any interleaving of passes and of the other
actors, the persisted resources are exactly those of the runs that take one pass at a time. -/
theorem concReachable_iff_reachable (s : Store) :
    (∃ g, ConcReachable g ∧ g.store = s) ↔ Reachable s :=
  ⟨fun ⟨_, hg, hs⟩ => hs ▸ hg.serial.reachable, fun h => ⟨_, .of_reachable h, rfl⟩⟩

end ModuleManager
