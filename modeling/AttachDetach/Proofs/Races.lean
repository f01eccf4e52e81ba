import AttachDetach.Proofs.Detail

/-!
# Races between a `Reconcile` read and the write that follows it

A trigger's update function re-checks only what `updateState` checks: the state of the
version it overwrites.  Everything else `Reconcile` decided on (the deletion timestamp,
the detail, the annotations) may have changed since its read.

* `attach_write_overwrites_unattached_version`: the Attaching write of `triggerAttach`
  does overwrite a version in `AttachmentPending` or `AttachmentFailed`, and then, by the
  detail invariant, one with no detail.  Its deletion timestamp is not re-checked:
  `attach_write_after_deletion_requested` is a run where the deletion was requested
  between `Reconcile`'s read and the write, and `PublishVolume` still goes out.
* The finalizer-only path of `triggerDetach` re-checks nothing, and takes no lock.  On the
  same run a second pass, which read the deleted version while it was still
  `AttachmentPending`, strips the finalizer from the `Attaching` version written in the
  meantime: the record is gone while `PublishVolume` is outstanding
  (`finalizer_removed_while_publish_outstanding`), and once the name is reused a second
  `PublishVolume` goes out beside the first (`second_publish_while_first_outstanding`).

The run, for every choice of the constants:

```text
Kubernetes creates VolumeAttachment va
create (no finalizer)          Pending
Recover writes initializeMeta  Pending, finalizer
pass 0 reads it: attach        (takes the lock)
a client deletes the record    Pending, finalizer, deleting
pass 1 reads it: detach, the VolumeAttachment is present: finalizer-only path
pass 0 writes                  Attaching, finalizer, deleting     PublishVolume #1
pass 1 writes                  no finalizer, deleting: removed
create under the same name     Pending
pass 2 reads it: attach        Attaching                          PublishVolume #2
```
-/

namespace AttachDetach

open AzVolumeAttachmentAttachmentState

variable {K : Env}

/-- **`triggerAttach` writes `Attaching` only over a version in `AttachmentPending` or
`AttachmentFailed` with no detail.** -/
theorem attach_write_overwrites_unattached_version {c c' : Cluster} (hc : Reachable K c)
    {i : Nat} {p : Pass} (hp : c.passes[i]? = some p) (ht : p.phase = .updating .attach)
    (h : step K c (.commit i) = some c') (hissued : c'.tasks.length = c.tasks.length + 1) :
    ∃ a, c.store = some a ∧
      (a.obj.status.state = attachmentPending ∨ a.obj.status.state = attachmentFailed) ∧
      a.obj.status.detail = none := by
  obtain ⟨p', t, hp', ht', hcases⟩ := step_commit h
  cases hp.symm.trans hp'
  cases ht.symm.trans ht'
  rcases hcases with ⟨-, rfl⟩ | ⟨a, w, ha, hw, -⟩
  · simp at hissued
  · obtain ⟨hs, -⟩ := updateState_eq_ok_iff.1 hw
    have hstate := attaching_mem_allowed_iff.1 (by simpa using hs)
    refine ⟨a, ha, hstate, Option.not_isSome_iff_eq_none.1 fun hd => ?_⟩
    have := hc.not_unattached_of_detail ha hd
    rcases hstate with h' | h' <;> simp_all

/-! ## The run -/

/-- The record of the run: no finalizer yet, and an annotation naming a `VolumeAttachment`. -/
def raceRecord (K : Env) : AzVolumeAttachment where
  finalizers := []
  labels := fun _ => none
  annotations := fun key => if key = K.volumeAttachmentExistsAnnotation then some "va" else none
  deletionTimestamp := none
  spec :=
    { underlyingVolume := "pv"
      volumeID := "disk"
      nodeName := "node"
      requestedRole := .primary
      volumeContext := fun _ => none }
  status := { detail := none, state := attachmentPending, error := none }

/-- Up to the two commits: pass 0 chose attach, then pass 1 chose the finalizer-only path.
Every `Reconcile` reads the `VolumeAttachment` the API server holds. -/
def raceStart (K : Env) : List Event :=
  [.changeVolumeAttachment "va" (some false), .create (raceRecord K), .recoverUpdate,
    .reconcile 1 (.found false), .acquire 0, .delete, .reconcile 2 (.found false)]

/-- After the record is gone: re-creation and a new attach. -/
def raceRestart (K : Env) : List Event :=
  [.create (raceRecord K), .reconcile 5 (.found false), .acquire 2, .commit 2]

/-- A deleting record whose `VolumeAttachment` is live takes the finalizer-only path. -/
theorem Cluster.startPass_finalizerOnly {c : Cluster} {azv : AzVolumeAttachment}
    {lookup : VolumeAttachmentLookup} (h : reconcile azv = .detach)
    (hreq : detachmentRequested K azv lookup = some false) :
    c.startPass K azv lookup = c.addPass ⟨azv, .updating .deleteFinalizer⟩ := by
  simp [Cluster.startPass, h, hreq]

/-- The run, one event at a time, with what holds at each of the states the theorems below
use. -/
theorem race_trace (K : Env) :
    ∃ c₆, exec K Cluster.init (raceStart K) = some c₆ ∧
      c₆.passes[0]?.map Pass.phase = some (.updating .attach) ∧
      c₆.store.map (fun a => a.obj.deletionTimestamp.isSome) = some true ∧
    ∃ c₇, step K c₆ (.commit 0) = some c₇ ∧ c₇.tasks.length = c₆.tasks.length + 1 ∧
      c₇.store.map (fun a => a.obj.status.state) = some attaching ∧
      c₇.store.map (fun a => decide (K.azVolumeAttachmentFinalizer ∈ a.obj.finalizers)) =
        some true ∧
      c₇.outstanding.length = 1 ∧
    ∃ c₈, step K c₇ (.commit 1) = some c₈ ∧ c₈.store = none ∧ c₈.outstanding.length = 1 ∧
    ∃ c₁₂, exec K c₈ (raceRestart K) = some c₁₂ ∧ c₁₂.outstanding.length = 2 := by
  -- Kubernetes creates `va`; the record is created and `Recover` initializes it
  refine exists_exec_cons (step_changeVolumeAttachment "va" (some false) rfl) ?_
  refine exists_exec_cons (step_create _ rfl) ?_
  refine exists_exec_cons (step_recoverUpdate rfl) ?_
  -- pass 0 reads the initialized version and takes the lock for attach
  refine exists_exec_cons
    (step_reconcile _ (initializeMeta K (upstreamRecord (raceRecord K))) (Nat.succ_ne_zero _)
      rfl) ?_
  refine exists_exec_cons (step_acquire (by rfl) rfl) ?_
  -- a client deletes the record, which the finalizer holds
  refine exists_exec_cons (step_delete_mark rfl
    (by simp [initializeMeta_finalizers, upstreamRecord, raceRecord]) rfl) ?_
  -- pass 1 reads the deleting version; `va` is live: the finalizer-only path
  refine exists_exec_cons ((step_reconcile _
    { initializeMeta K (upstreamRecord (raceRecord K)) with deletionTimestamp := some 2 }
    (Nat.succ_ne_zero _) rfl).trans (congrArg some (Cluster.startPass_finalizerOnly rfl
      (by simp [detachmentRequested, raceRecord, upstreamRecord, K.annotations_ne.symm])))) ?_
  refine ⟨_, rfl, rfl, rfl, ?_⟩
  -- pass 0 writes `Attaching` over the deleting version and starts `PublishVolume`
  refine ⟨_, step_commit_write (t := .attach) (by rfl) (by rfl) (updateState_eq_ok_iff.2
    ⟨by simp [upstreamRecord, raceRecord, allowedTargetAttachmentStates], rfl⟩), rfl, ?_, ?_,
    rfl, ?_⟩
  · simp [Stored.next, initializeMeta_finalizers, upstreamRecord, raceRecord]
  · simp [Stored.next, initializeMeta_finalizers, upstreamRecord, raceRecord]
  -- pass 1 removes the finalizer: the record is gone
  refine ⟨_, step_commit_write (t := .deleteFinalizer) (by rfl) (Stored.next_of_ne_nil
    (by simp [initializeMeta_finalizers, upstreamRecord, raceRecord])) rfl, ?_⟩
  refine (fun hs => ⟨hs, rfl, ?_⟩) (by simp [Stored.next_eq_none, deleteFinalizer,
    initializeMeta_finalizers, upstreamRecord, raceRecord])
  -- the name is reused, and pass 2 attaches the new record
  refine exists_exec_cons (step_create _ hs) ?_
  refine exists_exec_cons
    (step_reconcile _ (upstreamRecord (raceRecord K)) (Nat.succ_ne_zero _) rfl) ?_
  refine exists_exec_cons (step_acquire (by rfl) rfl) ?_
  refine exists_exec_cons (step_commit_write (t := .attach) (by rfl) (by rfl)
    (updateState_eq_ok_iff.2
      ⟨by simp [upstreamRecord, raceRecord, allowedTargetAttachmentStates], rfl⟩)) ?_
  exact ⟨_, rfl, rfl⟩

/-- The Attaching write overwrote a version whose deletion had been requested, and issued
`PublishVolume`. -/
theorem attach_write_after_deletion_requested :
    ¬ ∀ (K : Env) (c c' : Cluster) (i : Nat) (p : Pass), Reachable K c →
      c.passes[i]? = some p → p.phase = .updating .attach → step K c (.commit i) = some c' →
      c'.tasks.length = c.tasks.length + 1 →
      ∃ a, c.store = some a ∧ a.obj.deletionTimestamp = none := by
  intro h
  obtain ⟨c₆, h₆, hp, hdel, c₇, h₇, hlen, -⟩ := race_trace default
  obtain ⟨p, hp', hphase⟩ := Option.map_eq_some'.1 hp
  obtain ⟨a, ha, hnone⟩ :=
    h default c₆ c₇ 0 p (Reachable.init.of_exec h₆) hp' hphase h₇ hlen
  simp [ha, hnone] at hdel

/-- The theorem at the run's Attaching write. -/
theorem attach_write_in_race :
    ∃ c c' p, Reachable default c ∧ c.passes[0]? = some p ∧ p.phase = .updating .attach ∧
      step default c (.commit 0) = some c' ∧ c'.tasks.length = c.tasks.length + 1 ∧
      ∃ a, c.store = some a ∧
        (a.obj.status.state = attachmentPending ∨ a.obj.status.state = attachmentFailed) ∧
        a.obj.status.detail = none := by
  obtain ⟨c₆, h₆, hp, -, c₇, h₇, hlen, -⟩ := race_trace default
  obtain ⟨p, hp', hphase⟩ := Option.map_eq_some'.1 hp
  have hc := Reachable.init.of_exec h₆
  exact ⟨c₆, c₇, p, hc, hp', hphase, h₇, hlen,
    attach_write_overwrites_unattached_version hc hp' hphase h₇ hlen⟩

/-- On the run, the finalizer-only path removes the controller's finalizer from the
`Attaching` version, and the record with it, while `PublishVolume` is outstanding. -/
theorem finalizer_removed_while_publish_outstanding (K : Env) :
    ∃ c c', Reachable K c ∧ step K c (.commit 1) = some c' ∧
      c.store.map (fun a => a.obj.status.state) = some attaching ∧
      c.store.map (fun a => decide (K.azVolumeAttachmentFinalizer ∈ a.obj.finalizers)) =
        some true ∧
      c'.store = none ∧ c'.outstanding.length = 1 := by
  obtain ⟨c₆, h₆, -, -, c₇, h₇, -, hs, hf, -, c₈, h₈, hnone, hout, -⟩ := race_trace K
  exact ⟨c₇, c₈, (Reachable.init.of_exec h₆).step h₇, h₈, hs, hf, hnone, hout⟩

/-- On the run, once the name is reused, two `PublishVolume` calls are outstanding. -/
theorem second_publish_while_first_outstanding (K : Env) :
    ∃ c, Reachable K c ∧ c.outstanding.length = 2 := by
  obtain ⟨c₆, h₆, -, -, c₇, h₇, -, -, -, -, c₈, h₈, -, -, c₁₂, h₁₂, hout⟩ := race_trace K
  exact ⟨c₁₂, (((Reachable.init.of_exec h₆).step h₇).step h₈).of_exec h₁₂, hout⟩

end AttachDetach
