import AttachDetach.Proofs.Detail

/-!
# A failed call is retried by the controller's reaction to its own write

`Reconcile` lists `AttachmentFailed` among the states of the attach branch and
`DetachmentFailed` among those of the detach branch, and the watch enqueues the record on
every write, the failure write included.  So the `Reconcile` that the goroutine's own
`AttachmentFailed` write enqueues reads a record with no deletion timestamp and, by the
detail invariant, no detail: it takes the attach branch, and `triggerAttach` moves the
record back to `Attaching` and calls `PublishVolume` again (`reattach_after_failure`).  A
record written `DetachmentFailed` still has its deletion timestamp, and a pass that finds it
eligible calls `UnpublishVolume` again (`redetach_after_failure`).  No external write and no
resync is involved.
-/

namespace AttachDetach

open AzVolumeAttachmentAttachmentState

variable {K : Env}

/-- A `Reconcile` pass on the current version that starts trigger `t`, which takes the lock:
the pass reads the version, acquires the lock, and its update writes `w` and starts the
goroutine. -/
theorem trigger_pass {c : Cluster} (t : Trigger) (lookup : VolumeAttachmentLookup) {a : Stored}
    {w : AzVolumeAttachment} (hl : c.stateLock = false) (hq : c.queue ≠ 0)
    (ha : c.store = some a) (hlast : c.history[c.history.length - 1]? = some a.obj)
    (hstart : ∀ c' : Cluster, c'.startPass K a.obj lookup = c'.addPass ⟨a.obj, .acquiring t⟩)
    (hupd : t.updateFunc K a.obj = .ok w) :
    ∃ c₃, exec K c [.reconcile (c.history.length - 1) lookup, .acquire c.passes.length,
        .commit c.passes.length] = some c₃ ∧
      c₃.store = a.next w c.clock ∧ c₃.clock = c.clock + 1 ∧
      c₃.tasks = (c.spawn t a.obj).tasks := by
  have hread : step K c (.reconcile (c.history.length - 1) lookup) =
      some ({ c with queue := c.queue - 1 }.addPass ⟨a.obj, .acquiring t⟩) := by
    rw [step_reconcile lookup _ hq hlast, hstart]
  refine ⟨_, exec_cons_of_step hread
    (exec_cons_of_step (step_acquire (Cluster.addPass_getElem? _) hl)
      (exec_cons_of_step (step_commit_write (Cluster.setPass_getElem? _ (by simp)) ha hupd)
        (by rfl))), by simp, by simp, ?_⟩
  cases t <;> rfl

/-- The queued `Reconcile` of a record written `AttachmentFailed` attaches it again. -/
theorem reattach_after_failure {c : Cluster} (hc : Reachable K c) {a : Stored}
    (ha : c.store = some a) (hstate : a.obj.status.state = attachmentFailed)
    (hdel : a.obj.deletionTimestamp = none) (hlock : c.stateLock = false) (hq : c.queue ≠ 0) :
    ∃ c', exec K c [.reconcile (c.history.length - 1) .notFound, .acquire c.passes.length,
        .commit c.passes.length] = some c' ∧
      c'.tasks = c.tasks ++
        [⟨.publishVolume a.obj.spec.volumeID a.obj.spec.nodeName a.obj.spec.volumeContext,
          .calling⟩] := by
  have hdetail : a.obj.status.detail = none := by
    cases hd : a.obj.status.detail with
    | none => rfl
    | some _ => simp [(hc.not_unattached_of_detail ha (by simp [hd])).2.2] at hstate
  have hbranch : reconcile a.obj = .attach :=
    reconcile_eq_attach.2 ⟨by simp [deletionRequested, hdel], hdetail, .inr hstate⟩
  obtain ⟨c', hrun, -, -, htasks⟩ := trigger_pass (K := K) .attach .notFound hlock hq ha
    (hc.history_getElem?_last ha) (fun _ => by simp [Cluster.startPass, hbranch])
    (updateState_eq_ok_iff.2 ⟨by simp [hstate, allowedTargetAttachmentStates], rfl⟩)
  exact ⟨c', hrun, htasks⟩

/-- The queued `Reconcile` of a record written `DetachmentFailed` detaches it again, when it is
still eligible. -/
theorem redetach_after_failure {c : Cluster} (hc : Reachable K c) {a : Stored}
    (ha : c.store = some a) (hstate : a.obj.status.state = detachmentFailed)
    (hdel : a.obj.deletionTimestamp.isSome) {lookup : VolumeAttachmentLookup}
    (heligible : detachmentRequested K a.obj lookup = some true)
    (hlock : c.stateLock = false) (hq : c.queue ≠ 0) :
    ∃ c', exec K c [.reconcile (c.history.length - 1) lookup, .acquire c.passes.length,
        .commit c.passes.length] = some c' ∧
      c'.tasks = c.tasks ++
        [⟨.unpublishVolume a.obj.spec.volumeID a.obj.spec.nodeName, .calling⟩] := by
  have hbranch : reconcile a.obj = .detach :=
    reconcile_eq_detach.2 ⟨by simpa [deletionRequested] using hdel, by simp [hstate]⟩
  obtain ⟨c', hrun, -, -, htasks⟩ := trigger_pass (K := K) .detach lookup hlock hq ha
    (hc.history_getElem?_last ha) (fun _ => by simp [Cluster.startPass, hbranch, heligible])
    (updateState_eq_ok_iff.2 ⟨by simp [hstate, allowedTargetAttachmentStates], rfl⟩)
  exact ⟨c', hrun, htasks⟩

/-- **A failed call is issued again by the controller's reaction to its own failure write.**
From every reachable state whose record is `AttachmentFailed` (resp. `DetachmentFailed` and
still being deleted, with a `VolumeAttachment` lookup that makes it eligible), with the lock
free and the write's `Reconcile` queued: that `Reconcile`, reading the current version, and
the trigger it starts spawn a new `PublishVolume` (resp. `UnpublishVolume`) for the record. -/
theorem failed_call_reissued {c : Cluster} (hc : Reachable K c) {a : Stored}
    (ha : c.store = some a) (hlock : c.stateLock = false) (hq : c.queue ≠ 0) :
    (a.obj.status.state = attachmentFailed → a.obj.deletionTimestamp = none →
      ∃ c', exec K c [.reconcile (c.history.length - 1) .notFound, .acquire c.passes.length,
          .commit c.passes.length] = some c' ∧
        c'.tasks = c.tasks ++
          [⟨.publishVolume a.obj.spec.volumeID a.obj.spec.nodeName a.obj.spec.volumeContext,
            .calling⟩]) ∧
    (a.obj.status.state = detachmentFailed → a.obj.deletionTimestamp.isSome →
      ∀ lookup, detachmentRequested K a.obj lookup = some true →
      ∃ c', exec K c [.reconcile (c.history.length - 1) lookup, .acquire c.passes.length,
          .commit c.passes.length] = some c' ∧
        c'.tasks = c.tasks ++
          [⟨.unpublishVolume a.obj.spec.volumeID a.obj.spec.nodeName, .calling⟩]) :=
  ⟨fun hs hd => reattach_after_failure hc ha hs hd hlock hq,
    fun hs hd _ he => redetach_after_failure hc ha hs hd he hlock hq⟩

/-! ## A run: one failed attach, and the controller attaches again -/

/-- A record as an upstream component creates it. -/
def pendingRecord : AzVolumeAttachment where
  finalizers := []
  labels := fun _ => none
  annotations := fun _ => none
  deletionTimestamp := none
  spec :=
    { underlyingVolume := "pv"
      volumeID := "disk"
      nodeName := "node"
      requestedRole := .primary
      volumeContext := fun _ => none }
  status := { detail := none, state := attachmentPending, error := none }

/-- Create the record, attach it, and let `PublishVolume` fail with `e`. -/
def failedAttachRun (e : GoError) : List Event :=
  [.create pendingRecord, .reconcile 0 .notFound, .acquire 0, .commit 0,
    .publishReturns 0 (.error e), .complete 0]

theorem failedAttachRun_trace (e : GoError) :
    ∃ c a, exec default Cluster.init (failedAttachRun e) = some c ∧ c.store = some a ∧
      a.obj.status.state = attachmentFailed ∧ a.obj.deletionTimestamp = none ∧
      c.stateLock = false ∧ c.queue ≠ 0 :=
  ⟨_, _, rfl, rfl, rfl, rfl, rfl, Nat.succ_ne_zero _⟩

/-- After the failure is written, the controller alone issues a second `PublishVolume`. -/
theorem failed_attach_retried :
    ¬ ∀ (K : Env) (c c' : Cluster) (a : Stored) (es : List Event), Reachable K c →
      c.store = some a → a.obj.status.state = attachmentFailed →
      (∀ e ∈ es, e.byController) → exec K c es = some c' →
      c'.tasks.countP (fun t => t.call.isPublish) = c.tasks.countP (fun t => t.call.isPublish) := by
  intro h
  obtain ⟨c, a, hrun, ha, hs, hd, hlock, hq⟩ := failedAttachRun_trace (.status Code.unknown "")
  have hc := Reachable.init.of_exec hrun
  obtain ⟨c', hexec, htasks⟩ := reattach_after_failure hc ha hs hd hlock hq
  have := h default c c' a _ hc ha hs (by simp [Event.byController]) hexec
  simp [htasks, List.countP_append, Call.isPublish] at this

/-- The theorem at the end of that run. -/
theorem failed_call_reissued_after_failed_attach :
    ∃ c a, Reachable default c ∧ c.store = some a ∧ c.stateLock = false ∧ c.queue ≠ 0 ∧
      (a.obj.status.state = attachmentFailed → a.obj.deletionTimestamp = none →
        ∃ c', exec default c [.reconcile (c.history.length - 1) .notFound,
            .acquire c.passes.length, .commit c.passes.length] = some c' ∧
          c'.tasks = c.tasks ++
            [⟨.publishVolume a.obj.spec.volumeID a.obj.spec.nodeName a.obj.spec.volumeContext,
              .calling⟩]) ∧
      (a.obj.status.state = detachmentFailed → a.obj.deletionTimestamp.isSome →
        ∀ lookup, detachmentRequested default a.obj lookup = some true →
        ∃ c', exec default c [.reconcile (c.history.length - 1) lookup,
            .acquire c.passes.length, .commit c.passes.length] = some c' ∧
          c'.tasks = c.tasks ++
            [⟨.unpublishVolume a.obj.spec.volumeID a.obj.spec.nodeName, .calling⟩]) := by
  obtain ⟨c, a, hrun, ha, -, -, hlock, hq⟩ := failedAttachRun_trace (.status Code.unknown "")
  have hc := Reachable.init.of_exec hrun
  exact ⟨c, a, hc, ha, hlock, hq, failed_call_reissued hc ha hlock hq⟩

end AttachDetach
