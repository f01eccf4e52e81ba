import AttachDetach.Reconcile

/-!
# A failed provisioner call meets a write conflict

The failure closures of the two goroutines read the captured `err`, record it with
`updateError`, and then assign the result of `updateState` back to the same `err`.  The
first attempt of `UpdateCRIWithRetry` therefore records the provisioner's error and leaves
`nil` in `err`; if its write meets a conflict, every later attempt runs `updateError` on
`nil`, which records nothing.  The record finally written is the last version read, moved to
the failed state, with whatever error block that version already had.

`failure_error_after_conflicts` states this for every provisioner error, every number of
conflicts and both goroutines; with no conflict the error is recorded, with one or more it
is not.
-/

namespace AttachDetach

open AzVolumeAttachmentAttachmentState

variable {K : Env}

/-- A failure closure run on a version in the state it expects records the captured error,
moves the version to the failed state, and leaves `nil` in `err`. -/
private theorem failure_updateFunc {cpl : Completion} {s t : AzVolumeAttachmentAttachmentState}
    (hcpl : cpl = .attachFailed ∧ s = attaching ∧ t = attachmentFailed ∨
      cpl = .detachFailed ∧ s = detaching ∧ t = detachmentFailed)
    {v : AzVolumeAttachment} (hv : v.status.state = s) (err : Option GoError) :
    cpl.updateFunc K v err = (.ok ((updateError K v err).setState t), none) := by
  rcases hcpl with ⟨rfl, rfl, rfl⟩ | ⟨rfl, rfl, rfl⟩ <;>
    simp [Completion.updateFunc, assignErr, updateState, containsString,
      allowedTargetAttachmentStates, hv]

private theorem updateCRIWithRetry_failure {cpl : Completion}
    {s t : AzVolumeAttachmentAttachmentState}
    (hcpl : cpl = .attachFailed ∧ s = attaching ∧ t = attachmentFailed ∨
      cpl = .detachFailed ∧ s = detaching ∧ t = detachmentFailed) :
    ∀ (reads : List AzVolumeAttachment) (v : AzVolumeAttachment) (err : Option GoError),
      (∀ r ∈ v :: reads, r.status.state = s) →
      (updateCRIWithRetry (cpl.updateFunc K) err v reads).1 =
        .ok ((updateError K ((v :: reads).getLast (List.cons_ne_nil _ _))
          (if reads.isEmpty then err else none)).setState t)
  | [], v, err, hs => by
    simp [updateCRIWithRetry, failure_updateFunc hcpl (hs v (List.mem_singleton_self v))]
  | next :: rest, v, err, hs => by
    rw [updateCRIWithRetry, failure_updateFunc hcpl (hs v (List.mem_cons_self _ _))]
    dsimp only
    rw [updateCRIWithRetry_failure hcpl rest next none fun r hr => hs r (List.mem_cons_of_mem _ hr),
      List.getLast_cons (List.cons_ne_nil _ _)]
    simp

/-- **A failed `PublishVolume` (resp. `UnpublishVolume`) is recorded only when the status write
meets no conflict.**  For every provisioner error `e` and every list of versions the attempts
read, all in `Attaching` (resp. `Detaching`): the record written is the last version read in
`AttachmentFailed` (resp. `DetachmentFailed`), whose error block is `updateError`'s encoding of
`e` when there was no conflict, and that version's own error block after one or more. -/
theorem failure_error_after_conflicts (K : Env) (e : GoError) {cpl : Completion}
    {s t : AzVolumeAttachmentAttachmentState}
    (hcpl : cpl = .attachFailed ∧ s = attaching ∧ t = attachmentFailed ∨
      cpl = .detachFailed ∧ s = detaching ∧ t = detachmentFailed)
    (v : AzVolumeAttachment) (reads : List AzVolumeAttachment)
    (hs : ∀ r ∈ v :: reads, r.status.state = s) :
    ∃ w, (updateCRIWithRetry (cpl.updateFunc K) (some e) v reads).1 = .ok w ∧
      w.status.state = t ∧
      w.status.error = if reads.isEmpty then some (azErrorOf K e)
        else ((v :: reads).getLast (List.cons_ne_nil _ _)).status.error := by
  refine ⟨_, updateCRIWithRetry_failure hcpl reads v (some e) hs, by simp, ?_⟩
  split <;> simp_all

/-- A version in `Attaching` with no error block. -/
def attachingRecord : AzVolumeAttachment where
  finalizers := []
  labels := fun _ => none
  annotations := fun _ => none
  deletionTimestamp := none
  spec :=
    { underlyingVolume := "pv"
      volumeID := "disk"
      nodeName := "node"
      requestedRole := .primary
      volumeContext := fun _ => none }
  status := { detail := none, state := attaching, error := none }

/-- One conflict: `PublishVolume` failed, and the record is written `AttachmentFailed` with no
error block. -/
theorem failure_error_after_one_conflict :
    ∃ w, (updateCRIWithRetry (Completion.attachFailed.updateFunc default)
        (some (.status Code.unknown "disk busy")) attachingRecord [attachingRecord]).1 = .ok w ∧
      w.status.state = attachmentFailed ∧ w.status.error = none := by
  obtain ⟨w, hw, hst, herr⟩ :=
    failure_error_after_conflicts default (.status Code.unknown "disk busy")
    (.inl ⟨rfl, rfl, rfl⟩) attachingRecord [attachingRecord] (by simp [attachingRecord])
  exact ⟨w, hw, hst, by simpa [attachingRecord] using herr⟩

end AttachDetach
