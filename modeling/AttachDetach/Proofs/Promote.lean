import AttachDetach.System

/-!
# Promotion, and the role label

`promote` hands `UpdateCRIWithRetry` the closure `updateRole(azv, PrimaryRole)`: it writes
the role label and the detail's role, and always to `Primary` — the controller's comment
reads "promoting AzVolumeAttachment to primary upon spec update".  For a record that
requests `Primary` this settles the mismatch, and the next `Reconcile` of the unchanged
record takes no branch (`promote_update_spec`).  For a record that requests `Replica`
while its detail says `Primary`, the write changes nothing in the roles, and every later
`Reconcile` takes the promotion branch again (`promote_ignores_requested_replica`).

The role label is written by `initializeMeta`, `updateRole`, and by no one else.  The
record `syncAll` synthesizes carries only the node and volume labels, also when it carries
a `Primary` detail (`recovered_record_lacks_role_label`).
-/

namespace AttachDetach

open AzVolumeAttachmentAttachmentState

variable {K : Env}

/-- **A promotion writes `Primary` into the detail and the role label and nothing else, and it
disables the promotion branch exactly when the record requests `Primary`.** -/
theorem promote_update_spec {azv : AzVolumeAttachment} (h : reconcile azv = .promote) :
    ∃ w, Trigger.promote.updateFunc K azv = .ok w ∧
      w.status.detail.map (·.role) = some .primary ∧
      w.labels K.roleLabel = some Role.primary.toString ∧
      w.status.state = azv.status.state ∧ w.spec = azv.spec ∧ w.finalizers = azv.finalizers ∧
      w.status.error = azv.status.error ∧
      reconcile w = if azv.spec.requestedRole = .primary then .none else .promote := by
  obtain ⟨hin, hdel, detail, hd, -⟩ := reconcile_eq_promote.1 h
  refine ⟨_, rfl, by simp [Trigger.updateFunc, updateRole, hd], by simp [Trigger.updateFunc,
    updateRole], rfl, rfl, rfl, rfl, ?_⟩
  have hw : reconcile (updateRole K azv .primary) = reconcile { azv with
      status := { azv.status with detail := some { detail with role := .primary } } } := by
    simp [updateRole, hd, reconcile, isOperationInProcess, deletionRequested]
  simp only [Trigger.updateFunc, hw]
  simp only [reconcile, isOperationInProcess, deletionRequested] at hin hdel ⊢
  cases azv.spec.requestedRole <;> simp_all

/-- A record that requests `Replica` while attached as `Primary`. -/
def demotedRecord : AzVolumeAttachment where
  finalizers := []
  labels := fun _ => none
  annotations := fun _ => none
  deletionTimestamp := none
  spec :=
    { underlyingVolume := "pv"
      volumeID := "disk"
      nodeName := "node"
      requestedRole := .replica
      volumeContext := fun _ => none }
  status :=
    { detail := some { role := .primary, publishContext := fun _ => none }
      state := attached
      error := none }

/-- The written detail keeps `Primary` although the record requests `Replica`. -/
theorem promote_ignores_requested_replica :
    ¬ ∀ (K : Env) (azv w : AzVolumeAttachment), reconcile azv = .promote →
      Trigger.promote.updateFunc K azv = .ok w →
      w.status.detail.map (·.role) = some azv.spec.requestedRole := by
  intro h
  have := h default demotedRecord _ (by decide) rfl
  simp [Trigger.updateFunc, updateRole, demotedRecord] at this

/-- The theorem at a record that requests `Replica`. -/
theorem promote_update_spec_demoted :
    reconcile demotedRecord = .promote ∧
      ∃ w, Trigger.promote.updateFunc default demotedRecord = .ok w ∧
        w.status.detail.map (·.role) = some .primary ∧
        w.labels (default : Env).roleLabel = some Role.primary.toString ∧
        w.status.state = demotedRecord.status.state ∧ w.spec = demotedRecord.spec ∧
        w.finalizers = demotedRecord.finalizers ∧ w.status.error = demotedRecord.status.error ∧
        reconcile w =
          if demotedRecord.spec.requestedRole = .primary then .none else .promote :=
  ⟨by decide, promote_update_spec (by decide)⟩

/-- **`syncAll`'s synthesized record has no role label, and a `Primary` detail exactly when its
state is `Attached`.** -/
theorem recoveredRecord_role_label (K : Env) (volumeName volumeHandle nodeName : String)
    (status : VolumeAttachmentStatus) :
    (recoveredRecord K volumeName volumeHandle nodeName status).labels K.roleLabel = none ∧
      (recoveredRecord K volumeName volumeHandle nodeName status).status.detail.map (·.role) =
        if K.getAzVolumeAttachmentState status = attached then some .primary else none := by
  refine ⟨?_, ?_⟩
  · simp [recoveredRecord, setLabel, Function.update_apply, K.volumeNameLabel_ne_roleLabel.symm,
      K.nodeNameLabel_ne_roleLabel.symm]
  · simp only [recoveredRecord]
    split <;> rfl

/-- **A reachable state holds the record `Recover` synthesized, with no role label, and with a
`Primary` detail when the `VolumeAttachment` reads as attached.** -/
theorem recovered_record_lacks_role_label (K : Env) (volumeName volumeHandle nodeName : String)
    (status : VolumeAttachmentStatus) :
    ∃ c a, Reachable K c ∧ c.store = some a ∧ a.obj.labels K.roleLabel = none ∧
      a.obj.status.detail.map (·.role) =
        if K.getAzVolumeAttachmentState status = attached then some .primary else none := by
  obtain ⟨hl, hd⟩ := recoveredRecord_role_label K volumeName volumeHandle nodeName status
  exact ⟨_, _, Reachable.init.step (e := .recoverCreate volumeName volumeHandle nodeName status)
    rfl, rfl, hl, hd⟩

end AttachDetach
