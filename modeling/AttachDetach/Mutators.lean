import AttachDetach.StateMachine

/-!
# The record mutators

The helpers the update functions apply to the working copy of a record before it is
written: `initializeMeta` (finalizer and the three labels), `deleteFinalizer`, `updateRole`,
`updateStatusDetail` and `updateError`.  None of them touches `Status.State`; that is
`updateState`'s alone.  Each comes with the lemmas saying which fields it sets and that it
leaves every other field as it was, so that the run invariants never unfold them.
-/

namespace AttachDetach

variable (K : Env)

/-- `finalizerExists`.  Modelled from the spec: the helper is declared outside the
controller file; it tests membership. -/
def finalizerExists (finalizers : List String) (finalizer : String) : Bool :=
  finalizers.contains finalizer

/-- `labelExists`.  Modelled from the spec: the helper is declared outside the controller
file; it tests whether the key is present (a `nil` map has no key). -/
def labelExists (labels : String → Option String) (label : String) : Bool :=
  (labels label).isSome

/-- The Go map assignment `labels[key] = value`. -/
def setLabel (labels : String → Option String) (key value : String) : String → Option String :=
  Function.update labels key (some value)

@[simp] theorem setLabel_self (labels : String → Option String) (key value : String) :
    setLabel labels key value key = some value := by
  simp [setLabel]

/-- `ReconcileAttachDetach.initializeMeta`: return the record unchanged when the finalizer
and the three labels are all present; otherwise append the finalizer if it is missing and
(re)write the node, volume and role labels from the spec. -/
def initializeMeta (azv : AzVolumeAttachment) : AzVolumeAttachment :=
  if finalizerExists azv.finalizers K.azVolumeAttachmentFinalizer &&
      labelExists azv.labels K.nodeNameLabel &&
      labelExists azv.labels K.volumeNameLabel &&
      labelExists azv.labels K.roleLabel then
    azv
  else
    { azv with
      finalizers :=
        if finalizerExists azv.finalizers K.azVolumeAttachmentFinalizer then azv.finalizers
        else azv.finalizers ++ [K.azVolumeAttachmentFinalizer]
      labels :=
        setLabel (setLabel (setLabel azv.labels K.nodeNameLabel azv.spec.nodeName)
          K.volumeNameLabel azv.spec.underlyingVolume) K.roleLabel azv.spec.requestedRole.toString }

/-- `ReconcileAttachDetach.deleteFinalizer`: drop every copy of the controller's finalizer. -/
def deleteFinalizer (azv : AzVolumeAttachment) : AzVolumeAttachment :=
  { azv with finalizers := azv.finalizers.filter fun finalizer =>
      finalizer != K.azVolumeAttachmentFinalizer }

/-- `ReconcileAttachDetach.updateRole`: write the role label, and the detail's role when
there is a detail. -/
def updateRole (azv : AzVolumeAttachment) (role : Role) : AzVolumeAttachment :=
  { azv with
    labels := setLabel azv.labels K.roleLabel role.toString
    status := { azv.status with
      detail := azv.status.detail.map fun detail => { detail with role := role } } }

/-- `ReconcileAttachDetach.updateStatusDetail`: create the detail if needed and fill it with
the requested role and the publish context. -/
def updateStatusDetail (azv : AzVolumeAttachment) (status : String → Option String) :
    AzVolumeAttachment :=
  { azv with
    status := { azv.status with
      detail := some { role := azv.spec.requestedRole, publishContext := status } } }

/-- The `AzError` that `updateError` builds for `err`: the code string of `status.Code(err)`
and `err.Error()`, with the dangling-attach code, node and device path for a
`*DanglingAttachError`. -/
def azErrorOf (err : GoError) : AzError :=
  let azVolumeAttachmentError : AzError :=
    { errorCode := K.getStringValueForErrorCode err.code, errorMessage := err.error,
      currentNode := "", devicePath := "" }
  match err with
  | .danglingAttach currentNode devicePath _ =>
    { azVolumeAttachmentError with
      errorCode := K.danglingAttachErrorCode, currentNode := currentNode,
      devicePath := devicePath }
  | .status .. => azVolumeAttachmentError

/-- `ReconcileAttachDetach.updateError`: record a non-nil error in `Status.Error`. -/
def updateError (azv : AzVolumeAttachment) (err : Option GoError) : AzVolumeAttachment :=
  match err with
  | none => azv
  | some err => { azv with status := { azv.status with error := some (azErrorOf K err) } }

/-! ## What each mutator writes -/

section initializeMeta

variable {K} {azv : AzVolumeAttachment}

/-- `initializeMeta` writes metadata only. -/
theorem initializeMeta_eq_with (K : Env) (azv : AzVolumeAttachment) :
    ∃ finalizers labels, initializeMeta K azv = { azv with finalizers, labels } := by
  unfold initializeMeta
  split
  · exact ⟨azv.finalizers, azv.labels, rfl⟩
  · exact ⟨_, _, rfl⟩

@[simp] theorem initializeMeta_status : (initializeMeta K azv).status = azv.status := by
  obtain ⟨_, _, h⟩ := initializeMeta_eq_with K azv; rw [h]

@[simp] theorem initializeMeta_spec : (initializeMeta K azv).spec = azv.spec := by
  obtain ⟨_, _, h⟩ := initializeMeta_eq_with K azv; rw [h]

@[simp] theorem initializeMeta_annotations :
    (initializeMeta K azv).annotations = azv.annotations := by
  obtain ⟨_, _, h⟩ := initializeMeta_eq_with K azv; rw [h]

@[simp] theorem initializeMeta_deletionTimestamp :
    (initializeMeta K azv).deletionTimestamp = azv.deletionTimestamp := by
  obtain ⟨_, _, h⟩ := initializeMeta_eq_with K azv; rw [h]

/-- After `initializeMeta` the finalizer is present. -/
theorem finalizer_mem_initializeMeta :
    K.azVolumeAttachmentFinalizer ∈ (initializeMeta K azv).finalizers := by
  unfold initializeMeta finalizerExists
  split <;> rename_i h
  · simp_all
  · by_cases hf : azv.finalizers.contains K.azVolumeAttachmentFinalizer <;> simp_all

/-- `initializeMeta` removes no finalizer. -/
theorem mem_initializeMeta_of_mem {f : String} (h : f ∈ azv.finalizers) :
    f ∈ (initializeMeta K azv).finalizers := by
  unfold initializeMeta
  split
  · exact h
  · dsimp only; split <;> simp [h]

/-- `initializeMeta` appends the finalizer exactly when it is missing, after the others. -/
theorem initializeMeta_finalizers :
    (initializeMeta K azv).finalizers =
      if K.azVolumeAttachmentFinalizer ∈ azv.finalizers then azv.finalizers
      else azv.finalizers ++ [K.azVolumeAttachmentFinalizer] := by
  unfold initializeMeta finalizerExists
  split <;> rename_i h
  · simp only [Bool.and_eq_true] at h
    simp_all
  · simp

/-- `initializeMeta` writes no label but the three it manages. -/
theorem initializeMeta_labels_of_ne {key : String} (hn : key ≠ K.nodeNameLabel)
    (hv : key ≠ K.volumeNameLabel) (hr : key ≠ K.roleLabel) :
    (initializeMeta K azv).labels key = azv.labels key := by
  unfold initializeMeta
  split
  · rfl
  · simp [setLabel, Function.update_noteq, hn, hv, hr]

/-- After `initializeMeta` the three labels are present. -/
theorem labelExists_initializeMeta {key : String}
    (hkey : key = K.nodeNameLabel ∨ key = K.volumeNameLabel ∨ key = K.roleLabel) :
    labelExists (initializeMeta K azv).labels key := by
  unfold initializeMeta
  split <;> rename_i h
  · simp only [Bool.and_eq_true] at h
    rcases hkey with rfl | rfl | rfl <;> simp_all
  · simp only [labelExists, setLabel, Function.update_apply]
    rcases hkey with rfl | rfl | rfl <;> split_ifs <;> simp_all

/-- The early return: a record with the finalizer and the three labels is left as it is. -/
theorem initializeMeta_of_initialized (hf : K.azVolumeAttachmentFinalizer ∈ azv.finalizers)
    (hl : ∀ key, key = K.nodeNameLabel ∨ key = K.volumeNameLabel ∨ key = K.roleLabel →
      labelExists azv.labels key) :
    initializeMeta K azv = azv := by
  simp [initializeMeta, finalizerExists, hf, hl _ (Or.inl rfl), hl _ (Or.inr (Or.inl rfl)),
    hl _ (Or.inr (Or.inr rfl))]

/-- On a record with the finalizer, `initializeMeta` writes the labels and nothing else. -/
theorem initializeMeta_of_finalizer_mem (hf : K.azVolumeAttachmentFinalizer ∈ azv.finalizers) :
    initializeMeta K azv = { azv with labels := (initializeMeta K azv).labels } := by
  obtain ⟨finalizers, labels, h⟩ := initializeMeta_eq_with K azv
  have hfin : finalizers = azv.finalizers := by
    simpa [h, hf] using @initializeMeta_finalizers K azv
  rw [h, hfin]

/-- What `initializeMeta` returns takes the early return. -/
@[simp] theorem initializeMeta_initializeMeta :
    initializeMeta K (initializeMeta K azv) = initializeMeta K azv :=
  initializeMeta_of_initialized finalizer_mem_initializeMeta fun _ => labelExists_initializeMeta

end initializeMeta

section deleteFinalizer

variable {K} {azv : AzVolumeAttachment}

@[simp] theorem deleteFinalizer_status : (deleteFinalizer K azv).status = azv.status := rfl

@[simp] theorem deleteFinalizer_spec : (deleteFinalizer K azv).spec = azv.spec := rfl

@[simp] theorem deleteFinalizer_labels : (deleteFinalizer K azv).labels = azv.labels := rfl

@[simp] theorem deleteFinalizer_annotations :
    (deleteFinalizer K azv).annotations = azv.annotations := rfl

@[simp] theorem deleteFinalizer_deletionTimestamp :
    (deleteFinalizer K azv).deletionTimestamp = azv.deletionTimestamp := rfl

end deleteFinalizer

section updateRole

variable {K} {azv : AzVolumeAttachment} {role : Role}

@[simp] theorem updateRole_state : (updateRole K azv role).status.state = azv.status.state := rfl

@[simp] theorem updateRole_error : (updateRole K azv role).status.error = azv.status.error := rfl

@[simp] theorem updateRole_detail_isSome :
    (updateRole K azv role).status.detail.isSome = azv.status.detail.isSome := by
  simp [updateRole]

@[simp] theorem updateRole_spec : (updateRole K azv role).spec = azv.spec := rfl

@[simp] theorem updateRole_finalizers : (updateRole K azv role).finalizers = azv.finalizers := rfl

@[simp] theorem updateRole_annotations :
    (updateRole K azv role).annotations = azv.annotations := rfl

@[simp] theorem updateRole_deletionTimestamp :
    (updateRole K azv role).deletionTimestamp = azv.deletionTimestamp := rfl

end updateRole

section updateStatusDetail

variable {K} {azv : AzVolumeAttachment} {status : String → Option String}

@[simp] theorem updateStatusDetail_state :
    (updateStatusDetail azv status).status.state = azv.status.state := rfl

@[simp] theorem updateStatusDetail_detail :
    (updateStatusDetail azv status).status.detail =
      some { role := azv.spec.requestedRole, publishContext := status } := rfl

@[simp] theorem updateStatusDetail_error :
    (updateStatusDetail azv status).status.error = azv.status.error := rfl

@[simp] theorem updateStatusDetail_spec : (updateStatusDetail azv status).spec = azv.spec := rfl

@[simp] theorem updateStatusDetail_finalizers :
    (updateStatusDetail azv status).finalizers = azv.finalizers := rfl

@[simp] theorem updateStatusDetail_labels :
    (updateStatusDetail azv status).labels = azv.labels := rfl

@[simp] theorem updateStatusDetail_deletionTimestamp :
    (updateStatusDetail azv status).deletionTimestamp = azv.deletionTimestamp := rfl

end updateStatusDetail

section updateError

variable {K} {azv : AzVolumeAttachment} {err : Option GoError}

@[simp] theorem updateError_state : (updateError K azv err).status.state = azv.status.state := by
  cases err <;> rfl

@[simp] theorem updateError_detail : (updateError K azv err).status.detail = azv.status.detail := by
  cases err <;> rfl

@[simp] theorem updateError_spec : (updateError K azv err).spec = azv.spec := by
  cases err <;> rfl

@[simp] theorem updateError_finalizers : (updateError K azv err).finalizers = azv.finalizers := by
  cases err <;> rfl

@[simp] theorem updateError_labels : (updateError K azv err).labels = azv.labels := by
  cases err <;> rfl

@[simp] theorem updateError_deletionTimestamp :
    (updateError K azv err).deletionTimestamp = azv.deletionTimestamp := by
  cases err <;> rfl

@[simp] theorem updateError_some (e : GoError) :
    (updateError K azv (some e)).status.error = some (azErrorOf K e) := rfl

@[simp] theorem updateError_none : updateError K azv none = azv := rfl

end updateError

end AttachDetach
