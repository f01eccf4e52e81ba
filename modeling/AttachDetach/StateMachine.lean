import AttachDetach.Types

/-!
# The transition table and `updateState`

`allowedTargetAttachmentStates` is the controller's table of legal state changes, and
`updateState` is the one function that writes `Status.State`: it looks the current state up
in the table and either sets the requested state or fails with a `FailedPrecondition`
error, leaving the record alone.  Every update function of the controller that changes the
state goes through it, so the table bounds every state change the controller can make.

Two facts are derived from the table here and used by the run invariants later:

* `updateState_eq_ok_iff`: what a successful call did, and that it was allowed;
* `mem_attachedOnceStates_of_mem_allowed`: once a record is `Attached`, the table never
  leads it back to `AttachmentPending`, `Attaching` or `AttachmentFailed`.
-/

namespace AttachDetach

open AzVolumeAttachmentAttachmentState

/-- `allowedTargetAttachmentStates`; a state absent from the Go map (`Detached`) has no
successor. -/
def allowedTargetAttachmentStates :
    AzVolumeAttachmentAttachmentState → List AzVolumeAttachmentAttachmentState
  | attachmentPending => [attaching, detaching]
  | attaching => [attached, attachmentFailed]
  | detaching => [detached, detachmentFailed]
  | attached => [detaching]
  | attachmentFailed => [attaching, detaching]
  | detachmentFailed => [detaching]
  | detached => []

/-- `containsString`, on the states the strings name.  Modelled from the spec: the helper
is declared outside the controller file; it tests membership. -/
def containsString (s : AzVolumeAttachmentAttachmentState)
    (list : List AzVolumeAttachmentAttachmentState) : Bool :=
  list.contains s

/-- `AzVolumeAttachment.setState`: the record with `Status.State` replaced. -/
def AzVolumeAttachment.setState (azv : AzVolumeAttachment)
    (state : AzVolumeAttachmentAttachmentState) : AzVolumeAttachment :=
  { azv with status := { azv.status with state := state } }

@[simp] theorem AzVolumeAttachment.setState_status_state (azv : AzVolumeAttachment) (s) :
    (azv.setState s).status.state = s := rfl

@[simp] theorem AzVolumeAttachment.setState_status_detail (azv : AzVolumeAttachment) (s) :
    (azv.setState s).status.detail = azv.status.detail := rfl

@[simp] theorem AzVolumeAttachment.setState_status_error (azv : AzVolumeAttachment) (s) :
    (azv.setState s).status.error = azv.status.error := rfl

@[simp] theorem AzVolumeAttachment.setState_finalizers (azv : AzVolumeAttachment) (s) :
    (azv.setState s).finalizers = azv.finalizers := rfl

@[simp] theorem AzVolumeAttachment.setState_labels (azv : AzVolumeAttachment) (s) :
    (azv.setState s).labels = azv.labels := rfl

@[simp] theorem AzVolumeAttachment.setState_annotations (azv : AzVolumeAttachment) (s) :
    (azv.setState s).annotations = azv.annotations := rfl

@[simp] theorem AzVolumeAttachment.setState_deletionTimestamp (azv : AzVolumeAttachment) (s) :
    (azv.setState s).deletionTimestamp = azv.deletionTimestamp := rfl

@[simp] theorem AzVolumeAttachment.setState_spec (azv : AzVolumeAttachment) (s) :
    (azv.setState s).spec = azv.spec := rfl

/-- `ReconcileAttachDetach.updateState`: move to `state` if the table allows it from the
current state, and fail with `FailedPrecondition` otherwise.  (The Go function also
rejects a `nil` record, which no caller passes.) -/
def updateState (K : Env) (azv : AzVolumeAttachment) (state : AzVolumeAttachmentAttachmentState) :
    Except GoError AzVolumeAttachment :=
  let expectedStates := allowedTargetAttachmentStates azv.status.state
  if containsString state expectedStates then
    .ok (azv.setState state)
  else
    .error (.status Code.failedPrecondition
      (K.formatUpdateStateError azv.status.state state expectedStates))

theorem updateState_eq_ok_iff {K : Env} {azv w : AzVolumeAttachment} {s} :
    updateState K azv s = .ok w ↔
      s ∈ allowedTargetAttachmentStates azv.status.state ∧ w = azv.setState s := by
  by_cases h : s ∈ allowedTargetAttachmentStates azv.status.state <;>
    simp [updateState, containsString, h, eq_comm]

/-- The states a record can be in once it has been `Attached`. -/
def attachedOnceStates : List AzVolumeAttachmentAttachmentState :=
  [attached, detaching, detached, detachmentFailed]

/-- The table never leads out of `attachedOnceStates`. -/
theorem mem_attachedOnceStates_of_mem_allowed {s t : AzVolumeAttachmentAttachmentState}
    (hs : s ∈ attachedOnceStates) (ht : t ∈ allowedTargetAttachmentStates s) :
    t ∈ attachedOnceStates := by
  cases s <;> simp_all [attachedOnceStates, allowedTargetAttachmentStates]

/-- `Attaching` is entered only from `AttachmentPending` and `AttachmentFailed`. -/
theorem attaching_mem_allowed_iff {s : AzVolumeAttachmentAttachmentState} :
    attaching ∈ allowedTargetAttachmentStates s ↔
      s = attachmentPending ∨ s = attachmentFailed := by
  cases s <;> simp [allowedTargetAttachmentStates]

/-- `Attached` is entered only from `Attaching`. -/
theorem attached_mem_allowed_iff {s : AzVolumeAttachmentAttachmentState} :
    attached ∈ allowedTargetAttachmentStates s ↔ s = attaching := by
  cases s <;> simp [allowedTargetAttachmentStates]

end AttachDetach
