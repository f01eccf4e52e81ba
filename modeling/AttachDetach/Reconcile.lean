import AttachDetach.Mutators

/-!
# Reconcile's decision and the update functions

`Reconcile` reads one version of a record and picks at most one branch, in the order
deletion, attachment, promotion.  Every branch then writes the record through
`UpdateCRIWithRetry` with an update function (a Go closure) that runs on a freshly read
copy.  This file models the decision, `triggerDetach`'s eligibility test and the six update
functions; `System.lean` puts them into the concurrent controller.

The update functions of the two goroutines capture the Go variable `err` and assign the
result of `updateState` back to it (`_, err = r.updateState(...)`).  A closure is therefore
a function of the read copy *and* of the captured value, returning the new captured value:
`Completion.updateFunc`.  Every retry of `UpdateCRIWithRetry` sees what the previous
attempt left in `err`.
-/

namespace AttachDetach

open AzVolumeAttachmentAttachmentState

variable (K : Env)

/-- `isOperationInProcess`.  Modelled from the spec: the helper is declared outside the
controller file; a cloud operation is in flight while the record is `Attaching` or
`Detaching`, the two states written before a provisioner call and left by its
completion. -/
def isOperationInProcess (azv : AzVolumeAttachment) : Bool :=
  azv.status.state == attaching || azv.status.state == detaching

/-- `deletionRequested`.  Modelled from the spec: the helper is declared outside the
controller file; deletion is requested once the deletion timestamp is set. -/
def deletionRequested (azv : AzVolumeAttachment) : Bool :=
  azv.deletionTimestamp.isSome

/-- The branch `Reconcile` takes on the version it read. -/
inductive Branch
  | none
  | detach
  | attach
  | promote
  deriving DecidableEq, Repr

/-- The decision of `ReconcileAttachDetach.Reconcile`, once the record was read: skip a
record with an operation in flight; detach a record whose deletion was requested, in one of
four states; attach a record with no detail in `AttachmentPending` or `AttachmentFailed`;
promote a record whose requested role differs from its detail's role. -/
def reconcile (azv : AzVolumeAttachment) : Branch :=
  if isOperationInProcess azv then .none
  else if deletionRequested azv then
    if azv.status.state == attachmentPending || azv.status.state == attached ||
        azv.status.state == attachmentFailed || azv.status.state == detachmentFailed then
      .detach
    else .none
  else
    match azv.status.detail with
    | none =>
      if azv.status.state == attachmentPending || azv.status.state == attachmentFailed then
        .attach
      else .none
    | some detail => if azv.spec.requestedRole != detail.role then .promote else .none

/-- What `r.client.Get` returned for the `VolumeAttachment` named by the
volume-attachment-exists annotation. -/
inductive VolumeAttachmentLookup
  | notFound
  | found (deletionRequested : Bool)
  | failed
  deriving DecidableEq, Repr

/-- `detachmentRequested` of `triggerDetach`: true unless the volume-attachment-exists
annotation names a `VolumeAttachment` that is present and not being deleted, or the
volume-detach-request annotation is set.  `none` is the early error return of a failed
`Get`. -/
def detachmentRequested (azv : AzVolumeAttachment) (lookup : VolumeAttachmentLookup) :
    Option Bool :=
  let requested : Option Bool :=
    match azv.annotations K.volumeAttachmentExistsAnnotation with
    | none => some true
    | some _ =>
      match lookup with
      | .failed => none
      | .notFound => some true
      | .found deleting => some deleting
  requested.map fun requested =>
    requested || (azv.annotations K.volumeDetachRequestAnnotation).isSome

/-! ## The update functions of the triggers

They capture nothing that they assign, so each is a plain function of the read copy. -/

/-- The four `updateFunc`s of `triggerAttach`, `triggerDetach` (eligible and finalizer-only
paths) and `promote`. -/
inductive Trigger
  | attach
  | detach
  | deleteFinalizer
  | promote
  deriving DecidableEq, Repr

/-- `Trigger.updateFunc`: the closure each trigger hands to `UpdateCRIWithRetry`.  Note that
`promote` writes `PrimaryRole`, whatever role the spec requests. -/
def Trigger.updateFunc : Trigger → AzVolumeAttachment → Except GoError AzVolumeAttachment
  | .attach, azv => updateState K (initializeMeta K azv) attaching
  | .detach, azv => updateState K azv detaching
  | .deleteFinalizer, azv => .ok (AttachDetach.deleteFinalizer K azv)
  | .promote, azv => .ok (updateRole K azv .primary)

/-- The triggers that take the per-record lock (`stateLock.LoadOrStore`) first. -/
def Trigger.takesLock : Trigger → Bool
  | .attach | .detach => true
  | .deleteFinalizer | .promote => false

/-! ## The update functions of the goroutines -/

/-- The four closures the goroutines of `triggerAttach` and `triggerDetach` build once the
provisioner returned. -/
inductive Completion
  | attachSucceeded (response : String → Option String)
  | attachFailed
  | detachSucceeded
  | detachFailed

/-- `_, err = r.updateState(...)`; `return err`: the closure's result, and what it leaves
in the captured `err`. -/
def assignErr (result : Except GoError AzVolumeAttachment) :
    Except GoError AzVolumeAttachment × Option GoError :=
  (result, match result with
    | .ok _ => none
    | .error e => some e)

/-- `Completion.updateFunc`: the goroutine's closure, applied to the read copy and to the
current value of the captured `err`. -/
def Completion.updateFunc : Completion → AzVolumeAttachment → Option GoError →
    Except GoError AzVolumeAttachment × Option GoError
  | .attachSucceeded response, azv, _ => assignErr (updateState K (updateStatusDetail azv response) attached)
  | .attachFailed, azv, err => assignErr (updateState K (updateError K azv err) attachmentFailed)
  | .detachSucceeded, azv, _ => assignErr (updateState K (deleteFinalizer K azv) detached)
  | .detachFailed, azv, err => assignErr (updateState K (updateError K azv err) detachmentFailed)

/-- The closure of `triggerAttach`'s goroutine and the initial value of its `err`, from
what `PublishVolume` returned. -/
def attachCompletion : Except GoError (String → Option String) → Completion × Option GoError
  | .ok response => (.attachSucceeded response, none)
  | .error err => (.attachFailed, some err)

/-- The closure of `triggerDetach`'s goroutine and the initial value of its `err`, from
what `UnpublishVolume` returned. -/
def detachCompletion : Option GoError → Completion × Option GoError
  | none => (.detachSucceeded, none)
  | some err => (.detachFailed, some err)

/-- `azureutils.UpdateCRIWithRetry`, for an update function with a captured variable.
Modelled from the spec: the helper is declared outside the repository; the spec describes
it as read, mutate a copy, write on condition of the version read, and on a conflict re-read
and re-apply the same update function.  `azv` is the version the current attempt read and
`rest` the versions the later attempts read: when `rest` is not empty, this attempt's write
met a conflict.  The result is what the last attempt's update function returned (and wrote,
when it is `.ok`), with the captured variable as the attempts left it. -/
def updateCRIWithRetry {σ : Type} (updateFunc : AzVolumeAttachment → σ → Except GoError AzVolumeAttachment × σ) :
    σ → AzVolumeAttachment → List AzVolumeAttachment → Except GoError AzVolumeAttachment × σ
  | captured, azv, [] => updateFunc azv captured
  | captured, azv, next :: rest =>
    match updateFunc azv captured with
    | (.ok _, captured) => updateCRIWithRetry updateFunc captured next rest
    | failed => failed

/-! ## The branches of the decision -/

theorem reconcile_eq_promote {azv : AzVolumeAttachment} :
    reconcile azv = .promote ↔ isOperationInProcess azv = false ∧
      deletionRequested azv = false ∧
      ∃ detail, azv.status.detail = some detail ∧ azv.spec.requestedRole ≠ detail.role := by
  unfold reconcile
  split
  · simp_all
  · split
    · split <;> simp_all
    · split <;> rename_i hd
      · split <;> simp_all
      · split <;> simp_all

theorem reconcile_eq_attach {azv : AzVolumeAttachment} :
    reconcile azv = .attach ↔ deletionRequested azv = false ∧ azv.status.detail = none ∧
      (azv.status.state = attachmentPending ∨ azv.status.state = attachmentFailed) := by
  unfold reconcile isOperationInProcess
  split
  · rename_i h
    simp only [Bool.or_eq_true, beq_iff_eq] at h
    rcases h with h | h <;> simp [h]
  · split
    · split <;> simp_all
    · split <;> rename_i hd
      · split <;> simp_all
      · split <;> simp_all

theorem reconcile_eq_detach {azv : AzVolumeAttachment} :
    reconcile azv = .detach ↔ deletionRequested azv = true ∧
      (azv.status.state = attachmentPending ∨ azv.status.state = attached ∨
        azv.status.state = attachmentFailed ∨ azv.status.state = detachmentFailed) := by
  unfold reconcile isOperationInProcess
  split
  · rename_i h
    simp only [Bool.or_eq_true, beq_iff_eq] at h
    rcases h with h | h <;> simp [h]
  · split
    · split <;> simp_all [or_assoc]
    · split <;> rename_i hd
      · split <;> simp_all
      · split <;> simp_all

/-! ## What a successful update function wrote -/

variable {K}

/-- A trigger's update function either keeps the state or moves it, as the table allows, to
`Attaching` or `Detaching`; it never changes whether there is a detail, nor the error
block. -/
theorem Trigger.updateFunc_spec {t : Trigger} {azv w : AzVolumeAttachment}
    (h : t.updateFunc K azv = .ok w) :
    (w.status.state = azv.status.state ∨
      w.status.state ∈ allowedTargetAttachmentStates azv.status.state ∧
        (w.status.state = attaching ∨ w.status.state = detaching)) ∧
    w.status.detail.isSome = azv.status.detail.isSome ∧ w.status.error = azv.status.error := by
  cases t with
  | attach =>
    obtain ⟨hs, rfl⟩ := updateState_eq_ok_iff.1 h
    simp_all
  | detach =>
    obtain ⟨hs, rfl⟩ := updateState_eq_ok_iff.1 h
    simp_all
  | deleteFinalizer => cases h; simp
  | promote => cases h; simp

/-- A completion's closure always changes the state, as the table allows; it creates the
detail exactly when it writes `Attached`, and otherwise keeps whether there is one. -/
theorem Completion.updateFunc_spec {cpl : Completion} {azv w : AzVolumeAttachment}
    {err : Option GoError} (h : (cpl.updateFunc K azv err).1 = .ok w) :
    w.status.state ∈ allowedTargetAttachmentStates azv.status.state ∧
    (w.status.state = attached → w.status.detail.isSome) ∧
    (w.status.state ≠ attached → w.status.detail.isSome = azv.status.detail.isSome) := by
  cases cpl <;>
  · obtain ⟨hs, rfl⟩ := updateState_eq_ok_iff.1 h
    simp_all

end AttachDetach
