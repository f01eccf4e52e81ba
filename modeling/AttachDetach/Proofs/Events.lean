import AttachDetach.System

/-!
# One equation per enabled event

What each event does from a state where it is enabled, in the terms of the cluster
operations (`insert`, `write`, `startPass`, `setPass`, `finishPass`, `spawn`, `setTask`).
The runs of the proofs (the race of the finalizer-only path, the passes that retry a failed
call, the attach, detach and promote runs) are assembled from these equations with
`exec_cons_of_step` and `exists_exec_cons`, one event at a time, and never unfold `step`.
-/

namespace AttachDetach

variable {K : Env} {c : Cluster}

/-! ## Clients, Kubernetes and `Recover` -/

theorem step_changeVolumeAttachment (name : String) (state : Option Bool)
    (h : volumeAttachmentChange (c.volumeAttachments name) state = true) :
    step K c (.changeVolumeAttachment name state) =
      some { c with volumeAttachments := Function.update c.volumeAttachments name state } := by
  simp [step, h]

theorem step_create (azv : AzVolumeAttachment) (h : c.store = none) :
    step K c (.create azv) = some (c.insert (upstreamRecord azv) false) := by
  simp [step, h]

/-- A delete of a record that a finalizer holds only requests its deletion. -/
theorem step_delete_mark {a : Stored} (ha : c.store = some a) (hf : a.obj.finalizers ≠ [])
    (hd : a.obj.deletionTimestamp = none) :
    step K c .delete = some (c.write a { a.obj with deletionTimestamp := some c.clock }) := by
  simp [step, ha, hf, hd]

theorem step_recoverUpdate {a : Stored} (ha : c.store = some a) :
    step K c .recoverUpdate = some (c.write a (initializeMeta K a.obj)) := by
  simp [step, ha]

/-! ## `Reconcile` passes -/

@[simp] theorem Cluster.addPass_passes (p : Pass) : (c.addPass p).passes = c.passes ++ [p] := rfl

@[simp] theorem Cluster.setPass_passes (i : Nat) (p : Pass) :
    (c.setPass i p).passes = c.passes.set i p := rfl

/-- The pass a `Reconcile` adds sits at the end. -/
theorem Cluster.addPass_getElem? (p : Pass) : (c.addPass p).passes[c.passes.length]? = some p :=
  List.getElem?_concat_length c.passes p

theorem Cluster.setPass_getElem? {i : Nat} (p : Pass) (h : i < c.passes.length) :
    (c.setPass i p).passes[i]? = some p :=
  List.getElem?_set_self h

/-- A queued `Reconcile` reads `history[version]` and starts its pass on it. -/
theorem step_reconcile (lookup : VolumeAttachmentLookup) (azv : AzVolumeAttachment)
    {version : Nat} (hq : c.queue ≠ 0) (hv : c.history[version]? = some azv) :
    step K c (.reconcile version lookup) =
      some ({ c with queue := c.queue - 1 }.startPass K azv lookup) := by
  simp [step, hq, hv]

theorem step_acquire {i : Nat} {azv : AzVolumeAttachment} {t : Trigger}
    (hp : c.passes[i]? = some ⟨azv, .acquiring t⟩) (hl : c.stateLock = false) :
    step K c (.acquire i) = some ({ c with stateLock := true }.setPass i ⟨azv, .updating t⟩) := by
  simp [step, hp, hl]

/-- A trigger's update function succeeds on the stored version: the pass writes its result and
starts the goroutine, if any. -/
theorem step_commit_write {i : Nat} {azv w : AzVolumeAttachment} {t : Trigger} {a : Stored}
    (hp : c.passes[i]? = some ⟨azv, .updating t⟩) (ha : c.store = some a)
    (hw : t.updateFunc K a.obj = .ok w) :
    step K c (.commit i) =
      some (((c.finishPass i ⟨azv, .updating t⟩ t).write a w).spawn t azv) := by
  simp [step, hp, ha, hw]

theorem step_giveUp {i : Nat} {azv : AzVolumeAttachment} {t : Trigger}
    (hp : c.passes[i]? = some ⟨azv, .updating t⟩) :
    step K c (.giveUp i) = some (c.finishPass i ⟨azv, .updating t⟩ t).requeue := by
  simp [step, hp]

/-! ## The goroutines -/

theorem Cluster.setTask_getElem? {j : Nat} (t : Task) (h : j < c.tasks.length) :
    (c.setTask j t).tasks[j]? = some t :=
  List.getElem?_set_self h

theorem step_publishReturns {j : Nat} {volumeID nodeID : String}
    {volumeContext : String → Option String} (result : Except GoError (String → Option String))
    (hj : c.tasks[j]? = some ⟨.publishVolume volumeID nodeID volumeContext, .calling⟩) :
    step K c (.publishReturns j result) =
      some (c.setTask j ⟨.publishVolume volumeID nodeID volumeContext,
        .updating (attachCompletion result).1 (attachCompletion result).2⟩) := by
  simp [step, hj]

theorem step_unpublishReturns {j : Nat} {volumeID nodeID : String} (result : Option GoError)
    (hj : c.tasks[j]? = some ⟨.unpublishVolume volumeID nodeID, .calling⟩) :
    step K c (.unpublishReturns j result) =
      some (c.setTask j ⟨.unpublishVolume volumeID nodeID,
        .updating (detachCompletion result).1 (detachCompletion result).2⟩) := by
  simp [step, hj]

/-- A goroutine's closure succeeds on the stored version: it writes the result and finishes. -/
theorem step_complete_write {j : Nat} {call : Call} {cpl : Completion} {err : Option GoError}
    {a : Stored} {w : AzVolumeAttachment} (hj : c.tasks[j]? = some ⟨call, .updating cpl err⟩)
    (ha : c.store = some a) (hw : (cpl.updateFunc K a.obj err).1 = .ok w) :
    step K c (.complete j) = some ((c.setTask j ⟨call, .done⟩).write a w) := by
  simp [step, hj, ha, hw]

/-! ## Runs -/

/-- A run that starts with an enabled event goes on from the state that event leads to. -/
theorem exec_cons_of_step {e : Event} {es : List Event} {c₁ c' : Cluster}
    (h : step K c e = some c₁) (hrun : exec K c₁ es = some c') :
    exec K c (e :: es) = some c' := by
  simp only [exec, h, Option.some_bind, hrun]

/-- The same, for a run that is stated with what holds at its end. -/
theorem exists_exec_cons {P : Cluster → Prop} {e : Event} {es : List Event} {c₁ : Cluster}
    (h : step K c e = some c₁) (hrun : ∃ c', exec K c₁ es = some c' ∧ P c') :
    ∃ c', exec K c (e :: es) = some c' ∧ P c' :=
  let ⟨c', h', hp⟩ := hrun
  ⟨c', exec_cons_of_step h h', hp⟩

theorem exec_append (c : Cluster) (es₁ es₂ : List Event) :
    exec K c (es₁ ++ es₂) = (exec K c es₁).bind fun c' => exec K c' es₂ := by
  induction es₁ generalizing c with
  | nil => rfl
  | cons e es ih =>
    show ((step K c e).bind fun c' => exec K c' (es ++ es₂)) = _
    simp only [exec, Option.bind_assoc, ih]

end AttachDetach
