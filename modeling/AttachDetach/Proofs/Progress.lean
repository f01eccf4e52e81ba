import AttachDetach.Proofs.Lock
import AttachDetach.Proofs.Stranded

/-!
# The controller finishes what it is asked to do

No reachable state blocks an attach or a detach.  From every reachable state whose record is
waiting to be attached, one resync, or the give-up of the pass that holds the lock, and then
one `Reconcile` pass and the goroutine it starts attach the record once `PublishVolume`
succeeds (`attach_completes`).  From every reachable state whose record is being deleted in a
state the detach branch accepts, and whose `VolumeAttachment`, as the API server holds it,
asks for the detach, the same five events detach it once `UnpublishVolume` succeeds and
remove the controller's finalizer, so that the API server releases the record when no other
finalizer holds it (`detach_completes`).  The pass reads the current version, and its `Get`
of the `VolumeAttachment` returns what the API server holds (`Cluster.volumeAttachmentLookup`).

Each run has three parts.  First the lock is freed: by the lock invariant, a taken lock is
held by exactly one pass inside its update, which gives up (`Reachable.exists_free_lock`);
a free lock only needs the record queued, by a resync.  Then a `Reconcile` pass reads the
current version, which is the last one the cache has seen, takes the lock, writes `Attaching`
or `Detaching` and starts the goroutine (`trigger_pass`).  Last the provisioner returns and
the goroutine's closure writes the result on the version it finds, which is the one the
trigger wrote (`completion_writes`).  `operation_run` puts the three together; the two
theorems only say which branch, trigger, call and write each operation takes.
-/

namespace AttachDetach

open AzVolumeAttachmentAttachmentState

variable {K : Env} {c : Cluster}

/-- From every reachable state a resync, or the give-up of the pass that holds the lock, frees
the lock and queues the record, and changes neither the store nor the cache nor the
goroutines. -/
theorem Reachable.exists_free_lock (hc : Reachable K c) :
    ∃ e c₁, (e = .resync ∨ ∃ i, e = .giveUp i) ∧ AttachDetach.step K c e = some c₁ ∧
      c₁.store = c.store ∧ c₁.history = c.history ∧ c₁.clock = c.clock ∧
      c₁.stateLock = false ∧ c₁.queue ≠ 0 ∧ c₁.passes.length = c.passes.length ∧
      c₁.tasks = c.tasks := by
  cases hl : c.stateLock
  · exact ⟨.resync, c.requeue, .inl rfl, rfl, rfl, rfl, rfl, hl, Nat.succ_ne_zero _, rfl, rfl⟩
  have hcount := hc.lockInv.count
  rw [hl, if_pos rfl] at hcount
  obtain ⟨⟨azv, phase⟩, hp, hholds⟩ := List.countP_pos_iff.1 (hcount ▸ Nat.one_pos)
  obtain ⟨i, hi⟩ := List.mem_iff_getElem?.1 hp
  cases phase with
  | updating t =>
    have ht : t.takesLock = true := hholds
    refine ⟨.giveUp i, _, .inr ⟨i, rfl⟩, step_giveUp hi, ?_⟩
    simp [Cluster.finishPass, Cluster.setPass, Cluster.requeue, ht]
  | acquiring _ | done => cases hholds

/-- A goroutine that waits for the provisioner, whose call returns with event `e`; its
closure, run on the stored version, succeeds with `w`.  It writes `w` and finishes. -/
theorem completion_writes (j : Nat) (call : Call) (e : Event) {b : Stored}
    {cpl : Completion} {err : Option GoError} {w : AzVolumeAttachment}
    (hj : c.tasks[j]? = some ⟨call, .calling⟩)
    (hret : ∀ c' : Cluster, c'.tasks[j]? = some ⟨call, .calling⟩ →
      step K c' e = some (c'.setTask j ⟨call, .updating cpl err⟩))
    (hb : c.store = some b) (hupd : (cpl.updateFunc K b.obj err).1 = .ok w) :
    ∃ c₅, exec K c [e, .complete j] = some c₅ ∧ c₅.store = b.next w c.clock ∧
      c₅.tasks = c.tasks.set j ⟨call, .done⟩ := by
  have hlen : j < c.tasks.length := (List.getElem?_eq_some_iff.1 hj).1
  exact ⟨_, exec_cons_of_step (hret c hj) (exec_cons_of_step
    (step_complete_write (Cluster.setTask_getElem? _ hlen) hb hupd) (by rfl)), rfl,
    by simp [Cluster.write, Cluster.setTask]⟩

/-- **A whole operation from a reachable state**: a resync or the lock holder's give-up, a
pass on the stored version that starts trigger `t`, whose update writes `w`, while the
goroutine calls `call`; the provisioner returns with event `ret j`, and the goroutine's
closure writes `w'` on the version the trigger wrote. -/
theorem operation_run {c : Cluster} (hc : Reachable K c) {a : Stored} (ha : c.store = some a)
    (t : Trigger) (lookup : VolumeAttachmentLookup) (call : Call) (ret : Nat → Event)
    (cpl : Completion) (err : Option GoError) {w w' : AzVolumeAttachment}
    (hstart : ∀ c' : Cluster, c'.startPass K a.obj lookup = c'.addPass ⟨a.obj, .acquiring t⟩)
    (hupd : t.updateFunc K a.obj = .ok w)
    (hkeep : w.deletionTimestamp.isSome → w.finalizers ≠ [])
    (hspawn : ∀ c' : Cluster, (c'.spawn t a.obj).tasks = c'.tasks ++ [⟨call, .calling⟩])
    (hret : ∀ (c' : Cluster) j, c'.tasks[j]? = some ⟨call, .calling⟩ →
      step K c' (ret j) = some (c'.setTask j ⟨call, .updating cpl err⟩))
    (hupd' : (cpl.updateFunc K w err).1 = .ok w') :
    ∃ e₀ c', ∃ (b : Stored) (clock : Nat), (e₀ = .resync ∨ ∃ i, e₀ = .giveUp i) ∧
      exec K c (e₀ :: [.reconcile (c.history.length - 1) lookup, .acquire c.passes.length,
        .commit c.passes.length, ret c.tasks.length, .complete c.tasks.length]) = some c' ∧
      c'.store = b.next w' clock ∧ b.obj = w ∧ b.uid = a.uid ∧ ⟨call, .done⟩ ∈ c'.tasks := by
  obtain ⟨e₀, c₁, he₀, h₀, hs, hh, -, hl, hq, hp, ht⟩ := hc.exists_free_lock
  have ha₁ : c₁.store = some a := hs.trans ha
  obtain ⟨c₃, h₃, hs₃, -, ht₃⟩ := trigger_pass t lookup hl hq ha₁
    ((hc.step h₀).history_getElem?_last ha₁) hstart hupd
  obtain ⟨b, hb, hbw⟩ := next_of_finalizers a w c₁.clock hkeep
  rw [hspawn] at ht₃
  obtain ⟨c₅, h₅, hs₅, ht₅⟩ := completion_writes c₁.tasks.length call (ret c₁.tasks.length)
    (by simp [ht₃]) (hret · _) (hs₃.trans hb) (by rw [hbw]; exact hupd')
  refine ⟨e₀, c₅, b, c₃.clock, he₀, ?_, hs₅, hbw, (Stored.next_eq_some hb).2.1, ?_⟩
  · rw [← hh, ← hp, ← ht]
    exact exec_cons_of_step h₀
      ((exec_append _ [_, _, _] [_, _]).trans (by rw [h₃, Option.some_bind, h₅]))
  · rw [ht₅, ht₃]
    exact List.getElem?_mem (List.getElem?_set_self (by simp))

/-- **Every record waiting to be attached can be attached.**  From every reachable state
whose record is in `AttachmentPending` or `AttachmentFailed` and not being deleted, one
resync or the give-up of the lock holder, then one `Reconcile` pass (read, lock, commit), the
return of `PublishVolume` with `response` and the goroutine's write leave the same
incarnation `Attached`, with the detail of the requested role and `response`, the spec
unchanged and the finalizer in place; the call was made with the spec's volume, node and
context, and a `Reconcile` of the version written takes no branch. -/
theorem attach_completes {c : Cluster} (hc : Reachable K c) {a : Stored}
    (ha : c.store = some a)
    (hstate : a.obj.status.state = attachmentPending ∨ a.obj.status.state = attachmentFailed)
    (hdel : a.obj.deletionTimestamp = none) (response : String → Option String) :
    ∃ e₀ c' b, (e₀ = .resync ∨ ∃ i, e₀ = .giveUp i) ∧
      exec K c (e₀ :: [.reconcile (c.history.length - 1) (c.volumeAttachmentLookup K a.obj),
        .acquire c.passes.length, .commit c.passes.length,
        .publishReturns c.tasks.length (.ok response), .complete c.tasks.length]) = some c' ∧
      c'.store = some b ∧ b.uid = a.uid ∧ b.obj.status.state = attached ∧
      b.obj.status.detail = some { role := a.obj.spec.requestedRole, publishContext := response } ∧
      b.obj.spec = a.obj.spec ∧ K.azVolumeAttachmentFinalizer ∈ b.obj.finalizers ∧
      ⟨.publishVolume a.obj.spec.volumeID a.obj.spec.nodeName a.obj.spec.volumeContext, .done⟩
        ∈ c'.tasks ∧
      reconcile b.obj = .none := by
  have hdetail : a.obj.status.detail = none := by
    cases hd : a.obj.status.detail with
    | none => rfl
    | some _ =>
      have := hc.not_unattached_of_detail ha (by simp [hd])
      rcases hstate with h | h <;> simp [h] at this
  have hbranch : reconcile a.obj = .attach :=
    reconcile_eq_attach.2 ⟨by simp [deletionRequested, hdel], hdetail, hstate⟩
  have hupd : Trigger.attach.updateFunc K a.obj =
      .ok ((initializeMeta K a.obj).setState attaching) :=
    updateState_eq_ok_iff.2 ⟨by rcases hstate with h | h <;>
      simp [h, allowedTargetAttachmentStates], rfl⟩
  have hupd' : ((Completion.attachSucceeded response).updateFunc K
      ((initializeMeta K a.obj).setState attaching) none).1 =
      .ok ((updateStatusDetail ((initializeMeta K a.obj).setState attaching) response).setState
        attached) :=
    congrArg Prod.fst (congrArg assignErr (updateState_eq_ok_iff.2
      ⟨by simp [allowedTargetAttachmentStates], rfl⟩))
  have hfin : K.azVolumeAttachmentFinalizer ∈ (initializeMeta K a.obj).finalizers :=
    finalizer_mem_initializeMeta
  obtain ⟨e₀, c', b₁, clock, he₀, hrun, hs, -, hu, htask⟩ := operation_run hc ha .attach
    (c.volumeAttachmentLookup K a.obj)
    (.publishVolume a.obj.spec.volumeID a.obj.spec.nodeName a.obj.spec.volumeContext)
    (fun j => .publishReturns j (.ok response)) _ none
    (fun c' => by simp [Cluster.startPass, hbranch]) hupd
    (fun _ => List.ne_nil_of_mem (by simpa using hfin)) (fun _ => rfl)
    (fun _ _ hj => step_publishReturns _ hj) hupd'
  obtain ⟨b, hb, hbw⟩ := next_of_finalizers b₁
    ((updateStatusDetail ((initializeMeta K a.obj).setState attaching) response).setState attached)
    clock fun _ => List.ne_nil_of_mem (by simpa using hfin)
  refine ⟨e₀, c', b, he₀, hrun, hs.trans hb, by rw [(Stored.next_eq_some hb).2.1, hu], ?_⟩
  rw [hbw]
  exact ⟨by simp, by simp, by simp, by simpa using hfin, htask,
    by simp [reconcile, isOperationInProcess, deletionRequested, hdel]⟩

/-- The theorem for a record an upstream component has just created. -/
theorem attach_completes_after_create :
    ∃ c a, Reachable default c ∧ c.store = some a ∧
      (a.obj.status.state = attachmentPending ∨ a.obj.status.state = attachmentFailed) ∧
      a.obj.deletionTimestamp = none ∧
      ∃ e₀ c' b, (e₀ = .resync ∨ ∃ i, e₀ = .giveUp i) ∧
        exec default c (e₀ :: [.reconcile (c.history.length - 1)
            (c.volumeAttachmentLookup default a.obj), .acquire c.passes.length,
          .commit c.passes.length, .publishReturns c.tasks.length (.ok fun _ => none),
          .complete c.tasks.length]) = some c' ∧
        c'.store = some b ∧ b.uid = a.uid ∧ b.obj.status.state = attached ∧
        b.obj.status.detail =
          some { role := a.obj.spec.requestedRole, publishContext := fun _ => none } ∧
        b.obj.spec = a.obj.spec ∧ (default : Env).azVolumeAttachmentFinalizer ∈ b.obj.finalizers ∧
        ⟨.publishVolume a.obj.spec.volumeID a.obj.spec.nodeName a.obj.spec.volumeContext, .done⟩
          ∈ c'.tasks ∧
        reconcile b.obj = .none := by
  obtain ⟨c, a, hrun, ha, hstate, hdel⟩ : ∃ c a, exec default Cluster.init [.create pendingRecord] =
      some c ∧ c.store = some a ∧ a.obj.status.state = attachmentPending ∧
      a.obj.deletionTimestamp = none := ⟨_, _, rfl, rfl, rfl, rfl⟩
  have hc := Reachable.init.of_exec hrun
  exact ⟨c, a, hc, ha, .inl hstate, hdel, attach_completes hc ha (.inl hstate) hdel _⟩

/-- **Every record being deleted in a state the detach branch accepts, whose
`VolumeAttachment` asks for the detach, can be detached and released.**  From every reachable
state whose record has a deletion timestamp, is in `AttachmentPending`, `Attached`,
`AttachmentFailed` or `DetachmentFailed`, and for which `triggerDetach`, reading the
`VolumeAttachment` the API server holds, finds the detach requested: one resync or the
give-up of the lock holder, then one `Reconcile` pass (read, lock, commit), a successful
return of `UnpublishVolume` and the goroutine's write issue the call with the spec's volume
and node, and then remove the controller's finalizer: the same incarnation stays only as long
as another finalizer holds it, in `Detached` and with the other finalizers, and it is gone
exactly when the controller's was the only one. -/
theorem detach_completes {c : Cluster} (hc : Reachable K c) {a : Stored}
    (ha : c.store = some a)
    (hstate : a.obj.status.state ∈
      [attachmentPending, attached, attachmentFailed, detachmentFailed])
    (hdel : a.obj.deletionTimestamp.isSome)
    (hreq : detachmentRequested K a.obj (c.volumeAttachmentLookup K a.obj) = some true) :
    ∃ e₀ c', (e₀ = .resync ∨ ∃ i, e₀ = .giveUp i) ∧
      exec K c (e₀ :: [.reconcile (c.history.length - 1) (c.volumeAttachmentLookup K a.obj),
        .acquire c.passes.length, .commit c.passes.length,
        .unpublishReturns c.tasks.length none, .complete c.tasks.length]) = some c' ∧
      ⟨.unpublishVolume a.obj.spec.volumeID a.obj.spec.nodeName, .done⟩ ∈ c'.tasks ∧
      (∀ b, c'.store = some b → b.uid = a.uid ∧ b.obj.status.state = detached ∧
        b.obj.finalizers = a.obj.finalizers.filter fun f => f != K.azVolumeAttachmentFinalizer) ∧
      (c'.store = none ↔ ∀ f ∈ a.obj.finalizers, f = K.azVolumeAttachmentFinalizer) := by
  have hstate' : a.obj.status.state = attachmentPending ∨ a.obj.status.state = attached ∨
      a.obj.status.state = attachmentFailed ∨ a.obj.status.state = detachmentFailed := by
    simpa using hstate
  have hbranch : reconcile a.obj = .detach :=
    reconcile_eq_detach.2 ⟨by simpa [deletionRequested] using hdel, hstate'⟩
  have hupd : Trigger.detach.updateFunc K a.obj = .ok (a.obj.setState detaching) :=
    updateState_eq_ok_iff.2 ⟨by rcases hstate' with h | h | h | h <;>
      simp [h, allowedTargetAttachmentStates], rfl⟩
  have hupd' : (Completion.detachSucceeded.updateFunc K (a.obj.setState detaching) none).1 =
      .ok ((deleteFinalizer K (a.obj.setState detaching)).setState detached) :=
    congrArg Prod.fst (congrArg assignErr (updateState_eq_ok_iff.2
      ⟨by simp [allowedTargetAttachmentStates], rfl⟩))
  obtain ⟨e₀, c', b₁, clock, he₀, hrun, hs, hb₁w, hu, htask⟩ := operation_run hc ha .detach
    (c.volumeAttachmentLookup K a.obj) (.unpublishVolume a.obj.spec.volumeID a.obj.spec.nodeName)
    (fun j => .unpublishReturns j none) _ none
    (fun c' => by simp [Cluster.startPass, hbranch, hreq]) hupd
    (fun _ => by simpa using hc.finalizers_ne_nil_of_deleting ha hdel) (fun _ => rfl)
    (fun _ _ hj => step_unpublishReturns _ hj) hupd'
  refine ⟨e₀, c', he₀, hrun, htask, fun b hb => ?_, ?_⟩
  · obtain ⟨hbw, hbu, -⟩ := Stored.next_eq_some (hs ▸ hb)
    rw [hbu, hu, hbw]
    exact ⟨rfl, by simp, by simp [deleteFinalizer]⟩
  · rw [hs, Stored.next_eq_none]
    simp [hb₁w, deleteFinalizer, hdel]

/-- Attach the record, then delete it. -/
def attachThenDeleteRun : List Event :=
  [.create pendingRecord, .reconcile 0 .notFound, .acquire 0, .commit 0,
    .publishReturns 0 (.ok fun _ => none), .complete 0, .delete]

/-- The theorem for an attached record a client has just deleted, which names no
`VolumeAttachment`. -/
theorem detach_completes_after_delete :
    ∃ c a, Reachable default c ∧ c.store = some a ∧
      a.obj.status.state ∈ [attachmentPending, attached, attachmentFailed, detachmentFailed] ∧
      a.obj.deletionTimestamp.isSome ∧
      detachmentRequested default a.obj (c.volumeAttachmentLookup default a.obj) = some true ∧
      ∃ e₀ c', (e₀ = .resync ∨ ∃ i, e₀ = .giveUp i) ∧
        exec default c (e₀ :: [.reconcile (c.history.length - 1)
            (c.volumeAttachmentLookup default a.obj), .acquire c.passes.length,
          .commit c.passes.length, .unpublishReturns c.tasks.length none,
          .complete c.tasks.length]) = some c' ∧
        ⟨.unpublishVolume a.obj.spec.volumeID a.obj.spec.nodeName, .done⟩ ∈ c'.tasks ∧
        (∀ b, c'.store = some b → b.uid = a.uid ∧ b.obj.status.state = detached ∧
          b.obj.finalizers = a.obj.finalizers.filter
            fun f => f != (default : Env).azVolumeAttachmentFinalizer) ∧
        (c'.store = none ↔
          ∀ f ∈ a.obj.finalizers, f = (default : Env).azVolumeAttachmentFinalizer) := by
  obtain ⟨c, a, hrun, ha, hstate, hdel, hreq⟩ : ∃ c a,
      exec default Cluster.init attachThenDeleteRun = some c ∧ c.store = some a ∧
      a.obj.status.state = attached ∧ a.obj.deletionTimestamp.isSome ∧
      detachmentRequested default a.obj (c.volumeAttachmentLookup default a.obj) = some true :=
    ⟨_, _, rfl, rfl, rfl, rfl, rfl⟩
  have hc := Reachable.init.of_exec hrun
  have hmem : a.obj.status.state ∈ [attachmentPending, attached, attachmentFailed,
      detachmentFailed] := by simp [hstate]
  exact ⟨c, a, hc, ha, hmem, hdel, hreq, detach_completes hc ha hmem hdel hreq⟩

end AttachDetach
