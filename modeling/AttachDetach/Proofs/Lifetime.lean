import AttachDetach.Proofs.Progress

/-!
# What the status keeps for the life of a record, and promotion

The detail that the attach goroutine writes with the publish context of `PublishVolume` stays
with the record for the rest of its life, with that same publish context, and its role only
ever changes to `Primary` (`detail_kept_for_life`).  The only writer that touches a detail
once it exists is `promote`, whose `updateRole` writes `PrimaryRole`; the attach goroutine's
`updateStatusDetail`, the only other writer of the detail, needs the record in `Attaching`,
which a record with a detail never is again (`DetailInvariant`).  So the controller never
demotes a record.

No writer clears `Status.Error` either: `updateError` sets it on a failed call and does
nothing for a nil error, and the writers of a success leave it alone.  So an error, once
recorded, stays with the record for its whole life (`error_never_cleared`), also once a
later attach or detach of the same record succeeds.

`Detached` is final: the table leads nowhere from it, so a record that another finalizer
keeps after its detach stays `Detached`, and since a goroutine starts only after its trigger
wrote `Attaching` or `Detaching`, no provisioner call is issued for it again
(`detached_is_final`), whatever stale version a `Reconcile` pass read.

Promotion itself needs no lock and starts no goroutine: from every reachable state whose
record `Reconcile` would promote, a resync and one pass write `updateRole` with
`PrimaryRole` (`promote_completes`).  The record is then settled exactly when its spec
requests `Primary`; a record that requests `Replica` goes through the promote branch on
every later pass, and keeps its `Primary` detail.
-/

namespace AttachDetach

open AzVolumeAttachmentAttachmentState

variable {K : Env}

/-! ## Every writer keeps the detail, or promotes it -/

/-- Every writer keeps the detail of a record that has completed an attach, but `promote`,
which sets its role to `Primary`. -/
theorem Writes.detail_of_attachedOnce {v w : AzVolumeAttachment} (h : Writes K v w)
    (hs : v.status.state ∈ attachedOnceStates) :
    w.status.detail = v.status.detail ∨
      w.status.detail = v.status.detail.map fun d => { d with role := .primary } := by
  cases h with
  | markDeleted | edit | recoverUpdate => simp
  | trigger t hw =>
    cases t with
    | attach | detach => obtain ⟨-, rfl⟩ := updateState_eq_ok_iff.1 hw; simp
    | deleteFinalizer => cases hw; simp
    | promote => cases hw; exact .inr rfl
  | completion cpl err hw =>
    cases cpl with
    | attachSucceeded =>
      obtain ⟨hm, -⟩ := updateState_eq_ok_iff.1 hw
      rw [updateStatusDetail_state, attached_mem_allowed_iff] at hm
      simp [hm, attachedOnceStates] at hs
    | attachFailed | detachSucceeded | detachFailed =>
      obtain ⟨-, rfl⟩ := updateState_eq_ok_iff.1 hw; simp

/-- An incarnation that survives a store step is kept, or written over by one of the
writers. -/
theorem StoreStep.survivor {clock : Nat} {h h' : List AzVolumeAttachment}
    {s s' : Option Stored} (hstep : StoreStep K clock h s s' h') {a b : Stored}
    (ha : s = some a) (hb : s' = some b) : b = a ∨ Writes K a.obj b.obj := by
  cases hstep with
  | keep => exact .inl (Option.some.inj (hb.symm.trans ha))
  | write a' hw => cases ha; exact .inr ((Stored.next_eq_some hb).1 ▸ hw)
  | remove => cases hb
  | insertUpstream | insertRecovered => cases ha

/-- A store step keeps the detail of the stored incarnation, or promotes it. -/
theorem StoreStep.detail {clock : Nat} {h h' : List AzVolumeAttachment} {s s' : Option Stored}
    (hstep : StoreStep K clock h s s' h') (hinv : DetailInvariant s) {a b : Stored}
    (ha : s = some a) (hb : s' = some b) (hd : a.obj.status.detail.isSome) :
    b.obj.status.detail = a.obj.status.detail ∨
      b.obj.status.detail = a.obj.status.detail.map fun d => { d with role := .primary } := by
  rcases hstep.survivor ha hb with rfl | hw
  · exact .inl rfl
  · obtain ⟨hflag, hstate⟩ := hinv a ha
    exact hw.detail_of_attachedOnce (hstate (hflag ▸ hd))

/-- **The detail an attach wrote is kept for the whole life of the record, with the publish
context `PublishVolume` returned, and its role only ever becomes `Primary`**: from every
reachable state whose record has a detail, whatever runs from there (client edits and
deletes, resyncs, `Recover`, every `Reconcile` pass and goroutine), as long as the same
incarnation is stored. -/
theorem detail_kept_for_life {c : Cluster} (hc : Reachable K c) {a : Stored}
    (ha : c.store = some a) {d : AzVolumeAttachmentStatusDetail}
    (hd : a.obj.status.detail = some d) {es : List Event} {c' : Cluster}
    (hrun : exec K c es = some c') {b : Stored} (hb : c'.store = some b) (huid : b.uid = a.uid) :
    ∃ d', b.obj.status.detail = some d' ∧ d'.publishContext = d.publishContext ∧
      (d'.role = d.role ∨ d'.role = .primary) := by
  refine (exec_incarnation (Q := fun b c => Reachable K c ∧ ∃ d', b.obj.status.detail = some d' ∧
      d'.publishContext = d.publishContext ∧ (d'.role = d.role ∨ d'.role = .primary))
    (fun ha' ⟨hc', d', hd', hctx, hrole⟩ h hb' => ⟨hc'.step h, ?_⟩) (hc.uid_lt_clock ha)
    (fun a' ha' _ => by cases ha.symm.trans ha'; exact ⟨hc, d, hd, rfl, .inl rfl⟩)
    hrun b hb huid).2
  rcases (step_store h).detail hc'.detailInvariant ha' hb' (by simp [hd']) with he | he <;>
    rw [he, hd']
  · exact ⟨d', rfl, hctx, hrole⟩
  · exact ⟨_, rfl, hctx, .inr rfl⟩

/-- The theorem for the record the attach run leaves `Attached`. -/
theorem detail_kept_for_life_after_attach :
    ∃ c a d, Reachable default c ∧ c.store = some a ∧ a.obj.status.detail = some d ∧
      ∀ (es : List Event) (c' : Cluster) (b : Stored), exec default c es = some c' →
        c'.store = some b → b.uid = a.uid →
        ∃ d', b.obj.status.detail = some d' ∧ d'.publishContext = d.publishContext ∧
          (d'.role = d.role ∨ d'.role = .primary) := by
  obtain ⟨c, a, d, hrun, ha, hd⟩ : ∃ c a d, exec default Cluster.init
      [.create pendingRecord, .reconcile 0 .notFound, .acquire 0, .commit 0,
        .publishReturns 0 (.ok fun _ => none), .complete 0] = some c ∧
      c.store = some a ∧ a.obj.status.detail = some d := ⟨_, _, _, rfl, rfl, rfl⟩
  have hc := Reachable.init.of_exec hrun
  exact ⟨c, a, d, hc, ha, hd, fun es c' b h hb hu => detail_kept_for_life hc ha hd h hb hu⟩

/-! ## The error block is never cleared -/

/-- No writer clears the error block. -/
theorem Writes.error_isSome {v w : AzVolumeAttachment} (h : Writes K v w)
    (he : v.status.error.isSome) : w.status.error.isSome := by
  cases h with
  | markDeleted | edit | recoverUpdate => simpa using he
  | trigger t hw => rwa [(Trigger.updateFunc_spec hw).2.2]
  | completion cpl err hw =>
    cases cpl <;> obtain ⟨-, rfl⟩ := updateState_eq_ok_iff.1 hw <;> cases err <;> simp [he]

/-- A store step keeps the error block of the stored incarnation. -/
theorem StoreStep.error_isSome {clock : Nat} {h h' : List AzVolumeAttachment}
    {s s' : Option Stored} (hstep : StoreStep K clock h s s' h') {a b : Stored}
    (ha : s = some a) (hb : s' = some b) (he : a.obj.status.error.isSome) :
    b.obj.status.error.isSome := by
  rcases hstep.survivor ha hb with rfl | hw
  exacts [he, hw.error_isSome he]

/-- **An error recorded in `Status.Error` stays for the whole life of the record**: from every
reachable state whose record has an error block, whatever runs from there, as long as the
same incarnation is stored, it has one, also after a later attach or detach succeeds. -/
theorem error_never_cleared {c : Cluster} (hc : Reachable K c) {a : Stored}
    (ha : c.store = some a) (he : a.obj.status.error.isSome) {es : List Event} {c' : Cluster}
    (hrun : exec K c es = some c') {b : Stored} (hb : c'.store = some b) (huid : b.uid = a.uid) :
    b.obj.status.error.isSome :=
  exec_incarnation (Q := fun b _ => b.obj.status.error.isSome)
    (fun ha' he' h hb' => (step_store h).error_isSome ha' hb' he') (hc.uid_lt_clock ha)
    (fun a' ha' _ => by cases ha.symm.trans ha'; exact he) hrun b hb huid

/-- The theorem for the record a failed `PublishVolume` left in `AttachmentFailed`. -/
theorem error_never_cleared_after_failed_attach :
    ∃ c a, Reachable default c ∧ c.store = some a ∧ a.obj.status.error.isSome ∧
      ∀ (es : List Event) (c' : Cluster) (b : Stored), exec default c es = some c' →
        c'.store = some b → b.uid = a.uid → b.obj.status.error.isSome := by
  obtain ⟨c, a, hrun, ha, he⟩ : ∃ c a,
      exec default Cluster.init (failedAttachRun (.status Code.unknown "")) = some c ∧
      c.store = some a ∧ a.obj.status.error.isSome := ⟨_, _, rfl, rfl, rfl⟩
  have hc := Reachable.init.of_exec hrun
  exact ⟨c, a, hc, ha, he, fun es c' b h hb hu => error_never_cleared hc ha he h hb hu⟩

/-! ## `Detached` is final -/

/-- One step from a reachable state whose record is `Detached` keeps it `Detached` and starts
no goroutine: the table leads nowhere from `Detached`, and a goroutine starts only with the
write of `Attaching` or `Detaching` that precedes its call. -/
theorem detached_step {c c' : Cluster} (hc : Reachable K c) {a : Stored}
    (ha : c.store = some a) (hdet : a.obj.status.state = detached) {e : Event}
    (h : step K c e = some c') :
    (∀ b, c'.store = some b → b.obj.status.state = detached) ∧
      c'.tasks.length = c.tasks.length := by
  have hkeep : ∀ b, c'.store = some b → b.obj.status.state = detached := fun b hb => by
    simpa [hdet, allowedTargetAttachmentStates] using (step_store h).state a b ha hb
  refine ⟨hkeep, ?_⟩
  by_contra hnew
  obtain ⟨call, b, -, hb, hstate⟩ := call_issued_with_intent_write hc h hnew
  rcases hstate with ⟨-, hs⟩ | ⟨-, hs⟩ <;> simp [hkeep b hb] at hs

/-- **A `Detached` record stays `Detached`, and no provisioner call is issued, for as long as
it exists**: from every reachable state whose record is `Detached` (a record another
finalizer keeps after its detach), whatever runs from there, stale `Reconcile` passes that
read a version before the detach included, the same incarnation is still `Detached` and no
goroutine was started. -/
theorem detached_is_final {c : Cluster} (hc : Reachable K c) {a : Stored}
    (ha : c.store = some a) (hdet : a.obj.status.state = detached) {es : List Event}
    {c' : Cluster} (hrun : exec K c es = some c') {b : Stored} (hb : c'.store = some b)
    (huid : b.uid = a.uid) :
    b.obj.status.state = detached ∧ c'.tasks.length = c.tasks.length :=
  (exec_incarnation (Q := fun b c' => Reachable K c' ∧ b.obj.status.state = detached ∧
      c'.tasks.length = c.tasks.length)
    (fun ha' ⟨hc', hdet', hlen⟩ h hb' => ⟨hc'.step h, (detached_step hc' ha' hdet' h).1 _ hb',
      (detached_step hc' ha' hdet' h).2.trans hlen⟩)
    (hc.uid_lt_clock ha) (fun a' ha' _ => by cases ha.symm.trans ha'; exact ⟨hc, hdet, rfl⟩)
    hrun b hb huid).2

/-- The theorem for a record that another finalizer keeps after its detach. -/
theorem detached_is_final_after_detach :
    ∃ c a, Reachable default c ∧ c.store = some a ∧ a.obj.status.state = detached ∧
      ∀ (es : List Event) (c' : Cluster) (b : Stored), exec default c es = some c' →
        c'.store = some b → b.uid = a.uid →
        b.obj.status.state = detached ∧ c'.tasks.length = c.tasks.length := by
  obtain ⟨c, a, hrun, ha, hdet⟩ : ∃ c a, exec default Cluster.init (attachDetachRun default) =
      some c ∧ c.store = some a ∧ a.obj.status.state = detached := ⟨_, _, rfl, rfl, rfl⟩
  have hc := Reachable.init.of_exec hrun
  exact ⟨c, a, hc, ha, hdet, fun es c' b h hb hu => detached_is_final hc ha hdet h hb hu⟩

/-! ## Promotion completes -/

/-- **Every record `Reconcile` would promote gets promoted, with no lock and no provisioner
call**: from every reachable state whose record is in the promote branch, a resync and one
`Reconcile` pass, which reads the current version and commits `promote`'s update with no
`acquire`, leave the state lock and the goroutines as they were and write over the same
incarnation the record with role `Primary` in its detail and role label.  The record is then
settled exactly when its spec requests `Primary`. -/
theorem promote_completes {c : Cluster} (hc : Reachable K c) {a : Stored}
    (ha : c.store = some a) (hpromote : reconcile a.obj = .promote) :
    ∃ c' b, exec K c [.resync,
        .reconcile (c.history.length - 1) (c.volumeAttachmentLookup K a.obj),
        .commit c.passes.length] = some c' ∧
      c'.stateLock = c.stateLock ∧ c'.tasks = c.tasks ∧ c'.store = some b ∧ b.uid = a.uid ∧
      b.obj = updateRole K a.obj .primary ∧
      (reconcile b.obj = .none ↔ a.obj.spec.requestedRole = .primary) := by
  obtain ⟨hop, hdel, d, hd, -⟩ := reconcile_eq_promote.1 hpromote
  simp only [isOperationInProcess, Bool.or_eq_false_iff, beq_eq_false_iff_ne] at hop
  replace hdel : a.obj.deletionTimestamp = none := by simpa [deletionRequested] using hdel
  obtain ⟨b, hb, hbw⟩ := next_of_finalizers a (updateRole K a.obj .primary) c.clock
    fun h => by simp [hdel] at h
  have hread : step K c.requeue (.reconcile (c.history.length - 1)
      (c.volumeAttachmentLookup K a.obj)) = some ({ c.requeue with queue := c.queue }.addPass
        ⟨a.obj, .updating .promote⟩) := by
    rw [step_reconcile (c := c.requeue) _ _ (Nat.succ_ne_zero _) (hc.history_getElem?_last ha)]
    simp [Cluster.startPass, hpromote, Cluster.requeue]
  refine ⟨_, b, exec_cons_of_step rfl (exec_cons_of_step hread (exec_cons_of_step
      (step_commit_write (Cluster.addPass_getElem? _) ha rfl) (by rfl))),
    by rfl, by rfl, by simpa using hb, (Stored.next_eq_some hb).2.1, hbw, ?_⟩
  rw [hbw]
  simp [reconcile, isOperationInProcess, deletionRequested, updateRole, hd, hop, hdel]

/-- Attach a record that requests `Replica`, then edit its spec to request `Primary`. -/
def promoteRun : List Event :=
  [.create { pendingRecord with spec := { pendingRecord.spec with requestedRole := .replica } },
    .reconcile 0 .notFound, .acquire 0, .commit 0, .publishReturns 0 (.ok fun _ => none),
    .complete 0, .edit pendingRecord.spec pendingRecord.annotations]

/-- The theorem for the record the run leaves `Attached` as `Replica`, requesting `Primary`. -/
theorem promote_completes_after_edit :
    ∃ c a, Reachable default c ∧ c.store = some a ∧ reconcile a.obj = .promote ∧
      ∃ c' b, exec default c [.resync, .reconcile (c.history.length - 1)
          (c.volumeAttachmentLookup default a.obj), .commit c.passes.length] = some c' ∧
        c'.stateLock = c.stateLock ∧ c'.tasks = c.tasks ∧ c'.store = some b ∧ b.uid = a.uid ∧
        b.obj = updateRole default a.obj .primary ∧
        (reconcile b.obj = .none ↔ a.obj.spec.requestedRole = .primary) := by
  obtain ⟨c, a, hrun, ha, hpromote⟩ : ∃ c a, exec default Cluster.init promoteRun = some c ∧
      c.store = some a ∧ reconcile a.obj = .promote := ⟨_, _, rfl, rfl, rfl⟩
  have hc := Reachable.init.of_exec hrun
  exact ⟨c, a, hc, ha, hpromote, promote_completes hc ha hpromote⟩

end AttachDetach
