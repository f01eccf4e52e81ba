import AttachDetach.Proofs.Transitions

/-!
# When a record has a status detail

`Status.Detail` is created by exactly two writers: the attach goroutine's successful
completion, which moves the record from `Attaching` to `Attached`, and `Recover`'s
synthesis of a record in `Attached`.  Nothing ever sets it back to `nil`, the detach
completion included.  So for every reachable state the stored incarnation has a detail
exactly when it has completed an attach, the proof-only flag `attachedOnce`; and since the
table never leads from `Attached` back to `AttachmentPending`, `Attaching` or
`AttachmentFailed` (`mem_attachedOnceStates_of_mem_allowed`), a detail never coexists with
those three states.  It does coexist with `Detached`: a detach that completes leaves the
detail in place, and the record stays in the store as long as another finalizer holds it.
The table enters `Attached` only from `Attaching`, so a record in `Attached` always has a
detail (`attached_has_detail`).
-/

namespace AttachDetach

open AzVolumeAttachmentAttachmentState

variable {K : Env}

/-- The detail of the stored incarnation is present exactly when it completed an attach,
and an incarnation that did is in one of the states that follow `Attached`. -/
def DetailInvariant (s : Option Stored) : Prop :=
  ∀ a, s = some a → a.obj.status.detail.isSome = a.attachedOnce ∧
    (a.attachedOnce = true → a.obj.status.state ∈ attachedOnceStates)

private theorem attaching_and_attached (s : AzVolumeAttachmentAttachmentState) :
    (s == attaching && s == attached) = false := by
  cases s <;> rfl

/-- Every writer creates the detail only on the way from `Attaching` to `Attached`, and
keeps whether there is one otherwise. -/
theorem Writes.detail_isSome {v w : AzVolumeAttachment} (h : Writes K v w) :
    w.status.detail.isSome =
      (v.status.detail.isSome || (v.status.state == attaching && w.status.state == attached)) := by
  cases h with
  | markDeleted => simp [attaching_and_attached]
  | edit => simp [attaching_and_attached]
  | trigger t hw =>
    obtain ⟨hs, hd, -⟩ := Trigger.updateFunc_spec hw
    rcases hs with hs | ⟨-, hs | hs⟩ <;> rw [hs] at * <;> cases v.status.state <;> simp_all
  | completion cpl err hw =>
    obtain ⟨hs, hatt, hne⟩ := Completion.updateFunc_spec hw
    by_cases hw' : w.status.state = attached
    · rw [hw'] at hs ⊢
      simp [attached_mem_allowed_iff.1 hs, hatt hw']
    · simp [hne hw', hw']
  | recoverUpdate => simp [attaching_and_attached]

theorem StoreStep.detailInvariant {clock : Nat} {h h' : List AzVolumeAttachment}
    {s s' : Option Stored} (hstep : StoreStep K clock h s s' h') (hs : DetailInvariant s) :
    DetailInvariant s' := by
  intro b hb
  cases hstep with
  | keep => exact hs b hb
  | write a hw =>
    obtain ⟨rfl, -, -, hflag⟩ := Stored.next_eq_some hb
    obtain ⟨hd, hstate⟩ := hs a rfl
    refine ⟨by rw [hw.detail_isSome, hflag, hd], fun hb' => ?_⟩
    rw [hflag] at hb'
    rcases Bool.or_eq_true _ _ ▸ hb' with ha | ha
    · rcases hw.state with he | he
      · exact he ▸ hstate ha
      · exact mem_attachedOnceStates_of_mem_allowed (hstate ha) he
    · simp only [Bool.and_eq_true, beq_iff_eq] at ha
      simp [ha.2, attachedOnceStates]
  | remove => cases hb
  | insertUpstream => cases hb; simp [upstreamRecord]
  | insertRecovered =>
    cases hb
    simp only [recoveredRecord, beq_iff_eq]
    split <;> simp_all [attachedOnceStates]

theorem Reachable.detailInvariant {c : Cluster} (hc : Reachable K c) : DetailInvariant c.store :=
  hc.store_induction (P := fun s _ => DetailInvariant s) (fun _ h => by cases h)
    fun _ _ _ _ _ h hs => h.detailInvariant hs

/-- A stored record with a detail is in none of the states before `Attached`. -/
theorem Reachable.not_unattached_of_detail {c : Cluster} (hc : Reachable K c) {a : Stored}
    (ha : c.store = some a) (h : a.obj.status.detail.isSome) :
    a.obj.status.state ≠ attachmentPending ∧ a.obj.status.state ≠ attaching ∧
      a.obj.status.state ≠ attachmentFailed := by
  obtain ⟨hd, hstate⟩ := hc.detailInvariant a ha
  have := hstate (hd ▸ h)
  simp only [attachedOnceStates, List.mem_cons, List.mem_singleton, List.not_mem_nil,
    or_false] at this
  rcases this with h | h | h | h <;> simp [h]

/-- **A stored record has a status detail exactly when it completed an attach** (an
`Attaching` → `Attached` write of this incarnation, or `Recover`'s synthesis in `Attached`),
**and then it is in none of `AttachmentPending`, `Attaching`, `AttachmentFailed`.** -/
theorem detail_iff_attached_once {c : Cluster} (hc : Reachable K c) {a : Stored}
    (ha : c.store = some a) :
    (a.obj.status.detail.isSome ↔ a.attachedOnce) ∧
      (a.obj.status.detail.isSome →
        a.obj.status.state ≠ attachmentPending ∧ a.obj.status.state ≠ attaching ∧
          a.obj.status.state ≠ attachmentFailed) :=
  ⟨by rw [(hc.detailInvariant a ha).1], hc.not_unattached_of_detail ha⟩

/-- A stored incarnation in `Attached` has completed an attach: the table enters `Attached` only
from `Attaching`, and `Recover` marks what it synthesizes in `Attached`. -/
theorem StoreStep.attached_flag {clock : Nat} {h h' : List AzVolumeAttachment}
    {s s' : Option Stored} (hstep : StoreStep K clock h s s' h')
    (hs : ∀ a, s = some a → a.obj.status.state = attached → a.attachedOnce = true) :
    ∀ b, s' = some b → b.obj.status.state = attached → b.attachedOnce = true := by
  intro b hb hatt
  cases hstep with
  | keep => exact hs b hb hatt
  | write a hw =>
    obtain ⟨rfl, -, -, hflag⟩ := Stored.next_eq_some hb
    rw [hflag]
    rcases hw.state with he | he
    · simp [hs a rfl (he ▸ hatt)]
    · simp [attached_mem_allowed_iff.1 (hatt ▸ he), hatt]
  | remove => cases hb
  | insertUpstream => cases hb; simp [upstreamRecord] at hatt
  | insertRecovered => cases hb; simpa [recoveredRecord] using hatt

/-! ## A completed detach keeps the detail -/

/-- A record that also carries a finalizer of another controller. -/
def sharedRecord (K : Env) : AzVolumeAttachment where
  finalizers := [K.azVolumeAttachmentFinalizer ++ "-other"]
  labels := fun _ => none
  annotations := fun _ => none
  deletionTimestamp := none
  spec :=
    { underlyingVolume := "pv"
      volumeID := "disk"
      nodeName := "node"
      requestedRole := .primary
      volumeContext := fun _ => none }
  status := { detail := none, state := attachmentPending, error := none }

/-- Attach it, delete it, detach it. -/
def attachDetachRun (K : Env) : List Event :=
  [.create (sharedRecord K), .reconcile 0 .notFound, .acquire 0, .commit 0,
    .publishReturns 0 (.ok fun _ => none), .complete 0, .delete, .reconcile 3 .notFound,
    .acquire 1, .commit 1, .unpublishReturns 1 none, .complete 1]

theorem attachDetachRun_trace :
    ∃ c, exec default Cluster.init (attachDetachRun default) = some c ∧
      c.store.map (fun a => (a.obj.status.state, a.obj.status.detail.isSome)) =
        some (detached, true) :=
  ⟨_, rfl, rfl⟩

/-- After a completed detach the record is `Detached` and still has its detail. -/
theorem detail_kept_after_detach :
    ¬ ∀ (K : Env) (c : Cluster) (a : Stored), Reachable K c → c.store = some a →
      a.obj.status.detail.isSome → a.obj.status.state ≠ detached := by
  intro h
  obtain ⟨c, hc, hs⟩ := attachDetachRun_trace
  obtain ⟨a, ha, he⟩ := Option.map_eq_some'.1 hs
  simp only [Prod.mk.injEq] at he
  exact h default c a (Reachable.init.of_exec hc) ha he.2 he.1

/-- The theorem at the end of that run. -/
theorem detail_iff_attached_once_after_detach :
    ∃ c a, Reachable default c ∧ c.store = some a ∧
      (a.obj.status.detail.isSome ↔ a.attachedOnce) ∧
      (a.obj.status.detail.isSome →
        a.obj.status.state ≠ attachmentPending ∧ a.obj.status.state ≠ attaching ∧
          a.obj.status.state ≠ attachmentFailed) := by
  obtain ⟨c, hc, hs⟩ := attachDetachRun_trace
  obtain ⟨a, ha, -⟩ := Option.map_eq_some'.1 hs
  have hr := Reachable.init.of_exec hc
  exact ⟨c, a, hr, ha, detail_iff_attached_once hr ha⟩

/-! ## An attached record has a detail -/

/-- **A stored record in `Attached` has a status detail**, so the promotion check of
`Reconcile` always has a role to compare. -/
theorem attached_has_detail {c : Cluster} (hc : Reachable K c) {a : Stored}
    (ha : c.store = some a) (hatt : a.obj.status.state = attached) :
    a.obj.status.detail.isSome := by
  have hflag : ∀ a, c.store = some a → a.obj.status.state = attached → a.attachedOnce = true :=
    hc.store_induction (P := fun s _ => ∀ a, s = some a →
        a.obj.status.state = attached → a.attachedOnce = true)
      (fun _ h => by cases h) fun _ _ _ _ _ h hs => h.attached_flag hs
  rw [(hc.detailInvariant a ha).1]
  exact hflag a ha hatt

/-- The theorem once the record of the run above is attached. -/
theorem attached_has_detail_after_attach :
    ∃ c a, Reachable default c ∧ c.store = some a ∧ a.obj.status.state = attached ∧
      a.obj.status.detail.isSome := by
  obtain ⟨c, a, hrun, ha, hatt⟩ : ∃ c a,
      exec default Cluster.init ((attachDetachRun default).take 6) = some c ∧
      c.store = some a ∧ a.obj.status.state = attached := ⟨_, _, rfl, rfl, rfl⟩
  have hc := Reachable.init.of_exec hrun
  exact ⟨c, a, hc, ha, hatt, attached_has_detail hc ha hatt⟩

end AttachDetach
