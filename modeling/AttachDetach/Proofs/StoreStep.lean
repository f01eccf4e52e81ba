import AttachDetach.Proofs.Events

/-!
# What one step does to the store

Every invariant of the record is a statement about `Cluster.store`, and `step_store` says
once and for all what a step can do to it: keep it, write over the stored incarnation a
record that one of the writers computed from it (`Writes`), remove an incarnation that has
no finalizer left, or create a new incarnation the way the upstream creator or `Recover`
builds it.  The invariant proofs then case on `StoreStep` and never unfold `step`.

`step_commit` is the finer inversion for a trigger's write, which the race statements need.
-/

namespace AttachDetach

open AzVolumeAttachmentAttachmentState

/-- The ways a writer of the store derives the record it writes from the one it read. -/
inductive Writes (K : Env) : AzVolumeAttachment → AzVolumeAttachment → Prop
  | markDeleted (azv : AzVolumeAttachment) (time : Nat) :
      Writes K azv { azv with deletionTimestamp := some time }
  | edit (azv : AzVolumeAttachment) (spec : AzVolumeAttachmentSpec)
      (annotations : String → Option String) :
      Writes K azv { azv with spec := spec, annotations := annotations }
  | trigger (t : Trigger) {azv w : AzVolumeAttachment} :
      t.updateFunc K azv = .ok w → Writes K azv w
  | completion (cpl : Completion) (err : Option GoError) {azv w : AzVolumeAttachment} :
      (cpl.updateFunc K azv err).1 = .ok w → Writes K azv w
  | recoverUpdate (azv : AzVolumeAttachment) : Writes K azv (initializeMeta K azv)

/-- How one step changes the stored incarnation and the versions the cache may serve;
`clock` is the version a write gets. -/
inductive StoreStep (K : Env) (clock : Nat) (history : List AzVolumeAttachment) :
    Option Stored → Option Stored → List AzVolumeAttachment → Prop
  | keep (s : Option Stored) : StoreStep K clock history s s history
  | write (a : Stored) {w : AzVolumeAttachment} :
      Writes K a.obj w → StoreStep K clock history (some a) (a.next w clock) (history ++ [w])
  | remove (a : Stored) : a.obj.finalizers = [] → StoreStep K clock history (some a) none history
  | insertUpstream (azv : AzVolumeAttachment) :
      StoreStep K clock history none
        (some
          { obj := upstreamRecord azv
            resourceVersion := clock
            uid := clock
            attachedOnce := false })
        (history ++ [upstreamRecord azv])
  | insertRecovered (volumeName volumeHandle nodeName : String)
      (status : VolumeAttachmentStatus) :
      StoreStep K clock history none
        (some
          { obj := recoveredRecord K volumeName volumeHandle nodeName status
            resourceVersion := clock
            uid := clock
            attachedOnce := K.getAzVolumeAttachmentState status == attached })
        (history ++ [recoveredRecord K volumeName volumeHandle nodeName status])

/-- What a write that left the object in the store stored. -/
theorem Stored.next_eq_some {a b : Stored} {w : AzVolumeAttachment} {clock : Nat}
    (h : a.next w clock = some b) :
    b.obj = w ∧ b.uid = a.uid ∧ b.resourceVersion = clock ∧
      b.attachedOnce = (a.attachedOnce ||
        (a.obj.status.state == attaching && w.status.state == attached)) := by
  unfold Stored.next at h
  split at h
  · cases h
  · cases h; exact ⟨rfl, rfl, rfl, rfl⟩

/-- A write removes the object exactly when its deletion was requested and no finalizer is
left. -/
theorem Stored.next_eq_none {a : Stored} {w : AzVolumeAttachment} {clock : Nat} :
    a.next w clock = none ↔ w.deletionTimestamp.isSome ∧ w.finalizers = [] := by
  unfold Stored.next
  split <;> rename_i h <;> simp_all

/-- A write that leaves a finalizer keeps the object. -/
theorem Stored.next_of_ne_nil {a : Stored} {w : AzVolumeAttachment} {clock : Nat}
    (h : w.finalizers ≠ []) :
    a.next w clock = some
      { obj := w
        resourceVersion := clock
        uid := a.uid
        attachedOnce :=
          a.attachedOnce || (a.obj.status.state == attaching && w.status.state == attached) } := by
  simp [Stored.next, h]

/-! ## The cluster operations and the store -/

namespace Cluster

variable (c : Cluster)

@[simp] theorem write_store (a : Stored) (w : AzVolumeAttachment) :
    (c.write a w).store = a.next w c.clock := rfl

@[simp] theorem write_history (a : Stored) (w : AzVolumeAttachment) :
    (c.write a w).history = c.history ++ [w] := rfl

@[simp] theorem requeue_store : c.requeue.store = c.store := rfl

@[simp] theorem requeue_history : c.requeue.history = c.history := rfl

@[simp] theorem setPass_history (i : Nat) (p : Pass) : (c.setPass i p).history = c.history := rfl

@[simp] theorem addPass_history (p : Pass) : (c.addPass p).history = c.history := rfl

@[simp] theorem setTask_history (j : Nat) (t : Task) : (c.setTask j t).history = c.history := rfl

@[simp] theorem spawn_history (t : Trigger) (azv : AzVolumeAttachment) :
    (c.spawn t azv).history = c.history := by
  cases t <;> rfl

@[simp] theorem finishPass_history (i : Nat) (p : Pass) (t : Trigger) :
    (c.finishPass i p t).history = c.history := by
  unfold finishPass; split <;> rfl

@[simp] theorem startPass_history (K : Env) (azv : AzVolumeAttachment)
    (lookup : VolumeAttachmentLookup) : (c.startPass K azv lookup).history = c.history := by
  unfold startPass; split <;> try rfl
  split <;> rfl

@[simp] theorem setPass_store (i : Nat) (p : Pass) : (c.setPass i p).store = c.store := rfl

@[simp] theorem addPass_store (p : Pass) : (c.addPass p).store = c.store := rfl

@[simp] theorem setTask_store (j : Nat) (t : Task) : (c.setTask j t).store = c.store := rfl

@[simp] theorem spawn_store (t : Trigger) (azv : AzVolumeAttachment) :
    (c.spawn t azv).store = c.store := by
  cases t <;> rfl

@[simp] theorem finishPass_store (i : Nat) (p : Pass) (t : Trigger) :
    (c.finishPass i p t).store = c.store := by
  unfold finishPass; split <;> rfl

@[simp] theorem finishPass_clock (i : Nat) (p : Pass) (t : Trigger) :
    (c.finishPass i p t).clock = c.clock := by
  unfold finishPass; split <;> rfl

@[simp] theorem write_clock (a : Stored) (w : AzVolumeAttachment) :
    (c.write a w).clock = c.clock + 1 := rfl

@[simp] theorem insert_clock (azv : AzVolumeAttachment) (attachedOnce : Bool) :
    (c.insert azv attachedOnce).clock = c.clock + 1 := rfl

@[simp] theorem requeue_clock : c.requeue.clock = c.clock := rfl

@[simp] theorem setPass_clock (i : Nat) (p : Pass) : (c.setPass i p).clock = c.clock := rfl

@[simp] theorem addPass_clock (p : Pass) : (c.addPass p).clock = c.clock := rfl

@[simp] theorem setTask_clock (j : Nat) (t : Task) : (c.setTask j t).clock = c.clock := rfl

@[simp] theorem spawn_clock (t : Trigger) (azv : AzVolumeAttachment) :
    (c.spawn t azv).clock = c.clock := by
  cases t <;> rfl

@[simp] theorem startPass_clock (K : Env) (azv : AzVolumeAttachment)
    (lookup : VolumeAttachmentLookup) : (c.startPass K azv lookup).clock = c.clock := by
  unfold startPass; split <;> try rfl
  split <;> rfl

@[simp] theorem startPass_store (K : Env) (azv : AzVolumeAttachment)
    (lookup : VolumeAttachmentLookup) : (c.startPass K azv lookup).store = c.store := by
  unfold startPass; split <;> try rfl
  split <;> rfl

@[simp] theorem finishPass_tasks (i : Nat) (p : Pass) (t : Trigger) :
    (c.finishPass i p t).tasks = c.tasks := by
  unfold finishPass; split <;> rfl

@[simp] theorem requeue_tasks : c.requeue.tasks = c.tasks := rfl

@[simp] theorem write_tasks (a : Stored) (w : AzVolumeAttachment) :
    (c.write a w).tasks = c.tasks := rfl

end Cluster

/-! ## The inversion -/

variable {K : Env} {c c' : Cluster}

/-- **What one step does to the store.** -/
theorem step_store {e : Event} (h : step K c e = some c') :
    StoreStep K c.clock c.history c.store c'.store c'.history := by
  cases e with
  | create azv =>
    simp only [step] at h
    split at h <;> rename_i hs
    · cases h
    · cases h; rw [hs]; exact .insertUpstream azv
  | delete =>
    simp only [step] at h
    split at h <;> rename_i a hs
    · cases h
    · split at h
      · cases h; rw [hs]; exact .remove a (List.isEmpty_iff.1 ‹_›)
      · split at h
        · cases h
        · cases h; rw [hs]; exact .write a (.markDeleted _ _)
  | edit spec annotations =>
    simp only [step, Option.map_eq_some'] at h
    obtain ⟨a, hs, rfl⟩ := h
    rw [hs]; exact .write a (.edit _ _ _)
  | resync => cases h; exact .keep _
  | reconcile version lookup =>
    simp only [step] at h
    split at h
    · cases h
    · split at h <;> cases h <;> simp only [Cluster.startPass_store, Cluster.startPass_history] <;>
        exact .keep _
  | acquire i =>
    simp only [step] at h
    split at h
    · split at h <;> cases h <;> exact .keep _
    · cases h
  | commit i =>
    simp only [step] at h
    split at h
    · rename_i p azv t hp
      split at h <;> rename_i hs
      · cases h; simp only [Cluster.requeue_store, Cluster.finishPass_store,
          Cluster.requeue_history, Cluster.finishPass_history, hs]; exact .keep _
      · rename_i a
        split at h
        · cases h; simp only [Cluster.requeue_store, Cluster.finishPass_store,
            Cluster.requeue_history, Cluster.finishPass_history, hs]; exact .keep _
        · rename_i w hw
          cases h
          simp only [Cluster.spawn_store, Cluster.write_store, Cluster.finishPass_clock,
            Cluster.spawn_history, Cluster.write_history, Cluster.finishPass_history, hs]
          exact .write a (.trigger t hw)
    · cases h
  | giveUp i =>
    simp only [step] at h
    split at h
    · cases h; simp only [Cluster.requeue_store, Cluster.finishPass_store,
        Cluster.requeue_history, Cluster.finishPass_history]; exact .keep _
    · cases h
  | publishReturns j result =>
    simp only [step] at h
    split at h
    · cases h; exact .keep _
    · cases h
  | unpublishReturns j result =>
    simp only [step] at h
    split at h
    · cases h; exact .keep _
    · cases h
  | complete j =>
    simp only [step] at h
    split at h
    · rename_i call cpl err hj
      split at h <;> rename_i hs
      · cases h; simp only [Cluster.setTask_store, Cluster.setTask_history, hs]; exact .keep _
      · rename_i a
        split at h
        · cases h; simp only [Cluster.setTask_store, Cluster.setTask_history, hs]; exact .keep _
        · rename_i w hw
          cases h
          simp only [Cluster.write_store, Cluster.write_history, Cluster.setTask_history, hs]
          exact .write a (.completion cpl err hw)
    · cases h
  | attempt j =>
    simp only [step] at h
    split at h
    · split at h <;> cases h; exact .keep _
    · cases h
  | retry j =>
    simp only [step] at h
    split at h
    · split at h <;> cases h; exact .keep _
    · cases h
  | abandon j =>
    simp only [step] at h
    split at h
    · split at h <;> cases h; exact .keep _
    · cases h
  | recoverUpdate =>
    simp only [step, Option.map_eq_some'] at h
    obtain ⟨a, hs, rfl⟩ := h
    rw [hs]; exact .write a (.recoverUpdate _)
  | recoverCreate volumeName volumeHandle nodeName status =>
    simp only [step] at h
    split at h <;> rename_i hs
    · cases h
    · cases h; rw [hs]; exact .insertRecovered volumeName volumeHandle nodeName status
  | changeVolumeAttachment name state =>
    simp only [step] at h
    split at h
    · cases h; exact .keep _
    · cases h

/-- What a trigger's `commit` did: its update function failed on the stored version (or
there was none), and the pass ends with a requeue; or it succeeded, the result was written
and the goroutine, if any, started. -/
theorem step_commit {i : Nat} (h : step K c (.commit i) = some c') :
    ∃ p t, c.passes[i]? = some p ∧ p.phase = .updating t ∧
      ((∀ a w, c.store = some a → t.updateFunc K a.obj ≠ .ok w) ∧
          c' = (c.finishPass i p t).requeue ∨
        ∃ a w, c.store = some a ∧ t.updateFunc K a.obj = .ok w ∧
          c' = ((c.finishPass i p t).write a w).spawn t p.azv) := by
  simp only [step] at h
  split at h
  · rename_i p azv t hp
    refine ⟨_, t, hp, rfl, ?_⟩
    split at h <;> rename_i hs
    · cases h; exact .inl ⟨fun a w ha => by simp [hs] at ha, rfl⟩
    · rename_i a
      split at h <;> rename_i hw
      · cases h; exact .inl ⟨fun a' w ha => by cases hs.symm.trans ha; simp [hw], rfl⟩
      · cases h; exact .inr ⟨a, _, hs, hw, rfl⟩
  · cases h

/-- Every property of the store and the cache that holds initially and survives every
`StoreStep` holds in every reachable state. -/
theorem Reachable.store_induction {P : Option Stored → List AzVolumeAttachment → Prop}
    (h0 : P none [])
    (hstep : ∀ clock h h' s s', StoreStep K clock h s s' h' → P s h → P s' h') {c : Cluster}
    (hc : Reachable K c) : P c.store c.history := by
  induction hc with
  | init => exact h0
  | step _ hs ih => exact hstep _ _ _ _ _ (step_store hs) ih

/-- The stored version is the last one the cache has seen. -/
theorem Reachable.history_getLast {c : Cluster} (hc : Reachable K c) {a : Stored}
    (ha : c.store = some a) : c.history.getLast? = some a.obj := by
  have key : ∀ a, c.store = some a → c.history.getLast? = some a.obj := by
    refine hc.store_induction (P := fun s h => ∀ a, s = some a → h.getLast? = some a.obj)
      (fun _ h => by cases h) fun clock h h' s s' hstep ih => ?_
    intro b hb
    cases hstep with
    | keep => exact ih b hb
    | write a hw => simp [(Stored.next_eq_some hb).1]
    | remove => cases hb
    | insertUpstream => cases hb; simp
    | insertRecovered => cases hb; simp
  exact key a ha

/-- The stored version sits at the last index of the cache. -/
theorem Reachable.history_getElem?_last {c : Cluster} (hc : Reachable K c) {a : Stored}
    (ha : c.store = some a) : c.history[c.history.length - 1]? = some a.obj := by
  rw [← List.getLast?_eq_getElem?]
  exact hc.history_getLast ha

end AttachDetach
