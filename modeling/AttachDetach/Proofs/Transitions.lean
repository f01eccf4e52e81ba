import AttachDetach.Proofs.StoreStep

/-!
# Every state change is an edge of the table

Over every step of the system, from any state: when the stored incarnation survives a step
and its `Status.State` changes, the change is an edge of `allowedTargetAttachmentStates`
out of the state of the version the write overwrote.  The writers that change the state
do it through `updateState` on that very version (`Writes.state`), and all the others
(deletion marks, spec and annotation edits, the finalizer-only path, promotion,
`Recover`'s write) leave the state alone.

The other half of `state_change_follows_table` is the converse side of the law: an update
function that fails, `updateState` included, makes its step write nothing and start no
provisioner call.
-/

namespace AttachDetach

open AzVolumeAttachmentAttachmentState

variable {K : Env}

/-- Every writer keeps the state or follows the table. -/
theorem Writes.state {v w : AzVolumeAttachment} (h : Writes K v w) :
    w.status.state = v.status.state ∨
      w.status.state ∈ allowedTargetAttachmentStates v.status.state := by
  cases h with
  | markDeleted => exact .inl rfl
  | edit => exact .inl rfl
  | trigger t hw => exact (Trigger.updateFunc_spec hw).1.imp id And.left
  | completion cpl err hw => exact .inr (Completion.updateFunc_spec hw).1
  | recoverUpdate => exact .inl (by simp)

/-- A step whose update function rejected the version it read: a trigger's `commit`, or a
goroutine's `complete` or `attempt`. -/
def UpdateRejected (K : Env) (c : Cluster) : Event → Prop
  | .commit i => ∃ p t a e, c.passes[i]? = some p ∧ p.phase = .updating t ∧ c.store = some a ∧
      t.updateFunc K a.obj = .error e
  | .complete j | .attempt j => ∃ task cpl err a e, c.tasks[j]? = some task ∧
      task.phase = .updating cpl err ∧ c.store = some a ∧ (cpl.updateFunc K a.obj err).1 = .error e
  | _ => False

/-- A surviving incarnation's state is kept or moved along the table. -/
theorem StoreStep.state {clock : Nat} {h h' : List AzVolumeAttachment} {s s' : Option Stored}
    (hs : StoreStep K clock h s s' h') :
    ∀ a b, s = some a → s' = some b → b.obj.status.state = a.obj.status.state ∨
      b.obj.status.state ∈ allowedTargetAttachmentStates a.obj.status.state := by
  intro a b ha hb
  cases hs with
  | keep => cases ha.symm.trans hb; exact .inl rfl
  | write a' hw =>
    cases ha
    obtain ⟨rfl, -⟩ := Stored.next_eq_some hb
    exact hw.state
  | remove => cases hb
  | insertUpstream => cases ha
  | insertRecovered => cases ha

private theorem map_set_of_getElem? {α β : Type} {l : List α} {j : Nat} {x y : α}
    (f : α → β) (hy : l[j]? = some y) (hf : f x = f y) : (l.set j x).map f = l.map f := by
  apply List.ext_getElem?
  intro k
  simp only [List.getElem?_map, List.getElem?_set]
  split
  · subst_vars
    simp [(List.getElem?_eq_some_iff.1 hy).1, hy, hf]
  · rfl

/-- **Every state change of the stored record is an edge of the table, checked on the
version it overwrites, and an update function that fails writes nothing and issues no
provisioner call.** -/
theorem state_change_follows_table (K : Env) :
    (∀ c e c', step K c e = some c' → ∀ a b, c.store = some a → c'.store = some b →
      a.uid = b.uid → b.obj.status.state = a.obj.status.state ∨
        b.obj.status.state ∈ allowedTargetAttachmentStates a.obj.status.state) ∧
    (∀ c e c', step K c e = some c' → UpdateRejected K c e →
      c'.store = c.store ∧ c'.history = c.history ∧
        c'.tasks.map Task.call = c.tasks.map Task.call) := by
  refine ⟨fun c e c' h a b ha hb _ => ?_, fun c e c' h hr => ?_⟩
  · exact (step_store h).state a b ha hb
  · cases e with
    | commit i =>
      obtain ⟨p, t, a, ε, hp, ht, hs, he⟩ := hr
      obtain ⟨azv, phase⟩ := p
      cases ht
      simp only [step, hp, hs, he] at h
      cases h
      refine ⟨by simp, ?_, ?_⟩ <;>
        simp only [Cluster.requeue, Cluster.finishPass, Cluster.setPass] <;> split <;> rfl
    | complete j =>
      obtain ⟨task, cpl, err, a, ε, hj, ht, hs, he⟩ := hr
      obtain ⟨call, phase⟩ := task
      cases ht
      simp only [step, hj, hs, he] at h
      cases h
      exact ⟨rfl, rfl, map_set_of_getElem? Task.call hj rfl⟩
    | attempt j =>
      obtain ⟨task, cpl, err, a, ε, hj, ht, hs, he⟩ := hr
      obtain ⟨call, phase⟩ := task
      cases ht
      simp only [step, hj, hs] at h
      split at h <;> simp_all
    | _ => exact hr.elim

end AttachDetach
