import AttachDetach.Proofs.Retry

/-!
# The write before the call

`triggerAttach` starts the goroutine that calls `PublishVolume` only once its
compare-and-update has written `Attaching`, and `triggerDetach` starts the one that calls
`UnpublishVolume` only once it has written `Detaching`; no other code starts a goroutine.  So
every provisioner call is issued by a step that leaves the record stored in the matching
state (`call_issued_with_intent_write`), and a controller that restarts finds the call it may
have left running recorded in the store.

The write cannot be the one that releases the record: the attach write carries the finalizer,
which `initializeMeta` adds, and the detach write keeps the finalizers of the version it
overwrites, which a stored version whose deletion was requested always has
(`Reachable.finalizers_ne_nil_of_deleting`).
-/

namespace AttachDetach

open AzVolumeAttachmentAttachmentState

variable {K : Env} {c c' : Cluster}

/-- A stored version whose deletion was requested still has a finalizer: the API server
removes the object as soon as none is left. -/
theorem Reachable.finalizers_ne_nil_of_deleting (hc : Reachable K c) {a : Stored}
    (ha : c.store = some a) (hdel : a.obj.deletionTimestamp.isSome) : a.obj.finalizers ≠ [] := by
  have key : ∀ a, c.store = some a → a.obj.deletionTimestamp.isSome →
      a.obj.finalizers ≠ [] := by
    refine hc.store_induction (P := fun s _ => ∀ a, s = some a →
        a.obj.deletionTimestamp.isSome → a.obj.finalizers ≠ [])
      (fun _ h => by cases h) fun clock h h' s s' hstep ih => ?_
    intro b hb hdel hnil
    cases hstep with
    | keep => exact ih b hb hdel hnil
    | write a hw =>
      obtain ⟨rfl, -⟩ := Stored.next_eq_some hb
      simp [Stored.next_eq_none.2 ⟨hdel, hnil⟩] at hb
    | remove => cases hb
    | insertUpstream => cases hb; simp [upstreamRecord] at hdel
    | insertRecovered => cases hb; simp [recoveredRecord] at hdel
  exact key a ha hdel

@[simp] theorem Cluster.startPass_tasks (azv : AzVolumeAttachment)
    (lookup : VolumeAttachmentLookup) : (c.startPass K azv lookup).tasks = c.tasks := by
  unfold Cluster.startPass; split <;> try rfl
  split <;> rfl

/-- Only a trigger's `commit` starts a goroutine; every other step keeps the number of them. -/
theorem step_tasks_length {e : Event} (h : step K c e = some c') :
    c'.tasks.length = c.tasks.length ∨ ∃ i, e = .commit i := by
  cases e
  case commit i => exact .inr ⟨i, rfl⟩
  case edit =>
    obtain ⟨a, -, rfl⟩ := Option.map_eq_some'.1 h
    exact .inl rfl
  case recoverUpdate =>
    obtain ⟨a, -, rfl⟩ := Option.map_eq_some'.1 h
    exact .inl rfl
  all_goals
    left
    simp only [step] at h
    repeat' split at h
    all_goals first
      | (cases h; first | rfl | simp [Cluster.setTask])
      | cases h

/-- The write of a successful trigger update, when it is not the one that releases the record:
it stays stored, with the state the update function gave it. -/
theorem next_of_finalizers (a : Stored) (w : AzVolumeAttachment) (clock : Nat)
    (h : w.deletionTimestamp.isSome → w.finalizers ≠ []) :
    ∃ b, a.next w clock = some b ∧ b.obj = w := by
  cases hb : a.next w clock with
  | none => exact absurd (Stored.next_eq_none.1 hb).2 (h (Stored.next_eq_none.1 hb).1)
  | some b => exact ⟨b, rfl, (Stored.next_eq_some hb).1⟩

/-- **Every provisioner call is issued by a step that leaves the record stored, in
`Attaching` for a `PublishVolume` and in `Detaching` for an `UnpublishVolume`.** -/
theorem call_issued_with_intent_write (hc : Reachable K c) {e : Event}
    (h : step K c e = some c') (hnew : c'.tasks.length ≠ c.tasks.length) :
    ∃ call b, c'.tasks = c.tasks ++ [⟨call, .calling⟩] ∧ c'.store = some b ∧
      (call.isPublish = true ∧ b.obj.status.state = attaching ∨
        call.isPublish = false ∧ b.obj.status.state = detaching) := by
  obtain hlen | ⟨i, rfl⟩ := step_tasks_length h
  · exact absurd hlen hnew
  obtain ⟨p, t, -, -, ⟨-, rfl⟩ | ⟨a, w, ha, hw, rfl⟩⟩ := step_commit h
  · simp at hnew
  cases t with
  | attach =>
    obtain ⟨-, rfl⟩ := updateState_eq_ok_iff.1 hw
    obtain ⟨b, hb, hbw⟩ := next_of_finalizers a ((initializeMeta K a.obj).setState attaching)
      c.clock fun _ => List.ne_nil_of_mem (show K.azVolumeAttachmentFinalizer ∈ _ by
        simp [finalizer_mem_initializeMeta])
    exact ⟨_, b, rfl, by simp [hb], .inl ⟨rfl, by simp [hbw]⟩⟩
  | detach =>
    obtain ⟨-, rfl⟩ := updateState_eq_ok_iff.1 hw
    obtain ⟨b, hb, hbw⟩ := next_of_finalizers a (a.obj.setState detaching) c.clock
      fun hdel => by simpa using hc.finalizers_ne_nil_of_deleting ha (by simpa using hdel)
    exact ⟨_, b, rfl, by simp [hb], .inr ⟨rfl, by simp [hbw]⟩⟩
  | deleteFinalizer => simp [Cluster.spawn] at hnew
  | promote => simp [Cluster.spawn] at hnew

/-- The theorem at the first attach write of a record. -/
theorem call_issued_with_intent_write_on_attach :
    ∃ c c', Reachable default c ∧ step default c (.commit 0) = some c' ∧
      c'.tasks.length ≠ c.tasks.length ∧
      ∃ call b, c'.tasks = c.tasks ++ [⟨call, .calling⟩] ∧ c'.store = some b ∧
        (call.isPublish = true ∧ b.obj.status.state = attaching ∨
          call.isPublish = false ∧ b.obj.status.state = detaching) := by
  obtain ⟨c, c', hrun, hstep, hlen⟩ : ∃ c c', exec default Cluster.init
      [.create pendingRecord, .reconcile 0 .notFound, .acquire 0] = some c ∧
      step default c (.commit 0) = some c' ∧ c'.tasks.length ≠ c.tasks.length :=
    ⟨_, _, rfl, rfl, by decide⟩
  have hc := Reachable.init.of_exec hrun
  exact ⟨c, c', hc, hstep, hlen, call_issued_with_intent_write hc hstep hlen⟩

end AttachDetach
