import AttachDetach.Proofs.Retry

/-!
# The state lock

`triggerAttach`, and `triggerDetach` on its detach path, take the record's entry in
`stateLock` with `LoadOrStore` before their compare-and-update and release it when they
return; a pass that finds the entry taken requeues the record.  The promotion and the
finalizer-only path take no lock.  So at most one pass is ever inside an attach or detach
update of a record, and the lock is taken exactly when one is (`lock_held_by_one_pass`).

The invariant, `LockInv`, counts the passes that hold the lock, and says that a pass waiting
for the lock runs a trigger that takes it.  Only four events touch the passes or the lock: a
`Reconcile` adds a pass that holds nothing, `acquire` moves a waiting pass to the update and
takes the lock when it is free, and `commit` and `giveUp` end the update and release it.
-/

namespace AttachDetach

/-- Whether a pass in this phase holds the record's state lock. -/
def PassPhase.holdsLock : PassPhase → Bool
  | .updating t => t.takesLock
  | _ => false

/-- The passes that hold the lock are one when it is taken and none otherwise, and every pass
that waits for it runs a trigger that takes it. -/
structure LockInv (c : Cluster) : Prop where
  count : c.passes.countP (fun p => p.phase.holdsLock) = if c.stateLock then 1 else 0
  acquiring : ∀ p ∈ c.passes, ∀ t, p.phase = .acquiring t → t.takesLock = true

variable {K : Env} {c c' : Cluster}

private theorem countP_set_add {α : Type} (f : α → Bool) :
    ∀ (l : List α) (i : Nat) {x y : α}, l[i]? = some y →
      (l.set i x).countP f + (if f y then 1 else 0) = l.countP f + (if f x then 1 else 0)
  | [], _, _, _, h => by simp at h
  | a :: l, 0, x, y, h => by
    simp only [List.getElem?_cons_zero, Option.some.injEq] at h
    subst h
    simp only [List.set_cons_zero, List.countP_cons]
    omega
  | a :: l, i + 1, x, y, h => by
    have := countP_set_add f l i (x := x) (by simpa using h)
    simp only [List.set_cons_succ, List.countP_cons]
    omega

theorem LockInv.congr (hinv : LockInv c) (hp : c'.passes = c.passes)
    (hl : c'.stateLock = c.stateLock) : LockInv c' :=
  ⟨hp ▸ hl ▸ hinv.count, hp ▸ hinv.acquiring⟩

theorem LockInv.addPass (hinv : LockInv c) {p : Pass} (hp : p.phase.holdsLock = false)
    (ha : ∀ t, p.phase = .acquiring t → t.takesLock = true) : LockInv (c.addPass p) where
  count := by simpa [Cluster.addPass, hp] using hinv.count
  acquiring q hq := by
    rcases List.mem_append.1 hq with hq | hq
    · exact hinv.acquiring q hq
    · cases List.mem_singleton.1 hq
      exact ha

theorem LockInv.startPass (hinv : LockInv c) (azv : AzVolumeAttachment)
    (lookup : VolumeAttachmentLookup) : LockInv (c.startPass K azv lookup) := by
  unfold Cluster.startPass
  split
  · exact hinv
  · exact hinv.addPass rfl fun _ h => by cases h; rfl
  · exact hinv.addPass rfl fun _ h => by cases h
  · split
    · exact hinv.congr rfl rfl
    · exact hinv.addPass rfl fun _ h => by cases h; rfl
    · exact hinv.addPass rfl fun _ h => by cases h

/-- Setting pass `i`, which was in `old`, to a phase `new` that waits for nothing. -/
theorem LockInv.setPass (hinv : LockInv c) {i : Nat} {old : Pass} (hi : c.passes[i]? = some old)
    {new : Pass} (hnew : ∀ t, new.phase ≠ .acquiring t) (lock : Bool)
    (hcount : (if lock then 1 else 0) + (if old.phase.holdsLock then 1 else 0) =
      (if c.stateLock then 1 else 0) + (if new.phase.holdsLock then 1 else 0)) :
    LockInv { c.setPass i new with stateLock := lock } where
  count := by
    have hset := countP_set_add (fun p : Pass => p.phase.holdsLock) c.passes i (x := new) hi
    have := hinv.count
    simp only [Cluster.setPass] at hset ⊢
    omega
  acquiring q hq t ht := by
    rcases List.mem_or_eq_of_mem_set hq with hq | rfl
    · exact hinv.acquiring q hq t ht
    · exact absurd ht (hnew t)

theorem LockInv.finishPass (hinv : LockInv c) {i : Nat} {p : Pass} {t : Trigger}
    (hi : c.passes[i]? = some p) (ht : p.phase = .updating t) :
    LockInv (c.finishPass i p t) := by
  have hheld : t.takesLock = true → c.stateLock = true := by
    intro hlock
    have hpos : 0 < c.passes.countP (fun p => p.phase.holdsLock) :=
      List.countP_pos_iff.2 ⟨p, List.getElem?_mem hi, by simp [ht, PassPhase.holdsLock, hlock]⟩
    have := hinv.count
    split at this <;> simp_all
  unfold Cluster.finishPass
  split
  · rename_i hlock
    exact hinv.setPass hi (fun _ h => by cases h) false (by
      simp [ht, PassPhase.holdsLock, hlock, hheld hlock])
  · rename_i hlock
    exact (hinv.setPass hi (fun _ h => by cases h) c.stateLock (by
      simp [ht, PassPhase.holdsLock, hlock])).congr rfl rfl

theorem LockInv.write (hinv : LockInv c) (a : Stored) (w : AzVolumeAttachment) :
    LockInv (c.write a w) :=
  hinv.congr rfl rfl

theorem LockInv.spawn (hinv : LockInv c) (t : Trigger) (azv : AzVolumeAttachment) :
    LockInv (c.spawn t azv) := by
  cases t <;> exact hinv.congr rfl rfl

/-- **Every step keeps the lock invariant.** -/
theorem LockInv.after_step (hinv : LockInv c) {e : Event} (h : step K c e = some c') :
    LockInv c' := by
  cases e
  case reconcile version lookup =>
    simp only [AttachDetach.step] at h
    split at h
    · cases h
    · split at h <;> cases h
      · exact hinv.congr rfl rfl
      · have hdeq : LockInv { c with queue := c.queue - 1 } := hinv.congr rfl rfl
        exact hdeq.startPass _ _
  case acquire i =>
    simp only [AttachDetach.step] at h
    split at h
    · rename_i azv t hi
      have htake := hinv.acquiring _ (List.getElem?_mem hi) t rfl
      split at h <;> cases h
      · rename_i hlock
        exact (hinv.setPass hi (fun _ h => by cases h) c.stateLock (by
          simp [PassPhase.holdsLock])).congr rfl rfl
      · rename_i hlock
        exact (hinv.setPass hi (fun _ h => by cases h) true (by
          simp [PassPhase.holdsLock, htake, hlock])).congr rfl rfl
    · cases h
  case commit i =>
    simp only [AttachDetach.step] at h
    split at h
    · rename_i p azv t hi
      have hfin := hinv.finishPass hi rfl
      split at h
      · cases h; exact hfin.congr rfl rfl
      · split at h <;> cases h
        · exact hfin.congr rfl rfl
        · exact (hfin.write _ _).spawn _ _
    · cases h
  case giveUp i =>
    simp only [AttachDetach.step] at h
    split at h
    · cases h
      exact (hinv.finishPass ‹_› rfl).congr rfl rfl
    · cases h
  case edit =>
    obtain ⟨a, -, rfl⟩ := Option.map_eq_some'.1 h
    exact hinv.write _ _
  case recoverUpdate =>
    obtain ⟨a, -, rfl⟩ := Option.map_eq_some'.1 h
    exact hinv.write _ _
  all_goals
    simp only [AttachDetach.step] at h
    repeat' split at h
    all_goals first
      | (cases h; exact hinv.congr rfl rfl)
      | cases h

theorem Reachable.lockInv {c : Cluster} (hc : Reachable K c) : LockInv c := by
  induction hc with
  | init => exact ⟨rfl, fun _ h => by cases h⟩
  | step _ h ih => exact ih.after_step h

/-- **At most one `Reconcile` pass of a record is inside the update of `triggerAttach` or
`triggerDetach`, and the state lock is taken exactly when one is.** -/
theorem lock_held_by_one_pass {c : Cluster} (hc : Reachable K c) :
    c.passes.countP (fun p => p.phase.holdsLock) = if c.stateLock then 1 else 0 :=
  hc.lockInv.count

/-- The theorem once a pass has taken the lock to attach the record. -/
theorem lock_held_by_one_pass_while_attaching :
    ∃ c, Reachable default c ∧ c.stateLock = true ∧
      c.passes.countP (fun p => p.phase.holdsLock) = if c.stateLock then 1 else 0 := by
  obtain ⟨c, hrun, hlock⟩ : ∃ c, exec default Cluster.init
      [.create pendingRecord, .reconcile 0 .notFound, .acquire 0] = some c ∧
      c.stateLock = true := ⟨_, rfl, rfl⟩
  have hc := Reachable.init.of_exec hrun
  exact ⟨c, hc, hlock, lock_held_by_one_pass hc⟩

end AttachDetach
