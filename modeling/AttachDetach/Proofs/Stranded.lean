import AttachDetach.Proofs.Calls

/-!
# A record stranded in `Attaching` or `Detaching`

A record leaves `Attaching` or `Detaching` only through the write of the goroutine that the
trigger started with the provisioner call: `allowedTargetAttachmentStates` leads from these
two states only to the states the completion closures write.  `Reconcile` skips a record in
either state (`isOperationInProcess`), and a trigger whose pass read an older version fails in
`updateState` on the stored one.  The goroutine's `UpdateCRIWithRetry` may end without a
write, when it runs out of retries or when the closure returns an error, and nothing starts it
again.  From then on the record keeps its state for as long as it exists, and no provisioner
call is issued for it (`stranded_record_keeps_state`): whatever the clients, the resyncs,
`Recover` and the controller do, only a deletion that releases the record ends it.

Statements about one record along a run follow one incarnation, named by its UID.  The API
server hands out UIDs from its clock, which no step turns back (`step_clock`), so an
incarnation that is gone never returns (`exec_incarnation`).
-/

namespace AttachDetach

open AzVolumeAttachmentAttachmentState

/-! ## The clock and the UID of an incarnation -/

namespace Cluster

variable (c : Cluster)

/-- No goroutine of the controller is running: every one has returned and finished its
status write, or given it up. -/
def Idle : Prop := ∀ task ∈ c.tasks, task.phase = .done

end Cluster

variable {K : Env} {c c' : Cluster}

/-- A step advances the clock by one, or keeps it and keeps or removes the stored
incarnation. -/
theorem step_clock {e : Event} (h : step K c e = some c') :
    c'.clock = c.clock + 1 ∨ c'.clock = c.clock ∧ (c'.store = c.store ∨ c'.store = none) := by
  cases e
  case edit | recoverUpdate =>
    obtain ⟨a, -, rfl⟩ := Option.map_eq_some'.1 h
    exact .inl rfl
  all_goals
    simp only [step] at h
    repeat' split at h
    all_goals first
      | (cases h; simp)
      | cases h

theorem step_clock_le {e : Event} (h : step K c e = some c') : c.clock ≤ c'.clock := by
  rcases step_clock h with h | ⟨h, -⟩ <;> omega

/-- A stored incarnation after a store step is the one before, or a new one whose UID is the
clock. -/
theorem StoreStep.uid {clock : Nat} {h h' : List AzVolumeAttachment} {s s' : Option Stored}
    (hs : StoreStep K clock h s s' h') {b : Stored} (hb : s' = some b) :
    (∃ a, s = some a ∧ b.uid = a.uid) ∨ b.uid = clock := by
  cases hs with
  | keep => exact .inl ⟨b, hb, rfl⟩
  | write a _ => exact .inl ⟨a, rfl, (Stored.next_eq_some hb).2.1⟩
  | remove => cases hb
  | insertUpstream => cases hb; exact .inr rfl
  | insertRecovered => cases hb; exact .inr rfl

/-- The UID of the stored incarnation is below the clock, so every incarnation created later
has another one. -/
theorem Reachable.uid_lt_clock (hc : Reachable K c) {a : Stored} (ha : c.store = some a) :
    a.uid < c.clock := by
  induction hc generalizing a with
  | init => cases ha
  | step _ h ih =>
    rcases step_clock h with hc' | ⟨hc', hs | hs⟩
    · rcases (step_store h).uid ha with ⟨a', ha', hu⟩ | hu
      · have := ih ha'; omega
      · omega
    · have := ih (hs ▸ ha); omega
    · simp [hs] at ha

section Incarnation

variable {Q : Stored → Cluster → Prop}
  (hQ : ∀ {c c' : Cluster} {e : Event} {a b : Stored}, c.store = some a → Q a c →
    step K c e = some c' → c'.store = some b → Q b c')
include hQ

/-- **Induction along a run, for one incarnation**: a property of the incarnation `u` and of
the system that every step keeps while the incarnation stays stored holds after the run,
whenever the incarnation is still stored. -/
theorem exec_incarnation {u : Nat} :
    ∀ {c c' : Cluster} {es : List Event}, u < c.clock →
      (∀ a, c.store = some a → a.uid = u → Q a c) → exec K c es = some c' →
      ∀ b, c'.store = some b → b.uid = u → Q b c'
  | c, c', [], _, hq, h => by cases h; exact hq
  | c, c', e :: es, hu, hq, h => by
    simp only [exec, Option.bind_eq_some] at h
    obtain ⟨c₁, h₁, h₂⟩ := h
    refine exec_incarnation (Nat.lt_of_lt_of_le hu (step_clock_le h₁)) (fun b hb hbu => ?_) h₂
    rcases (step_store h₁).uid hb with ⟨a, ha, hab⟩ | hbc
    · exact hQ ha (hq a ha (hab ▸ hbu)) h₁ hb
    · omega

end Incarnation

/-! ## No way out of `Attaching` and `Detaching` but the goroutine's write -/

/-- One step from a state with no goroutine running and the record in `Attaching` or
`Detaching` starts no goroutine and keeps the record's state. -/
theorem stranded_step {e : Event} {a : Stored} (hidle : c.Idle) (ha : c.store = some a)
    (hop : isOperationInProcess a.obj = true) (h : step K c e = some c') :
    c'.Idle ∧ ∀ b, c'.store = some b → b.obj.status.state = a.obj.status.state := by
  have hout : ∀ t, t = attaching ∨ t = detaching →
      t ∉ allowedTargetAttachmentStates a.obj.status.state := by
    simp only [isOperationInProcess, Bool.or_eq_true, beq_iff_eq] at hop
    rcases hop with hs | hs <;> rintro t (rfl | rfl) <;> simp [hs, allowedTargetAttachmentStates]
  have hbusy : ∀ {j : Nat} {call : Call} {phase : TaskPhase}, c.tasks[j]? = some ⟨call, phase⟩ →
      phase = .done :=
    fun hj => hidle _ (List.getElem?_mem hj)
  cases e
  case commit i =>
    obtain ⟨p, t, -, -, ⟨-, rfl⟩ | ⟨a', w, ha', hw, rfl⟩⟩ := step_commit h
    · exact ⟨fun task ht => hidle task (by simpa using ht), fun b hb => by simp_all⟩
    cases ha.symm.trans ha'
    have hstate : w.status.state = a.obj.status.state :=
      (Trigger.updateFunc_spec hw).1.resolve_right fun ⟨hm, ht⟩ => hout _ ht hm
    refine ⟨?_, fun b hb => ?_⟩
    · cases t with
      | attach =>
        obtain ⟨hm, -⟩ := updateState_eq_ok_iff.1 hw
        exact absurd (by simpa using hm) (hout _ (.inl rfl))
      | detach =>
        obtain ⟨hm, -⟩ := updateState_eq_ok_iff.1 hw
        exact absurd hm (hout _ (.inr rfl))
      | deleteFinalizer | promote => exact fun task ht => hidle task (by simpa using ht)
    · simp only [Cluster.spawn_store, Cluster.write_store] at hb
      rw [(Stored.next_eq_some hb).1, hstate]
  case delete =>
    simp only [step, ha] at h
    split at h
    · cases h; exact ⟨hidle, fun b hb => by cases hb⟩
    · split at h
      · cases h
      · cases h
        exact ⟨hidle, fun b hb => by simp [(Stored.next_eq_some hb).1]⟩
  case edit | recoverUpdate =>
    obtain ⟨a', ha', rfl⟩ := Option.map_eq_some'.1 h
    cases ha.symm.trans ha'
    exact ⟨hidle, fun b hb => by simp [(Stored.next_eq_some hb).1]⟩
  case create | recoverCreate => simp [step, ha] at h
  all_goals
    simp only [step] at h
    repeat' split at h
    all_goals first
      | (cases h; exact ⟨fun task ht => hidle task (by simpa using ht), fun b hb => by simp_all⟩)
      | cases hbusy ‹_›
      | cases h

/-- **A record left in `Attaching` or `Detaching` with no goroutine running keeps that state
for as long as it exists, and no provisioner call is issued while it does**, whatever runs
from there: client writes and deletes, resyncs, `Recover`, and every `Reconcile` pass, stale
reads included. -/
theorem stranded_record_keeps_state {c : Cluster} (hc : Reachable K c) {a : Stored}
    (ha : c.store = some a) (hop : isOperationInProcess a.obj = true) (hidle : c.Idle)
    {es : List Event} {c' : Cluster} (hrun : exec K c es = some c') {b : Stored}
    (hb : c'.store = some b) (huid : b.uid = a.uid) :
    b.obj.status.state = a.obj.status.state ∧ c'.Idle := by
  refine exec_incarnation (Q := fun b c => isOperationInProcess b.obj = true ∧
      b.obj.status.state = a.obj.status.state ∧ c.Idle)
    (fun hs ⟨hop, hst, hidle⟩ h hb => ?_) (hc.uid_lt_clock ha)
    (fun a' ha' _ => by cases ha.symm.trans ha'; exact ⟨hop, rfl, hidle⟩) hrun b hb huid |>.2
  obtain ⟨hidle', hkeep⟩ := stranded_step hidle hs hop h
  exact ⟨by rwa [isOperationInProcess, hkeep _ hb], (hkeep _ hb).trans hst, hidle'⟩

/-- A run that strands a record in `Attaching`: the attach goroutine's status write meets a
conflict with a client's edit and gives up. -/
def strandingRun : List Event :=
  [.create pendingRecord, .reconcile 0 .notFound, .acquire 0, .commit 0,
    .publishReturns 0 (.ok fun _ => none), .attempt 0,
    .edit pendingRecord.spec pendingRecord.annotations, .abandon 0]

/-- The theorem for the record the stranding run leaves in `Attaching`. -/
theorem stranded_record_keeps_state_after_abandon :
    ∃ c a, Reachable default c ∧ c.store = some a ∧ isOperationInProcess a.obj = true ∧
      c.Idle ∧ ∀ (es : List Event) (c' : Cluster) (b : Stored), exec default c es = some c' →
        c'.store = some b → b.uid = a.uid → b.obj.status.state = a.obj.status.state ∧ c'.Idle := by
  obtain ⟨c, a, hrun, ha, hop, htasks⟩ : ∃ c a, exec default Cluster.init strandingRun = some c ∧
      c.store = some a ∧ isOperationInProcess a.obj = true ∧
      c.tasks = [⟨.publishVolume "disk" "node" fun _ => none, .done⟩] :=
    ⟨_, _, rfl, rfl, rfl, rfl⟩
  have hc := Reachable.init.of_exec hrun
  have hidle : c.Idle := by simp [Cluster.Idle, htasks]
  exact ⟨c, a, hc, ha, hop, hidle, fun es c' b h hb hu =>
    stranded_record_keeps_state hc ha hop hidle h hb hu⟩

end AttachDetach
