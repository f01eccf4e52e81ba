import AttachDetach.Proofs.Rerun
import AttachDetach.Proofs.Progress
import Mathlib.Logic.Relation

/-!
# `Recover` as a run of the controller model

The controller model of `System.lean` takes `Recover` to act on a record in two steps:
`recoverUpdate` writes `initializeMeta` of the stored record, and `recoverCreate` creates the
record `syncAll` synthesizes where none is stored.  The model of `Recover.lean` follows the
code instead: list, `Get`, `Update` or `Create`, with any call failing, over up to `maxRetry`
passes.  This file connects the two.  Seen on one record name, every call of a run changes
the record by one `RecoverWrite` or not at all (`recoverRecord_records`), so what the run
leaves is reached from what it found by a chain of them (`recover_records_chain`), and every
chain is a run of `recoverUpdate` and `recoverCreate` events of the controller model
(`RecoverWrite.step`).  So each statement proved of the controller model over every run
covers what `Recover` does at start-up (`recover_runs_as_events`).
-/

namespace AttachDetach

/-- What one write of `Recover` does to the record of one name: `initializeMeta` of the
record found, or the creation of the record `syncAll` synthesizes where there is none. -/
inductive RecoverWrite (K : Env) : Option AzVolumeAttachment → Option AzVolumeAttachment → Prop
  | update (azv : AzVolumeAttachment) : RecoverWrite K (some azv) (some (initializeMeta K azv))
  | create (volumeName volumeHandle nodeName : String) (status : VolumeAttachmentStatus) :
      RecoverWrite K none (some (recoveredRecord K volumeName volumeHandle nodeName status))

variable {K : Env} {outcome : Nat → Outcome} {s s' : ApiServer}

/-- `Update` of `name` with `initializeMeta` of its record changes that record by one write,
and no other. -/
theorem ApiServer.update_records {name : String} {azv : AzVolumeAttachment}
    (hs : s.records name = some azv) {ok : Bool}
    (h : s.update outcome name (initializeMeta K azv) = (ok, s')) (n : String) :
    s'.records n = s.records n ∨ RecoverWrite K (s.records n) (s'.records n) := by
  simp only [ApiServer.update, hs, Option.isSome_some, if_true, Prod.mk.injEq] at h
  obtain ⟨-, rfl⟩ := h
  split
  · by_cases hn : n = name
    · subst hn; exact .inr (by simpa [hs] using @RecoverWrite.update K azv)
    · exact .inl (by simp [Function.update_noteq hn])
  · exact .inl rfl

/-- `Create` of `name` changes that record by one write when it takes effect, and no other. -/
theorem ApiServer.create_records {name volumeName volumeHandle nodeName : String}
    {status : VolumeAttachmentStatus} {ok : Bool}
    (h : s.create outcome name (recoveredRecord K volumeName volumeHandle nodeName status) =
      (ok, s')) (n : String) :
    s'.records n = s.records n ∨ RecoverWrite K (s.records n) (s'.records n) := by
  simp only [ApiServer.create, Prod.mk.injEq] at h
  obtain ⟨-, rfl⟩ := h
  cases hr : s.records name with
  | some _ => exact .inl (by simp [hr, Outcome.applied])
  | none =>
    simp only [hr, Option.isSome_none, Bool.false_eq_true, if_false]
    split
    · by_cases hn : n = name
      · subst hn
        exact .inr (by simpa [hr] using
          @RecoverWrite.create K volumeName volumeHandle nodeName status)
      · exact .inl (by simp [Function.update_noteq hn])
    · exact .inl rfl

/-- **What `recoverRecord` does to each record**: nothing, or one `RecoverWrite`. -/
theorem recoverRecord_records {name volumeName volumeHandle : String} {va : VolumeAttachment}
    {ok : Bool} (h : recoverRecord K outcome name volumeName volumeHandle va s = (ok, s'))
    (n : String) : s'.records n = s.records n ∨ RecoverWrite K (s.records n) (s'.records n) := by
  unfold recoverRecord at h
  split at h <;> rename_i server hget <;>
    obtain ⟨rfl, hfound, -⟩ := ApiServer.getAzVolumeAttachment_eq hget
  · exact ApiServer.update_records (s := s.record _) (hfound _ rfl) h n
  · exact ApiServer.create_records h n
  · cases h; exact .inl rfl

/-- **What a run of `Recover` leaves under each name is reached from what it found by a chain
of `RecoverWrite`s**, whatever calls fail. -/
theorem recover_records_chain (K : Env) (outcome : Nat → Outcome)
    (pvs : String → Option PersistentVolume) (vas : VolumeAttachmentList)
    (records : String → Option AzVolumeAttachment) (name : String) :
    Relation.ReflTransGen (RecoverWrite K) (records name)
      ((recover K outcome pvs vas records).state.server.records name) :=
  recoverLoop_server
    (fun s => Relation.ReflTransGen (RecoverWrite K) (records name) (s.records name))
    (fun _ _ _ hs => hs)
    (fun _ _ _ _ _ _ _ _ _ hs hrr => by
      rcases recoverRecord_records hrr name with he | hw
      · rwa [he]
      · exact hs.tail hw)
    K.maxRetry _ Relation.ReflTransGen.refl

/-- A chain of writes from a record ends at the record or at `initializeMeta` of it:
`Create` never applies to a name that has a record, and `initializeMeta` is idempotent. -/
theorem RecoverWrite.chain_of_some {r : AzVolumeAttachment} {r' : Option AzVolumeAttachment}
    (h : Relation.ReflTransGen (RecoverWrite K) (some r) r') :
    r' = some r ∨ r' = some (initializeMeta K r) := by
  induction h with
  | refl => exact .inl rfl
  | tail _ hw ih =>
    rcases ih with rfl | rfl <;> cases hw
    · exact .inr rfl
    · exact .inr (by rw [initializeMeta_initializeMeta])

/-- **`Recover` keeps every record it finds, whatever calls fail: it leaves it as it was or as
`initializeMeta` makes it**, with the same status, spec, annotations and deletion timestamp,
and its finalizers those found or with the controller's appended. -/
theorem recover_keeps_found_record (K : Env) (outcome : Nat → Outcome)
    (pvs : String → Option PersistentVolume) (vas : VolumeAttachmentList)
    (records : String → Option AzVolumeAttachment) {name : String} {r : AzVolumeAttachment}
    (hr : records name = some r) :
    ∃ r', (recover K outcome pvs vas records).state.server.records name = some r' ∧
      (r' = r ∨ r' = initializeMeta K r) ∧ r'.status = r.status ∧ r'.spec = r.spec ∧
      r'.annotations = r.annotations ∧ r'.deletionTimestamp = r.deletionTimestamp ∧
      (r'.finalizers = r.finalizers ∨
        r'.finalizers = r.finalizers ++ [K.azVolumeAttachmentFinalizer]) := by
  have hchain := recover_records_chain K outcome pvs vas records name
  rw [hr] at hchain
  rcases RecoverWrite.chain_of_some hchain with h | h <;> refine ⟨_, h, ?_⟩
  · exact ⟨.inl rfl, rfl, rfl, rfl, rfl, .inl rfl⟩
  · refine ⟨.inr rfl, by simp, by simp, by simp, by simp, ?_⟩
    rw [initializeMeta_finalizers]
    split
    · exact .inl rfl
    · exact .inr rfl

/-- The theorem for a store that holds one record under every name. -/
theorem recover_keeps_found_record_pending :
    (fun _ => some pendingRecord : String → Option AzVolumeAttachment) "disk-node" =
        some pendingRecord ∧
      ∃ r', (recover default noFailures csiPersistentVolumes attachedVolumeAttachments
          fun _ => some pendingRecord).state.server.records "disk-node" = some r' ∧
        (r' = pendingRecord ∨ r' = initializeMeta default pendingRecord) ∧
        r'.status = pendingRecord.status ∧ r'.spec = pendingRecord.spec ∧
        r'.annotations = pendingRecord.annotations ∧
        r'.deletionTimestamp = pendingRecord.deletionTimestamp ∧
        (r'.finalizers = pendingRecord.finalizers ∨ r'.finalizers =
          pendingRecord.finalizers ++ [(default : Env).azVolumeAttachmentFinalizer]) :=
  ⟨rfl, recover_keeps_found_record default noFailures csiPersistentVolumes
    attachedVolumeAttachments _ rfl⟩

/-- Whether an event is one of `Recover`'s two writes. -/
def Event.IsRecover (e : Event) : Prop :=
  e = .recoverUpdate ∨
    ∃ volumeName volumeHandle nodeName status,
      e = .recoverCreate volumeName volumeHandle nodeName status

/-- A `RecoverWrite` on the stored record is a step of the controller model. -/
theorem RecoverWrite.step {r r' : Option AzVolumeAttachment} (hw : RecoverWrite K r r')
    {c : Cluster} (hc : c.store.map Stored.obj = r) :
    ∃ e c', e.IsRecover ∧ step K c e = some c' ∧ c'.store.map Stored.obj = r' := by
  cases hw with
  | update azv =>
    obtain ⟨a, ha, rfl⟩ := Option.map_eq_some'.1 hc
    obtain ⟨b, hb, hbw⟩ := next_of_finalizers a (initializeMeta K a.obj) c.clock
      fun _ => List.ne_nil_of_mem finalizer_mem_initializeMeta
    exact ⟨.recoverUpdate, c.write a (initializeMeta K a.obj), .inl rfl,
      by simp [AttachDetach.step, ha], by simp [hb, hbw]⟩
  | create volumeName volumeHandle nodeName status =>
    have ha : c.store = none := Option.map_eq_none'.1 hc
    let azv := recoveredRecord K volumeName volumeHandle nodeName status
    exact ⟨.recoverCreate volumeName volumeHandle nodeName status,
      c.insert azv (azv.status.state == .attached), .inr ⟨_, _, _, _, rfl⟩,
      by simp [AttachDetach.step, ha, azv], rfl⟩

/-- A chain of `RecoverWrite`s from the stored record is a run of `Recover`'s events. -/
theorem RecoverWrite.exec {r r' : Option AzVolumeAttachment}
    (hw : Relation.ReflTransGen (RecoverWrite K) r r') :
    ∀ {c : Cluster}, c.store.map Stored.obj = r →
      ∃ es c', (∀ e ∈ es, e.IsRecover) ∧ exec K c es = some c' ∧
        c'.store.map Stored.obj = r' := by
  induction hw with
  | refl => exact fun hc => ⟨[], _, by simp, rfl, hc⟩
  | tail _ hlast ih =>
    intro c hc
    obtain ⟨es, c₁, hes, hrun, hc₁⟩ := ih hc
    obtain ⟨e, c', he, hstep, hc'⟩ := hlast.step hc₁
    refine ⟨es ++ [e], c', fun e' he' => ?_, ?_, hc'⟩
    · rcases List.mem_append.1 he' with he' | he'
      · exact hes e' he'
      · exact List.mem_singleton.1 he' ▸ he
    · rw [exec_append, hrun, Option.some_bind, AttachDetach.exec, hstep]; rfl

end AttachDetach
