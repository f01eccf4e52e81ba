import AttachDetach.Proofs.Recover

/-!
# Running the repair again

`initializeMeta` is idempotent: what it returns has the finalizer and the three labels, so a
second call takes the early return (`initializeMeta_idempotent`).  It appends the finalizer
only when it is missing, after the others, and writes no label but the node, volume and role
labels.

`Recover` run a second time over the same `VolumeAttachment`s and PVs, after a run that
completed, calls `Create` for no record: every name it reaches was secured by the first run,
so each `Get` finds its record and is followed by an `Update` with `initializeMeta` of it.  A
record the second run writes is therefore the one the first run left, with the labels
`initializeMeta` gives it, and that whatever calls fail in either run
(`recover_rerun_spec`).  The proof is an induction over what a run does to the API server
(`recoverLoop_server`): calls that write nothing, and `recoverRecord` for a name some listed
`VolumeAttachment` qualifies for.

The labels do change: the record `recoveredRecord` synthesizes has no role label, which the
second run's `initializeMeta` adds (`second_recover_writes_role_label`).
-/

namespace AttachDetach

/-! ## `initializeMeta` twice -/

/-- **`initializeMeta` is idempotent, appends the finalizer once and only when it is missing,
and writes no label but the node, volume and role labels.** -/
theorem initializeMeta_idempotent (K : Env) (azv : AzVolumeAttachment) :
    initializeMeta K (initializeMeta K azv) = initializeMeta K azv ∧
      ∃ labels, initializeMeta K azv =
        { azv with
          finalizers :=
            if K.azVolumeAttachmentFinalizer ∈ azv.finalizers then azv.finalizers
            else azv.finalizers ++ [K.azVolumeAttachmentFinalizer]
          labels } ∧
        ∀ key, key ≠ K.nodeNameLabel → key ≠ K.volumeNameLabel → key ≠ K.roleLabel →
          labels key = azv.labels key := by
  obtain ⟨finalizers, labels, h⟩ := initializeMeta_eq_with K azv
  refine ⟨initializeMeta_initializeMeta, labels, ?_, fun key hn hv hr => ?_⟩
  · rw [← initializeMeta_finalizers, h]
  · simpa [h] using @initializeMeta_labels_of_ne K azv key hn hv hr

/-! ## What a run does to the API server -/

variable {K : Env} {outcome : Nat → Outcome} {pvs : String → Option PersistentVolume}
  {vas : VolumeAttachmentList}

section ServerInduction

variable (P : ApiServer → Prop)
  (hrecord : ∀ s (c : ApiCall), c.isCreate = false → P s → P (s.record c))
  (hrecover : ∀ s s' name volumeName volumeHandle (va : VolumeAttachment) ok, va ∈ vas.items →
    recordName K pvs va = some name → P s →
    recoverRecord K outcome name volumeName volumeHandle va s = (ok, s') → P s')
include hrecord hrecover

theorem syncLoop_server :
    ∀ (l : List VolumeAttachment) (st : SyncState), (∀ va ∈ l, va ∈ vas.items) →
      P st.server → P (syncLoop K outcome pvs l st).2.server
  | [], _, _, hp => hp
  | va :: rest, st, hl, hp => by
    have hbody : P (syncVolumeAttachment K outcome pvs va st).2.server := by
      rcases syncVolumeAttachment_cases (Prod.mk.eta (p := syncVolumeAttachment K outcome pvs va st))
        with ⟨-, he | ⟨c, he, hc⟩, -⟩ | ⟨_, -, csi, ok, -, -, -, name, hname, hrr, -⟩
      · exact he ▸ hp
      · exact he ▸ hrecord _ c hc hp
      · exact hrecover _ _ _ _ _ va ok (hl va (List.mem_cons_self _ _)) hname
          (hrecord _ _ (by rfl) hp) hrr
    rcases hb : syncVolumeAttachment K outcome pvs va st with ⟨_ | _, st'⟩ <;> rw [hb] at hbody
    · simpa only [syncLoop, hb] using
        syncLoop_server rest st' (fun v hv => hl v (List.mem_cons_of_mem _ hv)) hbody
    · simpa only [syncLoop, hb] using hbody

/-- **Induction over a run of `Recover`**: a property of the API server that every call
writing nothing keeps, and every `recoverRecord` of a record a listed `VolumeAttachment`
qualifies for keeps, holds at the end of the run. -/
theorem recoverLoop_server :
    ∀ (n : Nat) (st : SyncState), P st.server →
      P (recoverLoop K outcome pvs vas n st).state.server
  | 0, _, hp => hp
  | n + 1, st, hp => by
    have hpass : P (syncAll K outcome pvs vas st).2.server := by
      unfold syncAll
      split <;> rename_i server hlist <;> cases ApiServer.listVolumeAttachments_eq hlist
      · exact hrecord _ _ rfl hp
      · exact syncLoop_server P hrecord hrecover vas.items _ (fun _ h => h) (hrecord _ _ rfl hp)
    rcases hs : syncAll K outcome pvs vas st with ⟨_ | _, st'⟩ <;> rw [hs] at hpass
    · simpa only [recoverLoop, hs] using hpass
    · simpa only [recoverLoop, hs] using recoverLoop_server n st' hpass

end ServerInduction

/-! ## The second run -/

section

variable (K)

/-- What a second run keeps, against the records `R` the first one left: it called no
`Create`, and each record is `R`'s, or `initializeMeta` of `R`'s, which has the finalizer. -/
structure RerunInv (R : String → Option AzVolumeAttachment) (s : ApiServer) : Prop where
  no_create : ∀ c ∈ s.log, c.isCreate = false
  records : ∀ name, s.records name = R name ∨
    ∃ r, R name = some r ∧ K.azVolumeAttachmentFinalizer ∈ r.finalizers ∧
      s.records name = some (initializeMeta K r)

end

variable {R : String → Option AzVolumeAttachment} {s s' : ApiServer} {name : String}

theorem RerunInv.init : RerunInv K R ⟨R, []⟩ :=
  ⟨fun _ h => absurd h (List.not_mem_nil _), fun _ => .inl rfl⟩

theorem RerunInv.record (hinv : RerunInv K R s) {c : ApiCall} (hc : c.isCreate = false) :
    RerunInv K R (s.record c) := by
  refine ⟨fun c' h => ?_, hinv.records⟩
  rcases List.mem_append.1 h with h | h
  · exact hinv.no_create c' h
  · exact List.mem_singleton.1 h ▸ hc

/-- An `Update` with `initializeMeta` of the record found, for a name the first run secured,
writes `initializeMeta` of the first run's record. -/
theorem RerunInv.update (hinv : RerunInv K R s) {r a : AzVolumeAttachment} (hr : R name = some r)
    (hf : K.azVolumeAttachmentFinalizer ∈ r.finalizers) (ha : s.records name = some a) {ok : Bool}
    (h : s.update outcome name (initializeMeta K a) = (ok, s')) : RerunInv K R s' := by
  have hw : initializeMeta K a = initializeMeta K r := by
    rcases hinv.records name with he | ⟨r', hr', -, he⟩
    · rw [ha, hr] at he; cases he; rfl
    · rw [hr] at hr'; cases hr'; rw [ha] at he; cases he; exact initializeMeta_initializeMeta
  simp only [ApiServer.update, ha, Option.isSome_some, if_true, Prod.mk.injEq] at h
  obtain ⟨-, rfl⟩ := h
  have hrec := hinv.record (c := .update name (initializeMeta K a) (s.nextOutcome outcome)) rfl
  split
  · refine ⟨hrec.no_create, fun n => ?_⟩
    by_cases hn : n = name
    · subst hn; exact .inr ⟨r, hr, hf, by simp [hw]⟩
    · simpa [Function.update_noteq hn] using hrec.records n
  · exact hrec

/-- `recoverRecord` of a name the first run secured keeps the invariant: its `Get` finds the
record, so it calls no `Create`. -/
theorem RerunInv.recoverRecord (hinv : RerunInv K R s)
    (hcov : ∃ r, R name = some r ∧ K.azVolumeAttachmentFinalizer ∈ r.finalizers)
    {volumeName volumeHandle : String} {va : VolumeAttachment} {ok : Bool}
    (h : recoverRecord K outcome name volumeName volumeHandle va s = (ok, s')) :
    RerunInv K R s' := by
  obtain ⟨r, hr, hf⟩ := hcov
  unfold AttachDetach.recoverRecord at h
  split at h <;> rename_i server hget <;>
    obtain ⟨rfl, hfound, hnf⟩ := ApiServer.getAzVolumeAttachment_eq hget
  · exact (hinv.record (by rfl)).update hr hf (hfound _ rfl) h
  · rcases hinv.records name with he | ⟨_, _, _, he⟩ <;> simp [hnf rfl, hr] at he
  · cases h; exact hinv.record (by rfl)

/-- **`Recover` run again after a run that completed, over the same `VolumeAttachment`s and
PVs, whatever calls fail in either run: the second run calls `Create` for no record, and each
record it leaves is the one the first run left, or that record with the labels
`initializeMeta` gives it; its finalizers, spec and status are the first run's.** -/
theorem recover_rerun_spec (K : Env) (outcome outcome' : Nat → Outcome)
    (pvs : String → Option PersistentVolume) (vas : VolumeAttachmentList)
    (records : String → Option AzVolumeAttachment)
    (hdone : (recover K outcome pvs vas records).failedPasses < K.maxRetry) :
    let first := (recover K outcome pvs vas records).state.server.records
    let second := (recover K outcome' pvs vas first).state.server
    (∀ c ∈ second.log, c.isCreate = false) ∧
      ∀ name, second.records name = first name ∨
        ∃ r, first name = some r ∧
          second.records name = some { r with labels := (initializeMeta K r).labels } := by
  intro first second
  have hcov : ∀ va ∈ vas.items, ∀ name, recordName K pvs va = some name →
      ∃ r, first name = some r ∧ K.azVolumeAttachmentFinalizer ∈ r.finalizers :=
    (recoverLoop_spec outcome K.maxRetry _
      ⟨ServerInv.init records, fun _ _ h => by simp at h⟩).2 hdone
  have hinv : RerunInv K first second :=
    recoverLoop_server (RerunInv K first) (fun _ _ hc hs => RerunInv.record hs hc)
      (fun _ _ _ _ _ va _ hva hname hs hrr => RerunInv.recoverRecord hs (hcov va hva _ hname) hrr)
      K.maxRetry _ RerunInv.init
  refine ⟨hinv.no_create, fun name => ?_⟩
  rcases hinv.records name with he | ⟨r, hr, hf, he⟩
  · exact .inl he
  · exact .inr ⟨r, hr, by rw [he, ← initializeMeta_of_finalizer_mem hf]⟩

/-- No call fails. -/
def noFailures (_ : Nat) : Outcome := .ok

/-- The theorem for two runs over the attached `VolumeAttachment`, from no record. -/
theorem recover_rerun_spec_attached :
    (recover default noFailures csiPersistentVolumes attachedVolumeAttachments
        fun _ => none).failedPasses < (default : Env).maxRetry ∧
      let first := (recover default noFailures csiPersistentVolumes attachedVolumeAttachments
        fun _ => none).state.server.records
      let second := (recover default noFailures csiPersistentVolumes attachedVolumeAttachments
        first).state.server
      (∀ c ∈ second.log, c.isCreate = false) ∧
        ∀ name, second.records name = first name ∨
          ∃ r, first name = some r ∧
            second.records name = some { r with labels := (initializeMeta default r).labels } :=
  ⟨by decide, recover_rerun_spec default noFailures noFailures csiPersistentVolumes
    attachedVolumeAttachments _ (by decide)⟩

/-! ## The labels change -/

/-- **Two runs with no failure over an attached `VolumeAttachment`, from no record: the first
creates `disk-node` with no role label, the second writes it back with the role label
`Primary`.** -/
theorem second_recover_writes_role_label :
    ∃ first second,
      recover default noFailures csiPersistentVolumes attachedVolumeAttachments
          (fun _ => none) = first ∧
      recover default noFailures csiPersistentVolumes attachedVolumeAttachments
          first.state.server.records = second ∧
      first.failedPasses = 0 ∧ second.failedPasses = 0 ∧
      (first.state.server.records "disk-node").map (·.labels (default : Env).roleLabel) =
        some none ∧
      (second.state.server.records "disk-node").map (·.labels (default : Env).roleLabel) =
        some (some "Primary") :=
  ⟨_, _, rfl, rfl, rfl, rfl, rfl, rfl⟩

end AttachDetach
