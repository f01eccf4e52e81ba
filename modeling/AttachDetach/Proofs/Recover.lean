import AttachDetach.Recover
import Mathlib.Data.List.Nodup

/-!
# What `Recover` leaves behind

Two invariants carry the proof.  `ServerInv` is about the API server alone: each name was
created at most once, and only when it was free; every `Create` call comes right after a
`Get` of its name that said NotFound; and every record created is the one `syncAll`
synthesizes for a listed `VolumeAttachment` of this driver.  `RecoverInv` adds the loop
invariant of `Recover`: a `VolumeAttachment` in `syncedVolumeAttachments` has its record,
with the finalizer.  Both hold of every prefix of every run, whatever the failures: one
lemma per API call (`ServerInv.record`, `create_spec`, `update_spec`), one for the loop
body (`syncVolumeAttachment_spec`, from what the body does, `syncVolumeAttachment_cases`),
and inductions over the loop of a pass (`syncLoop_spec`) and over the passes
(`recoverLoop_spec`).

No record disappears and none loses the finalizer (`Grows`), so what one pass secured the
next ones keep; and a pass that returns without asking for a retry has secured every
`VolumeAttachment` it did not skip as finished before.  When fewer than `maxRetry` passes
fail, the last pass is such a pass (`recover_spec`).
-/

namespace AttachDetach

open AzVolumeAttachmentAttachmentState

/-- The record a `VolumeAttachment` qualifies for: it is of this driver, and its source PV is
a CSI volume of this driver whose handle names a disk. -/
def recordName (K : Env) (pvs : String → Option PersistentVolume) (va : VolumeAttachment) :
    Option String :=
  if va.attacher = K.driverName then
    va.persistentVolumeName.bind fun volumeName =>
      (pvs volumeName).bind fun pv =>
        pv.csi.bind fun csi =>
          if csi.driver = K.driverName then
            (K.getDiskNameFromAzureManagedDiskURI csi.volumeHandle).map fun diskName =>
              K.getAzVolumeAttachmentName diskName va.nodeName
          else none
  else none

/-! ## The API server -/

namespace ApiCall

/-- Whether a call is a `Create`. -/
def isCreate : ApiCall → Bool
  | .create .. => true
  | _ => false

/-- Whether a call created the record `name`. -/
def creates (name : String) : ApiCall → Bool
  | .create n _ o => n == name && o.applied
  | _ => false

theorem creates_eq_false {c : ApiCall} (h : c.isCreate = false) (name : String) :
    c.creates name = false := by
  cases c <;> simp_all [isCreate, creates]

end ApiCall

namespace ApiServer

variable {outcome : Nat → Outcome} {s s' : ApiServer} {name : String}

@[simp] theorem record_records (c : ApiCall) : (s.record c).records = s.records := rfl

@[simp] theorem record_log (c : ApiCall) : (s.record c).log = s.log ++ [c] := rfl

theorem listVolumeAttachments_eq {ok : Bool} (h : s.listVolumeAttachments outcome = (ok, s')) :
    s' = s.record (.listVolumeAttachments ok) := by
  simp only [listVolumeAttachments, Prod.mk.injEq] at h
  rw [← h.2, h.1]

theorem getPersistentVolume_eq {pvs : String → Option PersistentVolume}
    {pv : Option PersistentVolume} (h : s.getPersistentVolume outcome pvs name = (pv, s')) :
    s' = s.record (.getPersistentVolume name pv.isSome) ∧
      ∀ x, pv = some x → pvs name = some x := by
  simp only [getPersistentVolume, Prod.mk.injEq] at h
  obtain ⟨rfl, rfl⟩ := h
  refine ⟨rfl, fun x hx => ?_⟩
  split at hx <;> simp_all

theorem getAzVolumeAttachment_eq {r : GetResult}
    (h : s.getAzVolumeAttachment outcome name = (r, s')) :
    s' = s.record (.getAzVolumeAttachment name r) ∧
      (∀ azv, r = .found azv → s.records name = some azv) ∧
      (r = .notFound → s.records name = none) := by
  simp only [getAzVolumeAttachment, Prod.mk.injEq] at h
  obtain ⟨rfl, rfl⟩ := h
  refine ⟨rfl, ?_, ?_⟩ <;> split <;> (try split) <;> simp_all

end ApiServer

section

variable (K : Env) (pvs : String → Option PersistentVolume) (vas : VolumeAttachmentList)

/-- The record `name` exists and carries the controller's finalizer. -/
def Durable (s : ApiServer) (name : String) : Prop :=
  ∃ r, s.records name = some r ∧ K.azVolumeAttachmentFinalizer ∈ r.finalizers

/-- No record disappears, and none loses the finalizer. -/
def Grows (s s' : ApiServer) : Prop :=
  ∀ name r, s.records name = some r → ∃ r', s'.records name = some r' ∧
    (K.azVolumeAttachmentFinalizer ∈ r.finalizers → K.azVolumeAttachmentFinalizer ∈ r'.finalizers)

/-- `azv` is the record `syncAll` synthesizes, under the name `name`, for a listed
`VolumeAttachment` that qualifies for it. -/
def RecoveredFrom (name : String) (azv : AzVolumeAttachment) : Prop :=
  ∃ va ∈ vas.items, ∃ volumeName pv csi, va.persistentVolumeName = some volumeName ∧
    pvs volumeName = some pv ∧ pv.csi = some csi ∧ recordName K pvs va = some name ∧
    azv = recoveredRecord K volumeName csi.volumeHandle va.nodeName va.status

/-- Every `Create` call comes right after a `Get` of its name that said NotFound. -/
def CreatesAfterNotFound (log : List ApiCall) : Prop :=
  ∀ i name azv o, log[i]? = some (.create name azv o) →
    ∃ j, i = j + 1 ∧ log[j]? = some (.getAzVolumeAttachment name .notFound)

/-- What the calls of `Recover` keep of the API server. -/
structure ServerInv (s : ApiServer) : Prop where
  /-- A name was created at most once, and not at all if it is free. -/
  created_le : ∀ name, s.log.countP (ApiCall.creates name) ≤
    if (s.records name).isSome then 1 else 0
  after_notFound : CreatesAfterNotFound s.log
  recovered : ∀ name azv o, ApiCall.create name azv o ∈ s.log → RecoveredFrom K pvs vas name azv

/-- The loop invariant of `Recover`: what is marked synced has its record, with the
finalizer. -/
structure RecoverInv (st : SyncState) : Prop where
  server : ServerInv K pvs vas st.server
  synced : ∀ va ∈ vas.items, st.syncedVolumeAttachments va.name = true →
    ∀ name, recordName K pvs va = some name → Durable K st.server name

end

variable {K : Env} {outcome : Nat → Outcome} {pvs : String → Option PersistentVolume}
  {vas : VolumeAttachmentList} {s s' s'' : ApiServer} {name : String}

theorem Grows.refl : Grows K s s := fun _ r h => ⟨r, h, id⟩

theorem Grows.trans (h : Grows K s s') (h' : Grows K s' s'') : Grows K s s'' := by
  intro name r hr
  obtain ⟨r', hr', hf⟩ := h name r hr
  obtain ⟨r'', hr'', hf'⟩ := h' name r' hr'
  exact ⟨r'', hr'', hf' ∘ hf⟩

theorem Durable.mono (hd : Durable K s name) (h : Grows K s s') : Durable K s' name := by
  obtain ⟨r, hr, hf⟩ := hd
  obtain ⟨r', hr', hf'⟩ := h name r hr
  exact ⟨r', hr', hf' hf⟩

theorem Grows.record (c : ApiCall) : Grows K s (s.record c) := fun _ r h => ⟨r, h, id⟩

theorem CreatesAfterNotFound.append {log : List ApiCall} (h : CreatesAfterNotFound log)
    {c : ApiCall}
    (hc : ∀ name azv o, c = .create name azv o →
      log.getLast? = some (.getAzVolumeAttachment name .notFound)) :
    CreatesAfterNotFound (log ++ [c]) := by
  intro i name azv o hi
  rcases Nat.lt_or_ge i log.length with hlt | hge
  · rw [List.getElem?_append_left hlt] at hi
    obtain ⟨j, rfl, hj⟩ := h i name azv o hi
    exact ⟨j, rfl, by rw [List.getElem?_append_left (by omega), hj]⟩
  · rw [List.getElem?_append_right hge] at hi
    obtain ⟨hi0, rfl⟩ : i - log.length = 0 ∧ c = .create name azv o := by
      simpa [List.getElem?_cons] using hi
    have hlast := hc name azv o rfl
    have hne : log ≠ [] := by rintro rfl; simp at hlast
    have hlen : 0 < log.length := List.length_pos.2 hne
    refine ⟨log.length - 1, by omega, ?_⟩
    rw [List.getElem?_append_left (by omega), ← hlast, List.getLast?_eq_getElem?]

theorem ServerInv.init (records : String → Option AzVolumeAttachment) :
    ServerInv K pvs vas ⟨records, []⟩ :=
  ⟨fun _ => by simp, fun _ _ _ _ h => by simp at h, fun _ _ _ h => by simp at h⟩

/-- A call that is no `Create` and writes nothing keeps the invariant. -/
theorem ServerInv.record (hinv : ServerInv K pvs vas s) {c : ApiCall} (hc : c.isCreate = false) :
    ServerInv K pvs vas (s.record c) where
  created_le name := by
    simpa [List.countP_append, ApiCall.creates_eq_false hc] using hinv.created_le name
  after_notFound := hinv.after_notFound.append fun _ _ _ h => by simp [h, ApiCall.isCreate] at hc
  recovered name azv o h := by
    simp only [ApiServer.record_log, List.mem_append, List.mem_singleton] at h
    rcases h with h | rfl
    · exact hinv.recovered name azv o h
    · simp [ApiCall.isCreate] at hc

/-- **A `Create` right after a NotFound `Get` of its name keeps the invariant, and creates the
record when it reports success.** -/
theorem ApiServer.create_spec (hinv : ServerInv K pvs vas s) {azv : AzVolumeAttachment}
    (hlast : s.log.getLast? = some (.getAzVolumeAttachment name .notFound))
    (hnone : s.records name = none) (hrec : RecoveredFrom K pvs vas name azv) {ok : Bool}
    (h : s.create outcome name azv = (ok, s')) :
    ServerInv K pvs vas s' ∧ Grows K s s' ∧ (ok = true → s'.records name = some azv) := by
  simp only [ApiServer.create, hnone, Option.isSome_none, Bool.false_eq_true, if_false,
    Prod.mk.injEq] at h
  obtain ⟨rfl, rfl⟩ := h
  have hafter := hinv.after_notFound.append
    (c := .create name azv (s.nextOutcome outcome)) fun n _ _ he => by cases he; exact hlast
  have hrec' : ∀ n a o,
      ApiCall.create n a o ∈ s.log ++ [.create name azv (s.nextOutcome outcome)] →
      RecoveredFrom K pvs vas n a := by
    intro n a o hm
    rcases List.mem_append.1 hm with hm | hm
    · exact hinv.recovered n a o hm
    · cases List.mem_singleton.1 hm; exact hrec
  cases happ : (s.nextOutcome outcome).applied
  · refine ⟨⟨fun n => ?_, hafter, hrec'⟩, Grows.record _, fun hok => ?_⟩
    · simpa [List.countP_append, ApiCall.creates, happ] using hinv.created_le n
    · simp only [beq_iff_eq] at hok
      simp [hok, Outcome.applied] at happ
  · refine ⟨⟨fun n => ?_, hafter, hrec'⟩, fun n r hr => ?_, fun _ => by simp⟩
    · by_cases hn : name = n
      · subst hn
        have := hinv.created_le name
        simp only [hnone, Option.isSome_none, Bool.false_eq_true, if_false,
          Nat.le_zero] at this
        simp [List.countP_append, ApiCall.creates, happ, this]
      · simpa [List.countP_append, ApiCall.creates, hn, Function.update_noteq (Ne.symm hn)]
          using hinv.created_le n
    · have hn : n ≠ name := by rintro rfl; simp [hnone] at hr
      exact ⟨r, by simpa [Function.update_noteq hn] using hr, id⟩

/-- **An `Update` of an existing record with one that keeps its finalizer keeps the invariant,
and writes the record when it reports success.** -/
theorem ApiServer.update_spec (hinv : ServerInv K pvs vas s) {r azv : AzVolumeAttachment}
    (hsome : s.records name = some r)
    (hfin : K.azVolumeAttachmentFinalizer ∈ r.finalizers →
      K.azVolumeAttachmentFinalizer ∈ azv.finalizers) {ok : Bool}
    (h : s.update outcome name azv = (ok, s')) :
    ServerInv K pvs vas s' ∧ Grows K s s' ∧ (ok = true → s'.records name = some azv) := by
  simp only [ApiServer.update, hsome, Option.isSome_some, if_true, Prod.mk.injEq] at h
  obtain ⟨rfl, rfl⟩ := h
  have hinv' := hinv.record (c := .update name azv (s.nextOutcome outcome)) rfl
  cases happ : (s.nextOutcome outcome).applied
  · refine ⟨hinv', Grows.record _, fun hok => ?_⟩
    simp only [beq_iff_eq] at hok
    simp [hok, Outcome.applied] at happ
  · refine ⟨⟨fun n => ?_, hinv'.after_notFound, hinv'.recovered⟩, fun n r' hr => ?_,
      fun _ => by simp⟩
    · by_cases hn : n = name
      · subst hn
        simpa [hsome] using hinv'.created_le n
      · simpa [Function.update_noteq hn] using hinv'.created_le n
    · by_cases hn : n = name
      · subst hn
        cases hsome.symm.trans hr
        exact ⟨azv, by simp, hfin⟩
      · exact ⟨r', by simpa [Function.update_noteq hn] using hr, id⟩

/-! ## The loop body -/

/-- The record `syncAll` synthesizes carries the finalizer. -/
theorem finalizer_mem_recoveredRecord (volumeName volumeHandle nodeName : String)
    (status : VolumeAttachmentStatus) :
    K.azVolumeAttachmentFinalizer ∈
      (recoveredRecord K volumeName volumeHandle nodeName status).finalizers := by
  simp [recoveredRecord]

theorem recoverRecord_spec (hinv : ServerInv K pvs vas s) {volumeName volumeHandle : String}
    {va : VolumeAttachment}
    (hrec : RecoveredFrom K pvs vas name
      (recoveredRecord K volumeName volumeHandle va.nodeName va.status))
    {ok : Bool} (h : recoverRecord K outcome name volumeName volumeHandle va s = (ok, s')) :
    ServerInv K pvs vas s' ∧ Grows K s s' ∧ (ok = true → Durable K s' name) := by
  unfold recoverRecord at h
  split at h
  · rename_i azv server hget
    obtain ⟨rfl, hfound, -⟩ := ApiServer.getAzVolumeAttachment_eq hget
    have hsome := hfound azv rfl
    obtain ⟨hinv', hg, hw⟩ :=
      ApiServer.update_spec (hinv.record (by rfl)) (by simpa using hsome)
      mem_initializeMeta_of_mem h
    exact ⟨hinv', (Grows.record _).trans hg,
      fun hok => ⟨_, hw hok, finalizer_mem_initializeMeta⟩⟩
  · rename_i server hget
    obtain ⟨rfl, -, hnf⟩ := ApiServer.getAzVolumeAttachment_eq hget
    obtain ⟨hinv', hg, hw⟩ := ApiServer.create_spec (hinv.record (by rfl)) (by simp)
      (by simpa using hnf rfl) hrec h
    exact ⟨hinv', (Grows.record _).trans hg,
      fun hok => ⟨_, hw hok, finalizer_mem_recoveredRecord _ _ _ _⟩⟩
  · rename_i server hget
    obtain ⟨rfl, -, -⟩ := ApiServer.getAzVolumeAttachment_eq hget
    cases h
    exact ⟨hinv.record rfl, Grows.record _, by simp⟩

theorem RecoverInv.mono {st st' : SyncState} (hinv : RecoverInv K pvs vas st)
    (hs : ServerInv K pvs vas st'.server) (hg : Grows K st.server st'.server)
    (hsynced : st'.syncedVolumeAttachments = st.syncedVolumeAttachments) :
    RecoverInv K pvs vas st' :=
  ⟨hs, fun va hva hsy n hn => (hinv.synced va hva (hsynced ▸ hsy) n hn).mono hg⟩

theorem VolumeAttachmentList.eq_of_name_eq {va va' : VolumeAttachment} (h : va ∈ vas.items)
    (h' : va' ∈ vas.items) (hname : va.name = va'.name) : va = va' :=
  List.inj_on_of_nodup_map vas.nodup h h' hname

/-- **What the loop body does.**  Either it writes nothing and logs at most one call, which
is no `Create`, keeps the synced map, and, when it does not stop the pass, skipped a
`VolumeAttachment` that is synced or qualifies for no record; or it calls `recoverRecord` for
the record its `VolumeAttachment` qualifies for, marks the `VolumeAttachment` synced when that
succeeds, and stops the pass when it fails. -/
theorem syncVolumeAttachment_cases {va : VolumeAttachment} {st st' : SyncState} {retry : Bool}
    (h : syncVolumeAttachment K outcome pvs va st = (retry, st')) :
    (st'.syncedVolumeAttachments = st.syncedVolumeAttachments ∧
      (st'.server = st.server ∨
        ∃ c : ApiCall, st'.server = st.server.record c ∧ c.isCreate = false) ∧
      (retry = false →
        st.syncedVolumeAttachments va.name = true ∨ recordName K pvs va = none)) ∨
    ∃ volumeName pv csi ok, va.persistentVolumeName = some volumeName ∧
      pvs volumeName = some pv ∧ pv.csi = some csi ∧ ∃ name, recordName K pvs va = some name ∧
      recoverRecord K outcome name volumeName csi.volumeHandle va
        (st.server.record (.getPersistentVolume volumeName true)) = (ok, st'.server) ∧
      retry = !ok ∧
      st'.syncedVolumeAttachments = if ok then
        Function.update st.syncedVolumeAttachments va.name true else st.syncedVolumeAttachments := by
  unfold syncVolumeAttachment at h
  split at h
  · cases h; exact .inl ⟨rfl, .inl rfl, fun _ => .inl ‹_›⟩
  split at h
  case isFalse hattacher =>
    cases h; exact .inl ⟨rfl, .inl rfl, fun _ => .inr (by simp [recordName, hattacher])⟩
  rename_i hattacher
  split at h
  · cases h; exact .inl ⟨rfl, .inl rfl, fun _ => .inr (by simp_all [recordName])⟩
  rename_i volumeName hvolume
  split at h
  · rename_i server hget
    obtain ⟨rfl, -⟩ := ApiServer.getPersistentVolume_eq hget
    cases h; exact .inl ⟨rfl, .inr ⟨_, rfl, rfl⟩, by simp⟩
  rename_i pv server hget
  obtain ⟨rfl, hpv⟩ := ApiServer.getPersistentVolume_eq hget
  have hpv := hpv pv rfl
  split at h
  · cases h; exact .inl ⟨rfl, .inr ⟨_, rfl, rfl⟩, fun _ => .inr (by simp_all [recordName])⟩
  rename_i csi hcsi
  split at h
  · cases h; exact .inl ⟨rfl, .inr ⟨_, rfl, rfl⟩, fun _ => .inr (by simp_all [recordName])⟩
  rename_i hdriver
  split at h
  · cases h; exact .inl ⟨rfl, .inr ⟨_, rfl, rfl⟩, fun _ => .inr (by simp_all [recordName])⟩
  rename_i diskName hdisk
  have hname : recordName K pvs va = some (K.getAzVolumeAttachmentName diskName va.nodeName) := by
    simp_all [recordName]
  refine .inr ⟨volumeName, pv, csi, ?_⟩
  split at h <;> rename_i hrr <;> cases h <;>
    exact ⟨_, hvolume, hpv, hcsi, _, hname, hrr, rfl, rfl⟩

/-- **The loop body keeps both invariants, secures only what it keeps, and, unless it stops
the pass, leaves the `VolumeAttachment`'s record secured when it qualifies for one.** -/
theorem syncVolumeAttachment_spec {va : VolumeAttachment} (hva : va ∈ vas.items)
    {st st' : SyncState} (hinv : RecoverInv K pvs vas st) {retry : Bool}
    (h : syncVolumeAttachment K outcome pvs va st = (retry, st')) :
    RecoverInv K pvs vas st' ∧ Grows K st.server st'.server ∧
      (retry = false →
        ∀ name, recordName K pvs va = some name → Durable K st'.server name) := by
  rcases syncVolumeAttachment_cases h with ⟨hsy, hs, hskip⟩ |
    ⟨volumeName, pv, csi, ok, hvolume, hpv, hcsi, name, hname, hrr, rfl, hsy⟩
  · have hg : Grows K st.server st'.server ∧ ServerInv K pvs vas st'.server := by
      rcases hs with hs | ⟨c, hs, hc⟩ <;> rw [hs]
      exacts [⟨Grows.refl, hinv.server⟩, ⟨Grows.record _, hinv.server.record hc⟩]
    refine ⟨hinv.mono hg.2 hg.1 hsy, hg.1, fun hr n hn => ?_⟩
    rcases hskip hr with hsynced | hnone
    · exact (hinv.synced va hva hsynced n hn).mono hg.1
    · simp [hnone] at hn
  · obtain ⟨hs, hg, hd⟩ := recoverRecord_spec (hinv.server.record (by rfl))
      ⟨va, hva, volumeName, pv, csi, hvolume, hpv, hcsi, hname, rfl⟩ hrr
    have hg' := (Grows.record _).trans hg
    refine ⟨⟨hs, fun va' hva' hsy' n hn => ?_⟩, hg', fun hr n hn => ?_⟩
    · by_cases heq : ok ∧ va'.name = va.name
      · cases vas.eq_of_name_eq hva' hva heq.2
        cases hname.symm.trans hn
        exact hd heq.1
      · have hold : st.syncedVolumeAttachments va'.name = true := by
          rw [hsy] at hsy'
          split at hsy' <;> simp_all [Function.update_noteq]
        exact (hinv.synced va' hva' hold n hn).mono hg'
    · cases hname.symm.trans hn
      exact hd (by simpa using hr)

/-! ## The passes -/

/-- **The loop of a pass keeps both invariants, and, when it runs to its end, leaves the
record of every `VolumeAttachment` it went through secured.** -/
theorem syncLoop_spec :
    ∀ (l : List VolumeAttachment) (st : SyncState), (∀ va ∈ l, va ∈ vas.items) →
      RecoverInv K pvs vas st →
      RecoverInv K pvs vas (syncLoop K outcome pvs l st).2 ∧
        Grows K st.server (syncLoop K outcome pvs l st).2.server ∧
        ((syncLoop K outcome pvs l st).1 = false → ∀ va ∈ l, ∀ name,
          recordName K pvs va = some name → Durable K (syncLoop K outcome pvs l st).2.server name)
  | [], st, _, hinv => ⟨hinv, Grows.refl, by simp⟩
  | va :: rest, st, hl, hinv => by
    have hva := hl va (List.mem_cons_self _ _)
    rcases hbody : syncVolumeAttachment K outcome pvs va st with ⟨_ | _, st'⟩
    · obtain ⟨hinv', hg, hd⟩ := syncVolumeAttachment_spec hva hinv hbody
      obtain ⟨hinv'', hg', hd'⟩ :=
        syncLoop_spec rest st' (fun v hv => hl v (List.mem_cons_of_mem _ hv)) hinv'
      simp only [syncLoop, hbody]
      refine ⟨hinv'', hg.trans hg', fun hdone v hv n hn => ?_⟩
      rcases List.mem_cons.1 hv with rfl | hv
      · exact (hd rfl n hn).mono hg'
      · exact hd' hdone v hv n hn
    · obtain ⟨hinv', hg, -⟩ := syncVolumeAttachment_spec hva hinv hbody
      simp only [syncLoop, hbody]
      exact ⟨hinv', hg, by simp⟩

theorem syncAll_spec (outcome : Nat → Outcome) {st : SyncState} (hinv : RecoverInv K pvs vas st) :
    RecoverInv K pvs vas (syncAll K outcome pvs vas st).2 ∧
      ((syncAll K outcome pvs vas st).1 = false → ∀ va ∈ vas.items, ∀ name,
        recordName K pvs va = some name →
          Durable K (syncAll K outcome pvs vas st).2.server name) := by
  unfold syncAll
  split
  · rename_i server hlist
    cases ApiServer.listVolumeAttachments_eq hlist
    exact ⟨hinv.mono (hinv.server.record (by rfl)) (Grows.record _) rfl, by simp⟩
  · rename_i server hlist
    cases ApiServer.listVolumeAttachments_eq hlist
    obtain ⟨hinv', -, hd⟩ := syncLoop_spec vas.items
      { st with server := st.server.record (.listVolumeAttachments true) } (fun _ h => h)
      (hinv.mono (hinv.server.record (by rfl)) (Grows.record _) rfl)
    exact ⟨hinv', hd⟩

/-- **Over the passes of `Recover`: both invariants hold at the end, and when fewer passes
failed than were allowed, every qualifying `VolumeAttachment` has its record, with the
finalizer.** -/
theorem recoverLoop_spec (outcome : Nat → Outcome) :
    ∀ (n : Nat) (st : SyncState), RecoverInv K pvs vas st →
      RecoverInv K pvs vas (recoverLoop K outcome pvs vas n st).state ∧
        ((recoverLoop K outcome pvs vas n st).failedPasses < n → ∀ va ∈ vas.items, ∀ name,
          recordName K pvs va = some name →
            Durable K (recoverLoop K outcome pvs vas n st).state.server name)
  | 0, st, hinv => ⟨hinv, by simp [recoverLoop]⟩
  | n + 1, st, hinv => by
    obtain ⟨hinv', hd⟩ := syncAll_spec outcome hinv
    rcases hpass : syncAll K outcome pvs vas st with ⟨_ | _, st'⟩
    · rw [hpass] at hinv' hd
      simp only [recoverLoop, hpass]
      exact ⟨hinv', fun _ => hd rfl⟩
    · rw [hpass] at hinv'
      obtain ⟨hinv'', hd'⟩ := recoverLoop_spec outcome n st' hinv'
      simp only [recoverLoop, hpass]
      exact ⟨hinv'', fun hlt => hd' (by omega)⟩

/-- **`Recover`, for every list of `VolumeAttachment`s, every set of PVs, every starting set
of records and every pattern of failures.**  When fewer than `maxRetry` passes fail, every
listed `VolumeAttachment` that qualifies for a record has it, with the finalizer.  Always:
each name was created at most once, every `Create` came right after a NotFound `Get` of its
name, and every record created requests `Primary`, names the PV's volume handle and the
`VolumeAttachment`'s node, and has a detail, of role `Primary`, exactly when it is
`Attached`. -/
theorem recover_spec (K : Env) (outcome : Nat → Outcome) (pvs : String → Option PersistentVolume)
    (vas : VolumeAttachmentList) (records : String → Option AzVolumeAttachment)
    (hpasses : (recover K outcome pvs vas records).failedPasses < K.maxRetry) :
    (∀ va ∈ vas.items, ∀ name, recordName K pvs va = some name →
      ∃ r, (recover K outcome pvs vas records).state.server.records name = some r ∧
        K.azVolumeAttachmentFinalizer ∈ r.finalizers) ∧
    (∀ name, (recover K outcome pvs vas records).state.server.log.countP
      (ApiCall.creates name) ≤ 1) ∧
    CreatesAfterNotFound (recover K outcome pvs vas records).state.server.log ∧
    (∀ name azv o, ApiCall.create name azv o ∈ (recover K outcome pvs vas records).state.server.log →
      azv.spec.requestedRole = .primary ∧
      (azv.status.detail.isSome ↔ azv.status.state = attached) ∧
      (∀ d ∈ azv.status.detail, d.role = .primary) ∧
      ∃ va ∈ vas.items, ∃ volumeName pv csi, va.persistentVolumeName = some volumeName ∧
        pvs volumeName = some pv ∧ pv.csi = some csi ∧ recordName K pvs va = some name ∧
        azv.spec.volumeID = csi.volumeHandle ∧ azv.spec.nodeName = va.nodeName) := by
  unfold recover at hpasses ⊢
  obtain ⟨hinv, hd⟩ := recoverLoop_spec outcome K.maxRetry
    ⟨fun _ => false, fun _ => false, ⟨records, []⟩⟩
    ⟨ServerInv.init records, fun _ _ h => by simp at h⟩
  refine ⟨hd hpasses, fun n => ?_, hinv.server.after_notFound, fun n azv o hm => ?_⟩
  · have := hinv.server.created_le n
    split at this <;> omega
  · obtain ⟨va, hva, volumeName, pv, csi, hv, hpv, hcsi, hn, rfl⟩ :=
      hinv.server.recovered n azv o hm
    refine ⟨rfl, ?_, ?_, va, hva, volumeName, pv, csi, hv, hpv, hcsi, hn, rfl, rfl⟩
    · simp only [recoveredRecord]
      split <;> simp_all
    · simp only [recoveredRecord]
      split <;> simp_all

/-- One `VolumeAttachment` of this driver, attached, with source PV `pv`. -/
def attachedVolumeAttachments : VolumeAttachmentList :=
  ⟨[{ name := "csi-va"
      attacher := "disk.csi.azure.com"
      persistentVolumeName := some "pv"
      nodeName := "node"
      status := ⟨true, none, none⟩ }], List.nodup_singleton _⟩

/-- Every PV is a CSI volume of this driver, with handle `disk`. -/
def csiPersistentVolumes : String → Option PersistentVolume :=
  fun _ => some ⟨some ⟨"disk.csi.azure.com", "disk"⟩⟩

/-- The first call fails; the others succeed. -/
def firstCallFails (k : Nat) : Outcome := if k = 0 then .failed else .ok

/-- The theorem when the first pass fails at its `List` and the second one succeeds: the
record `disk-node` exists, with the finalizer. -/
theorem recover_spec_after_failed_list :
    (recover default firstCallFails csiPersistentVolumes attachedVolumeAttachments
        fun _ => none).failedPasses < (default : Env).maxRetry ∧
      ∃ r, (recover default firstCallFails csiPersistentVolumes attachedVolumeAttachments
          fun _ => none).state.server.records "disk-node" = some r ∧
        (default : Env).azVolumeAttachmentFinalizer ∈ r.finalizers := by
  have hpasses : (recover default firstCallFails csiPersistentVolumes attachedVolumeAttachments
      fun _ => none).failedPasses < (default : Env).maxRetry := by decide
  exact ⟨hpasses, (recover_spec default firstCallFails csiPersistentVolumes
    attachedVolumeAttachments _ hpasses).1 _ (List.mem_singleton_self _) "disk-node" (by decide)⟩

end AttachDetach
