import AttachDetach.System

/-!
# `Recover` and `syncAll`

At start-up `Recover` rebuilds the records from the `VolumeAttachment`s of the cluster: up
to `maxRetry` passes of `syncAll`.  A pass lists the `VolumeAttachment`s and, for each one of
this driver whose PV is a CSI volume of this driver with a parseable handle, makes sure that
the record named after the disk and the node exists and carries the finalizer: a `Get` that
finds it is followed by `initializeMeta` and an `Update`, a `Get` that says NotFound by a
`Create` of the record `recoveredRecord` synthesizes.  A pass that meets an error returns at
once and asks for a retry; the `VolumeAttachment`s it finished are in
`syncedVolumeAttachments`, which the next pass skips.

The model fixes the `VolumeAttachment`s and the `PersistentVolume`s for the whole run, and
lets the API servers fail any call: `outcome k` says whether the `k`-th call succeeds,
fails, or, for a write, is applied and still reported as failed (a timeout after the
commit).  The records are written by `Recover` alone, and every call is logged with what
the server did.  The loop body of `syncAll` is `syncVolumeAttachment`, which returns whether
the pass stops there.
-/

namespace AttachDetach

/-- `storagev1.VolumeAttachment`, with the fields `syncAll` reads. -/
structure VolumeAttachment where
  /-- `Name`. -/
  name : String
  /-- `Spec.Attacher`. -/
  attacher : String
  /-- `Spec.Source.PersistentVolumeName`, a Go pointer. -/
  persistentVolumeName : Option String
  /-- `Spec.NodeName`. -/
  nodeName : String
  /-- `Status`. -/
  status : VolumeAttachmentStatus

/-- The items of a `VolumeAttachment` `List`: objects of one kind, so their names differ. -/
structure VolumeAttachmentList where
  items : List VolumeAttachment
  nodup : (items.map VolumeAttachment.name).Nodup

/-- `corev1.CSIPersistentVolumeSource`, with the fields `syncAll` reads. -/
structure CSIPersistentVolumeSource where
  driver : String
  volumeHandle : String

/-- `corev1.PersistentVolume`, with `Spec.CSI`, a Go pointer. -/
structure PersistentVolume where
  csi : Option CSIPersistentVolumeSource

/-- What the API server does with one call. -/
inductive Outcome
  | ok
  | failed
  /-- A write that was applied, and the call still returned an error. -/
  | appliedThenFailed
  deriving DecidableEq, Repr

/-- Whether a write with this outcome took effect. -/
def Outcome.applied : Outcome → Bool
  | .ok | .appliedThenFailed => true
  | .failed => false

/-- What `GetAzVolumeAttachment` returns: the record, a NotFound error, or another error. -/
inductive GetResult
  | found (azv : AzVolumeAttachment)
  | notFound
  | failed

/-- A call `Recover` made, with what the server did. -/
inductive ApiCall
  | listVolumeAttachments (ok : Bool)
  | getPersistentVolume (name : String) (ok : Bool)
  | getAzVolumeAttachment (name : String) (result : GetResult)
  | create (name : String) (azv : AzVolumeAttachment) (outcome : Outcome)
  | update (name : String) (azv : AzVolumeAttachment) (outcome : Outcome)

/-- The records of the namespace, by name, and the calls made so far. -/
structure ApiServer where
  records : String → Option AzVolumeAttachment
  log : List ApiCall

namespace ApiServer

variable (outcome : Nat → Outcome) (s : ApiServer)

/-- The outcome of the next call. -/
def nextOutcome : Outcome := outcome s.log.length

/-- Log a call. -/
def record (call : ApiCall) : ApiServer := { s with log := s.log ++ [call] }

/-- `VolumeAttachments().List`: whether it succeeded. -/
def listVolumeAttachments : Bool × ApiServer :=
  let ok := s.nextOutcome outcome == .ok
  (ok, s.record (.listVolumeAttachments ok))

/-- `PersistentVolumes().Get(name)`: the PV, or `none` for an error, NotFound included. -/
def getPersistentVolume (pvs : String → Option PersistentVolume) (name : String) :
    Option PersistentVolume × ApiServer :=
  let pv := if s.nextOutcome outcome = .ok then pvs name else none
  (pv, s.record (.getPersistentVolume name pv.isSome))

/-- `azureutils.GetAzVolumeAttachment(name)`, read from the API server. -/
def getAzVolumeAttachment (name : String) : GetResult × ApiServer :=
  let result : GetResult :=
    if s.nextOutcome outcome = .ok then
      match s.records name with
      | some azv => .found azv
      | none => .notFound
    else .failed
  (result, s.record (.getAzVolumeAttachment name result))

/-- `Create`, which fails with no effect when the name is taken (AlreadyExists). -/
def create (name : String) (azv : AzVolumeAttachment) : Bool × ApiServer :=
  let o := if (s.records name).isSome then .failed else s.nextOutcome outcome
  let s' := s.record (.create name azv o)
  (o == .ok, if o.applied then { s' with records := Function.update s.records name (some azv) }
    else s')

/-- `Update`, which fails with no effect when there is no record of the name (NotFound). -/
def update (name : String) (azv : AzVolumeAttachment) : Bool × ApiServer :=
  let o := if (s.records name).isSome then s.nextOutcome outcome else .failed
  let s' := s.record (.update name azv o)
  (o == .ok, if o.applied then { s' with records := Function.update s.records name (some azv) }
    else s')

end ApiServer

/-- The maps `syncAll` hands from pass to pass, and the API servers.  A `nil` map reads as
the empty one. -/
structure SyncState where
  syncedVolumeAttachments : String → Bool
  volumesToSync : String → Bool
  server : ApiServer

section

variable (K : Env) (outcome : Nat → Outcome) (pvs : String → Option PersistentVolume)

/-- The end of the loop body of `syncAll` for a `VolumeAttachment` that qualifies: `Get` the
record `name`, then `initializeMeta` and `Update` it, or `Create` it when NotFound.  Whether
no call failed. -/
def recoverRecord (name volumeName volumeHandle : String) (va : VolumeAttachment)
    (server : ApiServer) : Bool × ApiServer :=
  match server.getAzVolumeAttachment outcome name with
  | (.found azv, server) => server.update outcome name (initializeMeta K azv)
  | (.notFound, server) =>
    server.create outcome name (recoveredRecord K volumeName volumeHandle va.nodeName va.status)
  | (.failed, server) => (false, server)

/-- The loop body of `syncAll`; `true` when the pass returns there, asking for a retry. -/
def syncVolumeAttachment (va : VolumeAttachment) (st : SyncState) : Bool × SyncState :=
  if st.syncedVolumeAttachments va.name then (false, st)
  else if va.attacher = K.driverName then
    match va.persistentVolumeName with
    | none => (false, st)
    | some volumeName =>
      match st.server.getPersistentVolume outcome pvs volumeName with
      | (none, server) => (true, { st with server := server })
      | (some pv, server) =>
        match pv.csi with
        | none => (false, { st with server := server })
        | some csi =>
          if csi.driver ≠ K.driverName then (false, { st with server := server })
          else
            let volumesToSync := Function.update st.volumesToSync csi.volumeHandle true
            match K.getDiskNameFromAzureManagedDiskURI csi.volumeHandle with
            | none =>
              (false, { st with
                server := server
                volumesToSync := Function.update volumesToSync csi.volumeHandle false })
            | some diskName =>
              match recoverRecord K outcome (K.getAzVolumeAttachmentName diskName va.nodeName)
                  volumeName csi.volumeHandle va server with
              | (true, server) =>
                (false,
                  { syncedVolumeAttachments :=
                      Function.update st.syncedVolumeAttachments va.name true
                    volumesToSync := volumesToSync
                    server := server })
              | (false, server) =>
                (true, { st with volumesToSync := volumesToSync, server := server })
  else (false, st)

/-- The loop of `syncAll` over the listed `VolumeAttachment`s. -/
def syncLoop : List VolumeAttachment → SyncState → Bool × SyncState
  | [], st => (false, st)
  | va :: rest, st =>
    match syncVolumeAttachment K outcome pvs va st with
    | (true, st) => (true, st)
    | (false, st) => syncLoop rest st

/-- `syncAll`: one pass; `true` when it asks for a retry. -/
def syncAll (vas : VolumeAttachmentList) (st : SyncState) : Bool × SyncState :=
  match st.server.listVolumeAttachments outcome with
  | (false, server) => (true, { st with server := server })
  | (true, server) => syncLoop K outcome pvs vas.items { st with server := server }

/-- What `Recover` leaves behind, with the number of its passes that asked for a retry. -/
structure RecoverResult where
  failedPasses : Nat
  state : SyncState

/-- The loop of `Recover`, with `n` passes left. -/
def recoverLoop (vas : VolumeAttachmentList) : Nat → SyncState → RecoverResult
  | 0, st => ⟨0, st⟩
  | n + 1, st =>
    match syncAll K outcome pvs vas st with
    | (true, st) =>
      let r := recoverLoop vas n st
      { r with failedPasses := r.failedPasses + 1 }
    | (false, st) => ⟨0, st⟩

/-- `Recover`, from the records the API server holds when it starts. -/
def recover (vas : VolumeAttachmentList) (records : String → Option AzVolumeAttachment) :
    RecoverResult :=
  recoverLoop K outcome pvs vas K.maxRetry ⟨fun _ => false, fun _ => false, ⟨records, []⟩⟩

end

end AttachDetach
