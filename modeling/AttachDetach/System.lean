import AttachDetach.Reconcile

/-!
# The controller and its record, as a transition system

One record name, everything that reads or writes the record under that name, and every
interleaving of them.  The parties are:

* the API server's store: at most one incarnation of the record, with its resource version
  and UID; a write on an object whose deletion was requested and that has no finalizer left
  removes it, and so does a delete of an object with no finalizer;
* the informer cache, which may hand `Reconcile` any version ever stored under the name
  (`history`), stale ones included, or nothing;
* `Reconcile` passes, each past its read and carrying the version it read; the per-record
  lock `stateLock`; the work queue, which every write, resync and error requeue feeds;
* the goroutines the triggers spawn, one per provisioner call;
* clients outside the controller (the upstream creator, deleters, spec and annotation
  writers) and `Recover`'s two writes;
* the `VolumeAttachment`s that the volume-attachment-exists annotation may name, as the API
  server holds them: absent, present, or being deleted.  Kubernetes creates, deletes and
  releases them; the controller never writes them.  `triggerDetach` reads them with
  `r.client.Get`, the manager's client, which serves them from an informer cache that may
  lag behind the API server: what a pass's `Get` returns is a choice of its
  `reconcile` event.  A run whose `Get`s answer as the API server would reads
  `Cluster.volumeAttachmentLookup`.

`UpdateCRIWithRetry` is modelled from the spec: read the record, apply the update function
to a copy, and write it on condition that the version read is still current; on a conflict
read again and re-apply.  A trigger's update function is a pure function of the copy, so an
attempt that meets a conflict has no effect and the successful attempt can be taken as one
atomic step (`commit`); running out of retries is `giveUp`.  A goroutine's closure assigns
its captured `err`, so its conflicting attempts are steps of their own: `attempt` reads and
applies the closure, and `retry` is enabled only once the store holds a different version
than the one the attempt read, which is when the write conflicts.

`attachedOnce` is proof-only: it records whether this incarnation ever went from
`Attaching` to `Attached`, or was synthesized `Attached` by `Recover`.
-/

namespace AttachDetach

open AzVolumeAttachmentAttachmentState

/-- One incarnation of the record in the store. -/
structure Stored where
  obj : AzVolumeAttachment
  resourceVersion : Nat
  uid : Nat
  attachedOnce : Bool

/-- Where a `Reconcile` pass is, once it has read its version and chosen a trigger. -/
inductive PassPhase
  | acquiring (t : Trigger)
  | updating (t : Trigger)
  | done

/-- A `Reconcile` pass: the version it read and passed to the trigger, and its phase. -/
structure Pass where
  azv : AzVolumeAttachment
  phase : PassPhase

/-- A provisioner call, with the arguments the goroutine passed. -/
inductive Call
  | publishVolume (volumeID nodeID : String) (volumeContext : String → Option String)
  | unpublishVolume (volumeID nodeID : String)

/-- Where a goroutine is: waiting for the provisioner; about to attempt its status write;
after an attempt whose write will conflict with a newer version than `resourceVersion`;
finished. -/
inductive TaskPhase
  | calling
  | updating (completion : Completion) (err : Option GoError)
  | conflicting (completion : Completion) (err : Option GoError) (resourceVersion : Nat)
  | done

/-- A goroutine spawned by `triggerAttach` or `triggerDetach`. -/
structure Task where
  call : Call
  phase : TaskPhase

/-- The state of the whole system around one record name.  `volumeAttachments name` is
`none` when the API server holds no `VolumeAttachment` of that name, and `some deleting`
otherwise. -/
structure Cluster where
  store : Option Stored
  history : List AzVolumeAttachment
  clock : Nat
  stateLock : Bool
  queue : Nat
  passes : List Pass
  tasks : List Task
  volumeAttachments : String → Option Bool

/-- Nothing stored, nothing running, no `VolumeAttachment`. -/
def Cluster.init : Cluster :=
  { store := none, history := [], clock := 0, stateLock := false, queue := 0, passes := [],
    tasks := [], volumeAttachments := fun _ => none }

/-- The changes the API server admits to a `VolumeAttachment`: its creation, a deletion
request while a finalizer holds it, and its removal.  A deletion request is never taken
back. -/
def volumeAttachmentChange : Option Bool → Option Bool → Bool
  | none, some false => true
  | some false, some true => true
  | some _, none => true
  | _, _ => false

/-- What the API server answers to the `Get` of `triggerDetach` for the version `azv`: the
state of the `VolumeAttachment` that its volume-attachment-exists annotation names, and
`notFound`, which `detachmentRequested` then ignores, when there is no annotation. -/
def Cluster.volumeAttachmentLookup (K : Env) (c : Cluster) (azv : AzVolumeAttachment) :
    VolumeAttachmentLookup :=
  match azv.annotations K.volumeAttachmentExistsAnnotation with
  | none => .notFound
  | some vaName =>
    match c.volumeAttachments vaName with
    | none => .notFound
    | some deleting => .found deleting

/-- The events of a run. -/
inductive Event
  /-- An upstream component creates the record, in `AttachmentPending`. -/
  | create (azv : AzVolumeAttachment)
  /-- A client deletes the record. -/
  | delete
  /-- A client rewrites the spec and the annotations. -/
  | edit (spec : AzVolumeAttachmentSpec) (annotations : String → Option String)
  /-- The periodic resync enqueues the record. -/
  | resync
  /-- A queued `Reconcile` runs: it reads `history[version]` from the cache (nothing when
  the index is past the end), and `lookup` is what the `VolumeAttachment` `Get` returns,
  from the cache. -/
  | reconcile (version : Nat) (lookup : VolumeAttachmentLookup)
  | acquire (pass : Nat)
  | commit (pass : Nat)
  | giveUp (pass : Nat)
  | publishReturns (task : Nat) (result : Except GoError (String → Option String))
  | unpublishReturns (task : Nat) (result : Option GoError)
  | complete (task : Nat)
  | attempt (task : Nat)
  | retry (task : Nat)
  | abandon (task : Nat)
  /-- `Recover` finds the record and writes it back through `initializeMeta`. -/
  | recoverUpdate
  /-- `Recover` finds no record and creates one from a `VolumeAttachment` and its PV. -/
  | recoverCreate (volumeName volumeHandle nodeName : String) (status : VolumeAttachmentStatus)
  /-- Kubernetes creates, deletes or releases the `VolumeAttachment` `name`. -/
  | changeVolumeAttachment (name : String) (state : Option Bool)

/-! ## The record as its creators write it -/

/-- The record an upstream component creates: anything in the metadata and spec, no
deletion timestamp, and the initial status. -/
def upstreamRecord (azv : AzVolumeAttachment) : AzVolumeAttachment :=
  { azv with
    deletionTimestamp := none
    status := { detail := none, state := attachmentPending, error := none } }

/-- The record `syncAll` synthesizes for a `VolumeAttachment` with no record: labels for
node and volume, the finalizer, role `Primary`, the state read off the `VolumeAttachment`'s
status, and a `Primary` detail when that state is `Attached`. -/
def recoveredRecord (K : Env) (volumeName volumeHandle nodeName : String)
    (status : VolumeAttachmentStatus) : AzVolumeAttachment :=
  let state := K.getAzVolumeAttachmentState status
  { finalizers := [K.azVolumeAttachmentFinalizer]
    labels := setLabel (setLabel (fun _ => none) K.nodeNameLabel nodeName)
      K.volumeNameLabel volumeName
    annotations := fun _ => none
    deletionTimestamp := none
    spec :=
      { underlyingVolume := volumeName
        volumeID := volumeHandle
        nodeName := nodeName
        requestedRole := .primary
        volumeContext := fun _ => none }
    status :=
      { state := state
        error := none
        detail :=
          if state = attached then some { role := .primary, publishContext := fun _ => none }
          else none } }

/-! ## Store operations -/

/-- A write of `azv` over the stored incarnation `a`, at version `clock`: the object is gone
when its deletion was requested and no finalizer is left. -/
def Stored.next (a : Stored) (azv : AzVolumeAttachment) (clock : Nat) : Option Stored :=
  if azv.deletionTimestamp.isSome && azv.finalizers.isEmpty then none
  else
    some
      { obj := azv
        resourceVersion := clock
        uid := a.uid
        attachedOnce :=
          a.attachedOnce || (a.obj.status.state == attaching && azv.status.state == attached) }

namespace Cluster

variable (c : Cluster)

/-- Write `azv` over the stored incarnation `a`; the watch enqueues the record. -/
def write (a : Stored) (azv : AzVolumeAttachment) : Cluster :=
  { c with
    store := a.next azv c.clock
    history := c.history ++ [azv]
    clock := c.clock + 1
    queue := c.queue + 1 }

/-- Create a new incarnation with a fresh UID. -/
def insert (azv : AzVolumeAttachment) (attachedOnce : Bool) : Cluster :=
  { c with
    store := some { obj := azv, resourceVersion := c.clock, uid := c.clock, attachedOnce := attachedOnce }
    history := c.history ++ [azv]
    clock := c.clock + 1
    queue := c.queue + 1 }

/-- An error return of `Reconcile`, which requeues the record. -/
def requeue : Cluster := { c with queue := c.queue + 1 }

def setPass (i : Nat) (p : Pass) : Cluster := { c with passes := c.passes.set i p }

def addPass (p : Pass) : Cluster := { c with passes := c.passes ++ [p] }

def setTask (j : Nat) (t : Task) : Cluster := { c with tasks := c.tasks.set j t }

/-- The goroutine a trigger starts after its write, for the version `azv` it was given. -/
def spawn (t : Trigger) (azv : AzVolumeAttachment) : Cluster :=
  match t with
  | .attach => { c with tasks := c.tasks ++
      [⟨.publishVolume azv.spec.volumeID azv.spec.nodeName azv.spec.volumeContext, .calling⟩] }
  | .detach => { c with tasks := c.tasks ++
      [⟨.unpublishVolume azv.spec.volumeID azv.spec.nodeName, .calling⟩] }
  | .deleteFinalizer | .promote => c

/-- The resource version stored, if any. -/
def storedVersion : Option Nat := c.store.map Stored.resourceVersion

/-- A pass that has read `azv` runs `Reconcile`'s decision and starts its trigger. -/
def startPass (K : Env) (azv : AzVolumeAttachment) (lookup : VolumeAttachmentLookup) : Cluster :=
  match reconcile azv with
  | .none => c
  | .attach => c.addPass ⟨azv, .acquiring .attach⟩
  | .promote => c.addPass ⟨azv, .updating .promote⟩
  | .detach =>
    match detachmentRequested K azv lookup with
    | none => c.requeue
    | some true => c.addPass ⟨azv, .acquiring .detach⟩
    | some false => c.addPass ⟨azv, .updating .deleteFinalizer⟩

/-- A pass leaves its trigger: it is done and releases the lock if its trigger took it. -/
def finishPass (i : Nat) (p : Pass) (t : Trigger) : Cluster :=
  let c := c.setPass i ⟨p.azv, .done⟩
  if t.takesLock then { c with stateLock := false } else c

end Cluster

/-- One step of the system; `none` when the event is not enabled. -/
def step (K : Env) (c : Cluster) : Event → Option Cluster
  | .create azv =>
    match c.store with
    | some _ => none
    | none => some (c.insert (upstreamRecord azv) false)
  | .delete =>
    match c.store with
    | none => none
    | some a =>
      if a.obj.finalizers.isEmpty then some { c.requeue with store := none }
      else if a.obj.deletionTimestamp.isSome then none
      else some (c.write a { a.obj with deletionTimestamp := some c.clock })
  | .edit spec annotations =>
    c.store.map fun a => c.write a { a.obj with spec := spec, annotations := annotations }
  | .resync => some c.requeue
  | .reconcile version lookup =>
    if c.queue = 0 then none
    else
      let c := { c with queue := c.queue - 1 }
      match c.history[version]? with
      | none => some c
      | some azv => some (c.startPass K azv lookup)
  | .acquire i =>
    match c.passes[i]? with
    | some ⟨azv, .acquiring t⟩ =>
      if c.stateLock then some ((c.setPass i ⟨azv, .done⟩).requeue)
      else some ({ c with stateLock := true }.setPass i ⟨azv, .updating t⟩)
    | _ => none
  | .commit i =>
    match c.passes[i]? with
    | some p@⟨azv, .updating t⟩ =>
      let c' := c.finishPass i p t
      match c.store with
      | none => some c'.requeue
      | some a =>
        match t.updateFunc K a.obj with
        | .error _ => some c'.requeue
        | .ok w => some ((c'.write a w).spawn t azv)
    | _ => none
  | .giveUp i =>
    match c.passes[i]? with
    | some p@⟨_, .updating t⟩ => some (c.finishPass i p t).requeue
    | _ => none
  | .publishReturns j result =>
    match c.tasks[j]? with
    | some ⟨call@(.publishVolume ..), .calling⟩ =>
      let (cpl, err) := attachCompletion result
      some (c.setTask j ⟨call, .updating cpl err⟩)
    | _ => none
  | .unpublishReturns j result =>
    match c.tasks[j]? with
    | some ⟨call@(.unpublishVolume ..), .calling⟩ =>
      let (cpl, err) := detachCompletion result
      some (c.setTask j ⟨call, .updating cpl err⟩)
    | _ => none
  | .complete j =>
    match c.tasks[j]? with
    | some ⟨call, .updating cpl err⟩ =>
      let c' := c.setTask j ⟨call, .done⟩
      match c.store with
      | none => some c'
      | some a =>
        match (cpl.updateFunc K a.obj err).1 with
        | .error _ => some c'
        | .ok w => some (c'.write a w)
    | _ => none
  | .attempt j =>
    match c.tasks[j]?, c.store with
    | some ⟨call, .updating cpl err⟩, some a =>
      match cpl.updateFunc K a.obj err with
      | (.ok _, err') => some (c.setTask j ⟨call, .conflicting cpl err' a.resourceVersion⟩)
      | (.error _, _) => none
    | _, _ => none
  | .retry j =>
    match c.tasks[j]? with
    | some ⟨call, .conflicting cpl err rv⟩ =>
      if c.storedVersion = some rv then none
      else some (c.setTask j ⟨call, .updating cpl err⟩)
    | _ => none
  | .abandon j =>
    match c.tasks[j]? with
    | some ⟨call, .conflicting _ _ rv⟩ =>
      if c.storedVersion = some rv then none else some (c.setTask j ⟨call, .done⟩)
    | _ => none
  | .recoverUpdate => c.store.map fun a => c.write a (initializeMeta K a.obj)
  | .recoverCreate volumeName volumeHandle nodeName status =>
    match c.store with
    | some _ => none
    | none =>
      let azv := recoveredRecord K volumeName volumeHandle nodeName status
      some (c.insert azv (azv.status.state == attached))
  | .changeVolumeAttachment name state =>
    if volumeAttachmentChange (c.volumeAttachments name) state then
      some { c with volumeAttachments := Function.update c.volumeAttachments name state }
    else none

/-- The provisioner calls that were issued and have not returned. -/
def Cluster.outstanding (c : Cluster) : List Call :=
  c.tasks.filterMap fun task =>
    match task.phase with
    | .calling => some task.call
    | _ => none

/-- Whether a call is a `PublishVolume`. -/
def Call.isPublish : Call → Bool
  | .publishVolume .. => true
  | .unpublishVolume .. => false

/-- The events of the controller itself: `Reconcile` passes and the goroutines.  The others
are writes by other clients, the periodic resync, `Recover`, and the `VolumeAttachment`
changes of Kubernetes. -/
def Event.byController : Event → Bool
  | .reconcile .. | .acquire _ | .commit _ | .giveUp _ | .publishReturns .. | .unpublishReturns ..
  | .complete _ | .attempt _ | .retry _ | .abandon _ => true
  | .create _ | .delete | .edit .. | .resync | .recoverUpdate | .recoverCreate ..
  | .changeVolumeAttachment .. => false

/-- The state after a list of events, when every one of them was enabled. -/
def exec (K : Env) : Cluster → List Event → Option Cluster
  | c, [] => some c
  | c, e :: es => (step K c e).bind fun c' => exec K c' es

/-- The states a run from `Cluster.init` reaches. -/
inductive Reachable (K : Env) : Cluster → Prop
  | init : Reachable K Cluster.init
  | step {c c' : Cluster} {e : Event} : Reachable K c → step K c e = some c' → Reachable K c'

theorem Reachable.of_exec {K : Env} {c c' : Cluster} (hc : Reachable K c) :
    ∀ {es : List Event}, exec K c es = some c' → Reachable K c'
  | [], h => by cases h; exact hc
  | e :: es, h => by
    simp only [exec, Option.bind_eq_some] at h
    obtain ⟨c₁, h₁, h₂⟩ := h
    exact (hc.step h₁).of_exec h₂

end AttachDetach
