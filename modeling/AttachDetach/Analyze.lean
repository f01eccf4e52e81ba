import AttachDetach.Types

/-!
# The `azva` command of `az-analyze`

`az-analyze get azva` lists the `AzVolumeAttachment` records with the pod, node or zone they
belong to.  With no flag it calls `GetAllAzVolumeAttachements`, which joins every record to
the pods of a namespace through the claim name in `Spec.VolumeContext[PvcNameKey]` and
fetches its node for the zone; with `--pod`, `--node` or `--zone` it calls the function of
that filter.  Every row it builds reads `Status.Detail.Role`, and `Status.Detail` is a Go
pointer: on a record without a detail the read is a `nil` dereference, and the command
panics (`statusDetailRole`).  A failed API call panics too, with the error's text.

The model returns `Except Panic`: the result list, or the panic that ends the run.  The API
calls are the fields of `Clientsets`, each returning the objects or the error's text, and the
constants of the package the command imports are those of `AnalyzeEnv`.  The loops over
records are `List.mapM`, which stops at the first panic as the Go loop does.

Two things of the source are left out.  Each of the four queries ends with
`fmt.Println(result) // debug`, which prints the result slice in Go's default format before
the command prints its table; `AzvaOutput` is what the command prints after that line.  And a
row's age is `AnalyzeEnv.now` less the creation time, one clock reading for the run and an
unbounded `Int`, where each row reads `metav1.Now()` again and `Time.Sub` saturates at the
bounds of a `time.Duration`.
-/

namespace AttachDetach

/-- How a run of the command ends early. -/
inductive Panic
  /-- `panic(err.Error())` after a failed API call. -/
  | apiError (message : String)
  /-- The runtime error of reading a field through a `nil` pointer. -/
  | nilPointerDereference
  deriving DecidableEq, Repr

/-- `corev1.Volume`, with `PersistentVolumeClaim` (a Go pointer) reduced to its `ClaimName`. -/
structure PodVolume where
  persistentVolumeClaim : Option String

/-- `corev1.Pod`, with the fields the command reads. -/
structure Pod where
  name : String
  /-- `Spec.Volumes`. -/
  volumes : List PodVolume

/-- `corev1.Node`, with the fields the command reads. -/
structure Node where
  name : String
  labels : String → Option String

/-- An item of an `AzVolumeAttachment` `List`: the record, with the object metadata the
command prints. -/
structure AzVolumeAttachmentItem where
  «namespace» : String
  name : String
  /-- `CreationTimestamp`, in the unit of `time.Duration`. -/
  creationTimestamp : Int
  azv : AzVolumeAttachment

/-- The calls the command makes through `clientsetK8s` and `clientsetAzDisk`: each returns
what the API server sends, or the text of the error. -/
structure Clientsets where
  /-- `CoreV1().Pods(namespace).List`. -/
  listPods : String → Except String (List Pod)
  /-- `CoreV1().Pods(namespace).Get(name)`. -/
  getPod : String → String → Except String Pod
  /-- `CoreV1().Nodes().List`. -/
  listNodes : Except String (List Node)
  /-- `CoreV1().Nodes().Get(name)`. -/
  getNode : String → Except String Node
  /-- `DiskV1beta1().AzVolumeAttachments(namespace).List`. -/
  listAzVolumeAttachments : String → Except String (List AzVolumeAttachmentItem)

/-- The constants the command takes from the driver's packages, and the clock. -/
structure AnalyzeEnv where
  /-- `consts.PvcNameKey`. -/
  pvcNameKey : String
  /-- `consts.WellKnownTopologyKey`. -/
  wellKnownTopologyKey : String
  /-- `getDriverNamesapce()`. -/
  driverNamespace : String
  /-- `metav1.Now()`: the run is taken to read one time, where the source reads it per row. -/
  now : Int

/-- One choice of the constants, for instantiating statements made of every choice. -/
instance : Inhabited AnalyzeEnv :=
  ⟨{ pvcNameKey := "csi.storage.k8s.io/pvc/name"
     wellKnownTopologyKey := "topology.kubernetes.io/zone"
     driverNamespace := "azure-disk-csi"
     now := 0 }⟩

/-- `AzvaResource`, a row of `displayAzva`. -/
structure AzvaResource where
  resourceType : String
  «namespace» : String
  name : String
  age : Int
  requestRole : Role
  role : Role
  state : AzVolumeAttachmentAttachmentState
  deriving DecidableEq, Repr

/-- `AzvaResourceAll`, a row of `displayAzvaAll`. -/
structure AzvaResourceAll where
  podName : String
  nodeName : String
  zoneName : String
  «namespace» : String
  name : String
  age : Int
  requestRole : Role
  role : Role
  state : AzVolumeAttachmentAttachmentState
  deriving DecidableEq, Repr

/-- `azVolumeAttachment.Status.Detail.Role`, which dereferences the pointer `Status.Detail`. -/
def statusDetailRole (azv : AzVolumeAttachment) : Except Panic Role :=
  match azv.status.detail with
  | some detail => .ok detail.role
  | none => .error .nilPointerDereference

section

variable (E : AnalyzeEnv)

/-- The `AzvaResource` literal of the loops, for the row of `item` under `resourceType`. -/
def azvaResource (resourceType : String) (item : AzVolumeAttachmentItem) :
    Except Panic AzvaResource :=
  (statusDetailRole item.azv).map fun role =>
    { resourceType
      «namespace» := item.«namespace»
      name := item.name
      age := E.now - item.creationTimestamp
      requestRole := item.azv.spec.requestedRole
      role
      state := item.azv.status.state }

/-- The `AzvaResourceAll` literal of `GetAllAzVolumeAttachements`. -/
def azvaResourceAll (podName nodeName zoneName : String) (item : AzVolumeAttachmentItem) :
    Except Panic AzvaResourceAll :=
  (statusDetailRole item.azv).map fun role =>
    { podName, nodeName, zoneName
      «namespace» := item.«namespace»
      name := item.name
      age := E.now - item.creationTimestamp
      requestRole := item.azv.spec.requestedRole
      role
      state := item.azv.status.state }

/-- The body of the loop over `pod.Spec.Volumes` that fills `pvcClaimNameSet`:
`pvcClaimNameSet[claimName] = append(pvcClaimNameSet[claimName], pod.Name)` when the volume
is a claim.  A key absent from the Go map is `none`. -/
def addVolumeClaim (podName : String) (pvcClaimNameSet : String → Option (List String))
    (v : PodVolume) : String → Option (List String) :=
  match v.persistentVolumeClaim with
  | some claimName =>
    Function.update pvcClaimNameSet claimName
      (some ((pvcClaimNameSet claimName).getD [] ++ [podName]))
  | none => pvcClaimNameSet

/-- The loop over `pod.Spec.Volumes`. -/
def addPodClaims (pvcClaimNameSet : String → Option (List String)) (pod : Pod) :
    String → Option (List String) :=
  pod.volumes.foldl (addVolumeClaim pod.name) pvcClaimNameSet

/-- `azVolumeAttachment.Spec.VolumeContext[consts.PvcNameKey]`, `""` when absent. -/
def pvcClaimName (item : AzVolumeAttachmentItem) : String :=
  (item.azv.spec.volumeContext E.pvcNameKey).getD ""

/-- The two nested loops of `GetAzVolumeAttachementsByPod` and `GetAllAzVolumeAttachements`
over the records and the pod names of their claim: the pairs, in the order the rows are
appended.  A claim absent from `pvcClaimNameSet` gives no pair. -/
def podRecordPairs (pvcClaimNameSet : String → Option (List String))
    (item : AzVolumeAttachmentItem) : List (String × AzVolumeAttachmentItem) :=
  ((pvcClaimNameSet (pvcClaimName E item)).getD []).map fun pName => (pName, item)

/-- The body of the loop of `GetAllAzVolumeAttachements` over the records: fetch the record's
node, then append a row for each pod name of its claim. -/
def azvaResourcesAll (clientsets : Clientsets) (pvcClaimNameSet : String → Option (List String))
    (item : AzVolumeAttachmentItem) : Except Panic (List AzvaResourceAll) := do
  let nodeName := item.azv.spec.nodeName
  let node ← (clientsets.getNode nodeName).mapError .apiError
  let zoneName := (node.labels E.wellKnownTopologyKey).getD ""
  (podRecordPairs E pvcClaimNameSet item).mapM fun (pName, item) =>
    azvaResourceAll E pName nodeName zoneName item

/-- `GetAllAzVolumeAttachements`: the records whose claim a pod of `namespace` (`default` when
empty) mounts, once per mounting volume, with the pod, the node and the node's zone.  The
node of every record is fetched, matching or not. -/
def getAllAzVolumeAttachements (clientsets : Clientsets) («namespace» : String) :
    Except Panic (List AzvaResourceAll) := do
  let «namespace» := if «namespace» = "" then "default" else «namespace»
  let pods ← (clientsets.listPods «namespace»).mapError .apiError
  let pvcClaimNameSet := pods.foldl addPodClaims fun _ => none
  let azVolumeAttachments ←
    (clientsets.listAzVolumeAttachments E.driverNamespace).mapError .apiError
  let result ← azVolumeAttachments.mapM (azvaResourcesAll E clientsets pvcClaimNameSet)
  return result.flatten

/-- `GetAzVolumeAttachementsByPod`: the records whose claim the pod `podName` of `namespace`
(`default` when empty) mounts, once per mounting volume. -/
def getAzVolumeAttachementsByPod (clientsets : Clientsets) (podName «namespace» : String) :
    Except Panic (List AzvaResource) := do
  let «namespace» := if «namespace» = "" then "default" else «namespace»
  let pod ← (clientsets.getPod «namespace» podName).mapError .apiError
  let pvcClaimNameSet := addPodClaims (fun _ => none) pod
  let azVolumeAttachments ←
    (clientsets.listAzVolumeAttachments E.driverNamespace).mapError .apiError
  (azVolumeAttachments.flatMap (podRecordPairs E pvcClaimNameSet)).mapM fun (pName, item) =>
    azvaResource E pName item

/-- `GetAzVolumeAttachementsByNode`: the records on the node `nodeName`. -/
def getAzVolumeAttachementsByNode (clientsets : Clientsets) (nodeName : String) :
    Except Panic (List AzvaResource) := do
  let azVolumeAttachments ←
    (clientsets.listAzVolumeAttachments E.driverNamespace).mapError .apiError
  (azVolumeAttachments.filter fun item => item.azv.spec.nodeName == nodeName).mapM fun item =>
    azvaResource E item.azv.spec.nodeName item

/-- The body of the loop of `GetAzVolumeAttachementsByZone` that fills `nodeSet`: a node
whose topology label is `zoneName` is mapped to it. -/
def addZoneNode (zoneName : String) (nodeSet : String → Option String) (node : Node) :
    String → Option String :=
  if (node.labels E.wellKnownTopologyKey).getD "" = zoneName then
    Function.update nodeSet node.name (some ((node.labels E.wellKnownTopologyKey).getD ""))
  else nodeSet

/-- `GetAzVolumeAttachementsByZone`: the records on a node of the zone `zoneName`. -/
def getAzVolumeAttachementsByZone (clientsets : Clientsets) (zoneName : String) :
    Except Panic (List AzvaResource) := do
  let nodes ← clientsets.listNodes.mapError .apiError
  let nodeSet := nodes.foldl (addZoneNode E zoneName) fun _ => none
  let azVolumeAttachments ←
    (clientsets.listAzVolumeAttachments E.driverNamespace).mapError .apiError
  (azVolumeAttachments.filterMap fun item =>
      (nodeSet item.azv.spec.nodeName).map fun zName => (zName, item)).mapM fun (zName, item) =>
    azvaResource E zName item

/-- The flags of `azva`; `none` for a flag not given, whose value then reads as `""`. -/
structure AzvaFlags where
  pod : Option String
  node : Option String
  zone : Option String
  «namespace» : Option String

/-- `cmd.Flags().NFlag()`: the number of flags given. -/
def AzvaFlags.nFlag (flags : AzvaFlags) : Nat :=
  [flags.pod, flags.node, flags.zone, flags.«namespace»].countP Option.isSome

/-- What the command prints, after the query's debug print of its result. -/
inductive AzvaOutput
  /-- A line of `fmt.Printf` or `fmt.Println`. -/
  | printed (text : String)
  /-- `displayAzvaAll(resultAll)`. -/
  | tableAll (rows : List AzvaResourceAll)
  /-- `displayAzva(result, typeName)`. -/
  | table (rows : List AzvaResource) (typeName : String)
  /-- Nothing: one flag was given, with the value `""`. -/
  | nothing

/-- The line printed when a query returns no row. -/
def noAzVolumeAttachmentFound : AzvaOutput := .printed "No azVolumeAttachment was found"

/-- The `Run` function of `azvaCmd`. -/
def azvaCmdRun (clientsets : Clientsets) (flags : AzvaFlags) : Except Panic AzvaOutput := do
  let pod := flags.pod.getD ""
  let node := flags.node.getD ""
  let zone := flags.zone.getD ""
  let «namespace» := flags.«namespace».getD ""
  let numFlag : Int := flags.nFlag - if «namespace» ≠ "" then 1 else 0
  if numFlag > 1 then
    return .printed ("only one of the flags is allowed.\n" ++
      "Run \x27az-analyze --help\x27 for usage.\n")
  else if numFlag = 0 then
    let resultAll ← getAllAzVolumeAttachements E clientsets «namespace»
    return if resultAll.length ≠ 0 then .tableAll resultAll else noAzVolumeAttachmentFound
  else if pod ≠ "" then
    let result ← getAzVolumeAttachementsByPod E clientsets pod «namespace»
    return if result.length ≠ 0 then .table result "POD" else noAzVolumeAttachmentFound
  else if node ≠ "" then
    let result ← getAzVolumeAttachementsByNode E clientsets node
    return if result.length ≠ 0 then .table result "NODE" else noAzVolumeAttachmentFound
  else if zone ≠ "" then
    let result ← getAzVolumeAttachementsByZone E clientsets zone
    return if result.length ≠ 0 then .table result "ZONE" else noAzVolumeAttachmentFound
  else return .nothing

end

end AttachDetach
