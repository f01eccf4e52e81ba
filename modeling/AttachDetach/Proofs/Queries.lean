import AttachDetach.Proofs.Analyze

/-!
# What the `azva` queries show

`azva_node_query_spec` says what the node filter prints; this file says it of the three
other queries, each of which joins the records with other objects through a map it fills
first.

* With no filter (`GetAllAzVolumeAttachements`), each record is joined with the pods of the
  namespace through its claim name: one row for each volume of a pod that mounts the claim,
  in the order of the records and then of the pods, with the record's node and that node's
  zone (`allQueryRows`).
* With `--pod`, the same join with the one pod (`podQueryRows`).
* With `--zone`, each record is kept when its node is one of the listed nodes whose zone label
  is the zone (`zoneQueryRows`).

The specifications read the pods' volumes and the nodes' labels directly; the code goes
through `pvcClaimNameSet` and `nodeSet`, which `foldl_addPodClaims` and `foldl_addZoneNode`
describe.  Each holds when the API calls succeed and every record that the query keeps has a
detail; without one the query panics (`azva_panics_on_unattached_record`).
-/

namespace AttachDetach

open AzVolumeAttachmentAttachmentState

/-- A loop in which every iteration succeeds returns the list of the results. -/
theorem mapM_eq_ok_map {α β ε : Type} {f : α → Except ε β} {g : α → β} {l : List α}
    (h : ∀ x ∈ l, f x = .ok (g x)) : l.mapM f = .ok (l.map g) := by
  rw [← List.filterMap_eq_map]
  exact mapM_eq_ok_filterMap fun x hx => ⟨g x, h x hx, rfl⟩

section

variable (E : AnalyzeEnv)

/-! ## The rows -/

/-- The `AzvaResource` row of `item` under `resourceType`, for the role of its detail. -/
def resourceRow (resourceType : String) (item : AzVolumeAttachmentItem) (role : Role) :
    AzvaResource :=
  { resourceType
    «namespace» := item.«namespace»
    name := item.name
    age := E.now - item.creationTimestamp
    requestRole := item.azv.spec.requestedRole
    role
    state := item.azv.status.state }

/-- The `AzvaResourceAll` row of `item` for a pod, a node and a zone, for the role of its
detail. -/
def resourceAllRow (podName nodeName zoneName : String) (item : AzVolumeAttachmentItem)
    (role : Role) : AzvaResourceAll :=
  { podName, nodeName, zoneName
    «namespace» := item.«namespace»
    name := item.name
    age := E.now - item.creationTimestamp
    requestRole := item.azv.spec.requestedRole
    role
    state := item.azv.status.state }

theorem azvaResource_eq_map (resourceType : String) (item : AzVolumeAttachmentItem) :
    azvaResource E resourceType item =
      (statusDetailRole item.azv).map (resourceRow E resourceType item) := rfl

theorem azvaResourceAll_eq_map (podName nodeName zoneName : String)
    (item : AzVolumeAttachmentItem) :
    azvaResourceAll E podName nodeName zoneName item =
      (statusDetailRole item.azv).map (resourceAllRow E podName nodeName zoneName item) := rfl

/-- A row built from a record with a detail is the one of its role. -/
theorem map_statusDetailRole {β : Type} {azv : AzVolumeAttachment} {detail}
    (hd : azv.status.detail = some detail) (row : Role → β) :
    (statusDetailRole azv).map row = .ok (row detail.role) := by
  simp only [statusDetailRole, hd]
  rfl

/-! ## Specifications -/

/-- The rows the query with no filter is meant to show: for each listed record, in the order
of the list, one row for each volume of a pod of `pods` that mounts the record's claim, pods
in the order of the list, with the record's node and that node's zone label (`""` when it has
none).  A record without a detail has no row. -/
def allQueryRows (nodes : String → Node) (pods : List Pod) (items : List AzVolumeAttachmentItem) :
    List AzvaResourceAll :=
  items.flatMap fun item =>
    (pods.flatMap (claimPodNames (pvcClaimName E item))).filterMap fun podName =>
      item.azv.status.detail.map fun detail =>
        resourceAllRow E podName item.azv.spec.nodeName
          (((nodes item.azv.spec.nodeName).labels E.wellKnownTopologyKey).getD "") item detail.role

/-- The rows the pod filter is meant to show: for each listed record, one row for each volume
of `pod` that mounts the record's claim.  A record without a detail has no row. -/
def podQueryRows (pod : Pod) (items : List AzVolumeAttachmentItem) : List AzvaResource :=
  items.flatMap fun item =>
    (claimPodNames (pvcClaimName E item) pod).filterMap fun podName =>
      item.azv.status.detail.map fun detail => resourceRow E podName item detail.role

/-- Whether one of `nodes` is the node `name`, with zone label `zoneName`. -/
def inZone (zoneName : String) (nodes : List Node) (name : String) : Bool :=
  nodes.any fun node =>
    node.name == name && (node.labels E.wellKnownTopologyKey).getD "" == zoneName

/-- The rows the zone filter is meant to show: one for each listed record on a node of the
zone, in the order of the list.  A record without a detail has no row. -/
def zoneQueryRows (zoneName : String) (nodes : List Node) (items : List AzVolumeAttachmentItem) :
    List AzvaResource :=
  (items.filter fun item => inZone E zoneName nodes item.azv.spec.nodeName).filterMap fun item =>
    item.azv.status.detail.map fun detail => resourceRow E zoneName item detail.role

/-! ## The queries meet them -/

variable {E} {clientsets : Clientsets} {items : List AzVolumeAttachmentItem}

theorem pvcClaimNameSet_getD (pods : List Pod) (claimName : String) :
    ((pods.foldl addPodClaims fun _ => none) claimName).getD [] =
      pods.flatMap (claimPodNames claimName) := by
  rw [foldl_addPodClaims]
  rfl

/-- The rows of one record, once its node is fetched: one for each pod name of its claim. -/
theorem azvaResourcesAll_eq_ok {pvcClaimNameSet : String → Option (List String)}
    {item : AzVolumeAttachmentItem} {node : Node}
    (hnode : clientsets.getNode item.azv.spec.nodeName = .ok node)
    (hd : (pvcClaimNameSet (pvcClaimName E item)).getD [] ≠ [] → item.azv.status.detail.isSome) :
    azvaResourcesAll E clientsets pvcClaimNameSet item =
      .ok (((pvcClaimNameSet (pvcClaimName E item)).getD []).filterMap fun podName =>
        item.azv.status.detail.map fun detail =>
          resourceAllRow E podName item.azv.spec.nodeName
            ((node.labels E.wellKnownTopologyKey).getD "") item detail.role) := by
  simp only [azvaResourcesAll, hnode, Except.mapError, bind, Except.bind, podRecordPairs]
  rw [mapM_eq_ok_filterMap (g := fun p => p.2.azv.status.detail.map fun detail =>
      resourceAllRow E p.1 item.azv.spec.nodeName ((node.labels E.wellKnownTopologyKey).getD "")
        p.2 detail.role) fun p hp => ?_, List.filterMap_map]
  · rfl
  · obtain ⟨podName, hname, rfl⟩ := List.mem_map.1 hp
    obtain ⟨detail, hdetail⟩ := Option.isSome_iff_exists.1 (hd (List.ne_nil_of_mem hname))
    exact ⟨_, by rw [azvaResourceAll_eq_map, map_statusDetailRole hdetail], by simp [hdetail]⟩

/-- **`GetAllAzVolumeAttachements`, when its calls succeed and every record whose claim a pod
of the namespace mounts has a detail, returns the rows of `allQueryRows`.** -/
theorem getAllAzVolumeAttachements_eq_ok {«namespace» : String} {pods : List Pod}
    (hpods : clientsets.listPods (if «namespace» = "" then "default" else «namespace») = .ok pods)
    (hlist : clientsets.listAzVolumeAttachments E.driverNamespace = .ok items)
    (nodes : String → Node)
    (hnodes : ∀ item ∈ items, clientsets.getNode item.azv.spec.nodeName =
      .ok (nodes item.azv.spec.nodeName))
    (hd : ∀ item ∈ items, (∃ pod ∈ pods, ∃ v ∈ pod.volumes,
      v.persistentVolumeClaim = some (pvcClaimName E item)) → item.azv.status.detail.isSome) :
    getAllAzVolumeAttachements E clientsets «namespace» =
      .ok (allQueryRows E nodes pods items) := by
  simp only [getAllAzVolumeAttachements, hpods, hlist, Except.mapError, bind, Except.bind]
  rw [mapM_eq_ok_map fun item hitem => azvaResourcesAll_eq_ok (hnodes item hitem) fun hne =>
    hd item hitem ?_]
  · simp only [pvcClaimNameSet_getD]
    rfl
  · obtain ⟨pod, hpod, -, hv⟩ := mem_pvcClaimNameSet.1 (List.exists_mem_of_ne_nil _ hne).choose_spec
    exact ⟨pod, hpod, hv⟩

/-- **`GetAzVolumeAttachementsByPod`, when its calls succeed and every record whose claim the
pod mounts has a detail, returns the rows of `podQueryRows`.** -/
theorem getAzVolumeAttachementsByPod_eq_ok {podName «namespace» : String} {pod : Pod}
    (hpod : clientsets.getPod (if «namespace» = "" then "default" else «namespace») podName =
      .ok pod)
    (hlist : clientsets.listAzVolumeAttachments E.driverNamespace = .ok items)
    (hd : ∀ item ∈ items, (∃ v ∈ pod.volumes,
      v.persistentVolumeClaim = some (pvcClaimName E item)) → item.azv.status.detail.isSome) :
    getAzVolumeAttachementsByPod E clientsets podName «namespace» =
      .ok (podQueryRows E pod items) := by
  simp only [getAzVolumeAttachementsByPod, hpod, hlist, Except.mapError, bind, Except.bind]
  have hset : addPodClaims (fun _ => none) pod = [pod].foldl addPodClaims fun _ => none := rfl
  rw [mapM_eq_ok_filterMap (g := fun p => p.2.azv.status.detail.map fun detail =>
      resourceRow E p.1 p.2 detail.role) fun p hp => ?_]
  · simp only [List.filterMap_flatMap, podRecordPairs, List.filterMap_map, hset,
      pvcClaimNameSet_getD, List.flatMap_cons, List.flatMap_nil, List.append_nil]
    rfl
  · obtain ⟨item, hitem, hp⟩ := List.mem_flatMap.1 hp
    obtain ⟨rfl, hname⟩ := mem_podRecordPairs.1 hp
    rw [hset, mem_pvcClaimNameSet] at hname
    obtain ⟨pod', hpod', -, hv⟩ := hname
    obtain rfl := List.mem_singleton.1 hpod'
    obtain ⟨detail, hdetail⟩ := Option.isSome_iff_exists.1 (hd _ hitem hv)
    exact ⟨_, by rw [azvaResource_eq_map, map_statusDetailRole hdetail], by simp [hdetail]⟩

theorem inZone_iff {zoneName : String} {nodes : List Node} {name : String} :
    inZone E zoneName nodes name = true ↔
      ∃ node ∈ nodes, node.name = name ∧
        (node.labels E.wellKnownTopologyKey).getD "" = zoneName := by
  simp [inZone]

/-- **`GetAzVolumeAttachementsByZone`, when its calls succeed and every record on a node of the
zone has a detail, returns the rows of `zoneQueryRows`.** -/
theorem getAzVolumeAttachementsByZone_eq_ok {nodes : List Node}
    (hnodes : clientsets.listNodes = .ok nodes)
    (hlist : clientsets.listAzVolumeAttachments E.driverNamespace = .ok items) {zoneName : String}
    (hd : ∀ item ∈ items, inZone E zoneName nodes item.azv.spec.nodeName = true →
      item.azv.status.detail.isSome) :
    getAzVolumeAttachementsByZone E clientsets zoneName =
      .ok (zoneQueryRows E zoneName nodes items) := by
  have hset : ∀ name, nodes.foldl (addZoneNode E zoneName) (fun _ => none) name =
      if inZone E zoneName nodes name then some zoneName else none := fun name => by
    rw [foldl_addZoneNode]
    simp only [inZone_iff]
  simp only [getAzVolumeAttachementsByZone, hnodes, hlist, Except.mapError, bind, Except.bind,
    hset]
  rw [mapM_eq_ok_filterMap (g := fun p => p.2.azv.status.detail.map fun detail =>
      resourceRow E p.1 p.2 detail.role) fun p hp => ?_, List.filterMap_filterMap, zoneQueryRows,
    List.filterMap_filter]
  · congr 2
    funext item
    split <;> rfl
  · obtain ⟨item, hitem, hp⟩ := List.mem_filterMap.1 hp
    split at hp
    · obtain rfl := (Option.some.inj hp).symm
      obtain ⟨detail, hdetail⟩ := Option.isSome_iff_exists.1 (hd item hitem ‹_›)
      exact ⟨_, by rw [azvaResource_eq_map, map_statusDetailRole hdetail], by simp [hdetail]⟩
    · cases hp

/-! ## The command -/

/-- With the pod flag of a value other than `""`, no other filter, and the namespace flag
absent or not `""`, the command runs `GetAzVolumeAttachementsByPod`. -/
theorem azvaCmdRun_pod_flag {pod : String} (hpod : pod ≠ "") {«namespace» : Option String}
    (hns : «namespace» ≠ some "") :
    azvaCmdRun E clientsets ⟨some pod, none, none, «namespace»⟩ =
      (getAzVolumeAttachementsByPod E clientsets pod («namespace».getD "")).map fun result =>
        if result.length ≠ 0 then .table result "POD" else noAzVolumeAttachmentFound := by
  unfold azvaCmdRun
  cases «namespace» with
  | none => cases h : getAzVolumeAttachementsByPod E clientsets pod "" <;>
      simp [AzvaFlags.nFlag, hpod, h, Except.map, bind, Except.bind, pure, Except.pure]
  | some ns =>
    have hns : ns ≠ "" := fun h => hns (h ▸ rfl)
    cases h : getAzVolumeAttachementsByPod E clientsets pod ns <;>
      simp [AzvaFlags.nFlag, hpod, hns, h, Except.map, bind, Except.bind, pure, Except.pure]

/-- With the zone flag of a value other than `""`, no other filter, and the namespace flag
absent or not `""`, the command runs `GetAzVolumeAttachementsByZone`. -/
theorem azvaCmdRun_zone_flag {zone : String} (hzone : zone ≠ "") {«namespace» : Option String}
    (hns : «namespace» ≠ some "") :
    azvaCmdRun E clientsets ⟨none, none, some zone, «namespace»⟩ =
      (getAzVolumeAttachementsByZone E clientsets zone).map fun result =>
        if result.length ≠ 0 then .table result "ZONE" else noAzVolumeAttachmentFound := by
  unfold azvaCmdRun
  cases «namespace» with
  | none => cases h : getAzVolumeAttachementsByZone E clientsets zone <;>
      simp [AzvaFlags.nFlag, hzone, h, Except.map, bind, Except.bind, pure, Except.pure]
  | some ns =>
    have hns : ns ≠ "" := fun h => hns (h ▸ rfl)
    cases h : getAzVolumeAttachementsByZone E clientsets zone <;>
      simp [AzvaFlags.nFlag, hzone, hns, h, Except.map, bind, Except.bind, pure, Except.pure]

end

/-! ## What the command prints -/

section

variable (E : AnalyzeEnv)

/-- **`az-analyze azva` with no filter, when its calls succeed and every record whose claim a pod
of the namespace mounts has a detail, prints the rows of `allQueryRows`**: the records joined
with the pods mounting their claims, with node and zone, or "No azVolumeAttachment was found"
when there is none.  What it prints after the query's debug `fmt.Println(result)`, which
the model leaves out. -/
theorem azva_all_query_spec (clientsets : Clientsets) {«namespace» : Option String}
    (hns : «namespace» ≠ some "") {pods : List Pod} {items : List AzVolumeAttachmentItem}
    (hpods : clientsets.listPods
      (if «namespace».getD "" = "" then "default" else «namespace».getD "") = .ok pods)
    (hlist : clientsets.listAzVolumeAttachments E.driverNamespace = .ok items)
    (nodes : String → Node)
    (hnodes : ∀ item ∈ items, clientsets.getNode item.azv.spec.nodeName =
      .ok (nodes item.azv.spec.nodeName))
    (hd : ∀ item ∈ items, (∃ pod ∈ pods, ∃ v ∈ pod.volumes,
      v.persistentVolumeClaim = some (pvcClaimName E item)) → item.azv.status.detail.isSome) :
    azvaCmdRun E clientsets ⟨none, none, none, «namespace»⟩ =
      .ok (if (allQueryRows E nodes pods items).length ≠ 0 then
          .tableAll (allQueryRows E nodes pods items)
        else noAzVolumeAttachmentFound) := by
  rw [azvaCmdRun_no_filter hns, getAllAzVolumeAttachements_eq_ok hpods hlist nodes hnodes hd]
  rfl

/-- The record of `azva_node_query_spec_attached`, listed in `azure-disk-csi`. -/
def attachedItem : AzVolumeAttachmentItem := ⟨"azure-disk-csi", "disk-node", 0, attachedRecord⟩

/-- The theorem for a cluster that lists one attached record, whose claim a pod mounts. -/
theorem azva_all_query_spec_attached :
    (none : Option String) ≠ some "" ∧
      (showingRecord default attachedItem).listPods "default" =
        .ok [⟨"pod", [⟨some (pvcClaimName default attachedItem)⟩]⟩] ∧
      (showingRecord default attachedItem).listAzVolumeAttachments
        (default : AnalyzeEnv).driverNamespace = .ok [attachedItem] ∧
      azvaCmdRun default (showingRecord default attachedItem) ⟨none, none, none, none⟩ =
        .ok (if (allQueryRows default (fun _ => ⟨"node", fun _ => some "zone"⟩)
              [⟨"pod", [⟨some (pvcClaimName default attachedItem)⟩]⟩] [attachedItem]).length ≠ 0
            then .tableAll (allQueryRows default (fun _ => ⟨"node", fun _ => some "zone"⟩)
              [⟨"pod", [⟨some (pvcClaimName default attachedItem)⟩]⟩] [attachedItem])
          else noAzVolumeAttachmentFound) :=
  ⟨by decide, rfl, rfl, azva_all_query_spec default _ (by decide) rfl rfl _ (fun _ _ => rfl)
    fun _ h _ => by simp [List.mem_singleton.1 h, attachedItem, attachedRecord]⟩

/-- **`az-analyze azva --pod p`, when its calls succeed and every record whose claim `p` mounts
has a detail, prints the rows of `podQueryRows`**, or "No azVolumeAttachment was found" when
there is none.  What it prints after the query's debug `fmt.Println(result)`, which the model
leaves out. -/
theorem azva_pod_query_spec (clientsets : Clientsets) {podName : String} (hname : podName ≠ "")
    {«namespace» : Option String} (hns : «namespace» ≠ some "") {pod : Pod}
    {items : List AzVolumeAttachmentItem}
    (hpod : clientsets.getPod
      (if «namespace».getD "" = "" then "default" else «namespace».getD "") podName = .ok pod)
    (hlist : clientsets.listAzVolumeAttachments E.driverNamespace = .ok items)
    (hd : ∀ item ∈ items, (∃ v ∈ pod.volumes,
      v.persistentVolumeClaim = some (pvcClaimName E item)) → item.azv.status.detail.isSome) :
    azvaCmdRun E clientsets ⟨some podName, none, none, «namespace»⟩ =
      .ok (if (podQueryRows E pod items).length ≠ 0 then .table (podQueryRows E pod items) "POD"
        else noAzVolumeAttachmentFound) := by
  rw [azvaCmdRun_pod_flag hname hns, getAzVolumeAttachementsByPod_eq_ok hpod hlist hd]
  rfl

/-- The theorem for the pod that mounts the claim of the one attached record. -/
theorem azva_pod_query_spec_attached :
    "pod" ≠ "" ∧ (none : Option String) ≠ some "" ∧
      (showingRecord default attachedItem).getPod "default" "pod" =
        .ok ⟨"pod", [⟨some (pvcClaimName default attachedItem)⟩]⟩ ∧
      azvaCmdRun default (showingRecord default attachedItem) ⟨some "pod", none, none, none⟩ =
        .ok (if (podQueryRows default ⟨"pod", [⟨some (pvcClaimName default attachedItem)⟩]⟩
              [attachedItem]).length ≠ 0
            then .table (podQueryRows default ⟨"pod", [⟨some (pvcClaimName default attachedItem)⟩]⟩
              [attachedItem]) "POD"
          else noAzVolumeAttachmentFound) :=
  ⟨by decide, by decide, rfl, azva_pod_query_spec default _ (by decide) (by decide) rfl rfl
    fun _ h _ => by simp [List.mem_singleton.1 h, attachedItem, attachedRecord]⟩

/-- **`az-analyze azva --zone z`, when its calls succeed and every record on a node of `z` has
a detail, prints the rows of `zoneQueryRows`**, or "No azVolumeAttachment was found" when there
is none.  What it prints after the query's debug `fmt.Println(result)`, which the model leaves
out. -/
theorem azva_zone_query_spec (clientsets : Clientsets) {zoneName : String} (hzone : zoneName ≠ "")
    {«namespace» : Option String} (hns : «namespace» ≠ some "") {nodes : List Node}
    {items : List AzVolumeAttachmentItem} (hnodes : clientsets.listNodes = .ok nodes)
    (hlist : clientsets.listAzVolumeAttachments E.driverNamespace = .ok items)
    (hd : ∀ item ∈ items, inZone E zoneName nodes item.azv.spec.nodeName = true →
      item.azv.status.detail.isSome) :
    azvaCmdRun E clientsets ⟨none, none, some zoneName, «namespace»⟩ =
      .ok (if (zoneQueryRows E zoneName nodes items).length ≠ 0 then
          .table (zoneQueryRows E zoneName nodes items) "ZONE"
        else noAzVolumeAttachmentFound) := by
  rw [azvaCmdRun_zone_flag hzone hns, getAzVolumeAttachementsByZone_eq_ok hnodes hlist hd]
  rfl

/-- The theorem for the zone of the one attached record's node. -/
theorem azva_zone_query_spec_attached :
    "zone" ≠ "" ∧ (none : Option String) ≠ some "" ∧
      (showingRecord default attachedItem).listNodes = .ok [⟨"node", fun _ => some "zone"⟩] ∧
      azvaCmdRun default (showingRecord default attachedItem) ⟨none, none, some "zone", none⟩ =
        .ok (if (zoneQueryRows default "zone" [⟨"node", fun _ => some "zone"⟩]
              [attachedItem]).length ≠ 0
            then .table (zoneQueryRows default "zone" [⟨"node", fun _ => some "zone"⟩]
              [attachedItem]) "ZONE"
          else noAzVolumeAttachmentFound) :=
  ⟨by decide, by decide, rfl, azva_zone_query_spec default _ (by decide) (by decide) rfl rfl
    fun _ h _ => by simp [List.mem_singleton.1 h, attachedItem, attachedRecord]⟩

end

end AttachDetach
