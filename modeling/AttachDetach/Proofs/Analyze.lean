import AttachDetach.Analyze
import AttachDetach.Proofs.Retry

/-!
# `az-analyze azva` on a record without a detail

Each query of the command builds its rows in a loop that reads `Status.Detail.Role` of every
record it keeps, so it panics exactly when one of the records it keeps has no detail, once
its API calls succeed: the records on the node (`getAzVolumeAttachementsByNode_eq_error_iff`),
on a node of the zone (`getAzVolumeAttachementsByZone_eq_error_iff`), or whose claim the pod,
or a pod of the namespace, mounts (`getAzVolumeAttachementsByPod_eq_error_iff`,
`getAllAzVolumeAttachements_eq_error_iff`).  The maps the loops fill are described once:
`pvcClaimNameSet` holds, for a claim, the names of the pods mounting it, once per mounting
volume (`foldl_addPodClaims`), and `nodeSet` the nodes of the zone (`foldl_addZoneNode`).

The controller leaves records without a detail in reachable states: every record in
`AttachmentPending`, `Attaching` or `AttachmentFailed` (`Reachable.not_unattached_of_detail`),
a record that a client has just created among them.  On such a record every query whose
filter matches it panics, and so does the command (`azva_panics_on_unattached_record`).

When every record the node filter keeps has a detail, the command prints what it is for: one
row per record on the node, in the order of the list, or "No azVolumeAttachment was found"
(`azva_node_query_spec`).
-/

namespace AttachDetach

open AzVolumeAttachmentAttachmentState

/-! ## Loops in `Except` -/

section mapM

variable {α β ε : Type} {f : α → Except ε β}

/-- A loop that fails, fails at one of its iterations. -/
theorem exists_of_mapM_eq_error {e : ε} :
    ∀ {l : List α}, l.mapM f = .error e → ∃ x ∈ l, f x = .error e
  | [], h => by simp only [List.mapM_nil, pure, Except.pure, reduceCtorEq] at h
  | x :: l, h => by
    rw [List.mapM_cons] at h
    cases hx : f x with
    | error e' =>
      simp only [hx, bind, Except.bind, Except.error.injEq] at h
      exact ⟨x, List.mem_cons_self _ _, h ▸ hx⟩
    | ok b =>
      cases hl : l.mapM f with
      | error e' =>
        simp only [hx, hl, bind, Except.bind, Except.error.injEq] at h
        obtain ⟨y, hy, hfy⟩ := exists_of_mapM_eq_error hl
        exact ⟨y, List.mem_cons_of_mem _ hy, h ▸ hfy⟩
      | ok bs => simp only [hx, hl, bind, Except.bind, pure, Except.pure, reduceCtorEq] at h

/-- A loop whose iterations can fail only with `e` fails exactly when one of them does. -/
theorem mapM_eq_error_iff {e : ε} :
    ∀ {l : List α}, (∀ x ∈ l, ∀ e', f x = .error e' → e' = e) →
      (l.mapM f = .error e ↔ ∃ x ∈ l, f x = .error e)
  | [], _ => iff_of_false (fun h => by simp only [List.mapM_nil, pure, Except.pure,
      reduceCtorEq] at h) fun ⟨_, h, _⟩ => absurd h (List.not_mem_nil _)
  | x :: l, hall => by
    have ih := mapM_eq_error_iff (l := l) fun y hy => hall y (List.mem_cons_of_mem _ hy)
    rw [List.mapM_cons]
    simp only [List.mem_cons, or_and_right, exists_or, exists_eq_left]
    cases hx : f x with
    | error e' =>
      obtain rfl := hall x (List.mem_cons_self _ _) e' hx
      exact iff_of_true rfl (.inl rfl)
    | ok b =>
      rw [← ih]
      cases hl : l.mapM f <;>
        simp only [bind, Except.bind, pure, Except.pure, reduceCtorEq, false_or]

/-- A loop in which every iteration succeeds with the value `g` keeps returns what `g` keeps. -/
theorem mapM_eq_ok_filterMap {g : α → Option β} :
    ∀ {l : List α}, (∀ x ∈ l, ∃ b, f x = .ok b ∧ g x = some b) → l.mapM f = .ok (l.filterMap g)
  | [], _ => rfl
  | x :: l, h => by
    obtain ⟨b, hf, hg⟩ := h x (List.mem_cons_self _ _)
    rw [List.mapM_cons, hf, mapM_eq_ok_filterMap fun y hy => h y (List.mem_cons_of_mem _ hy),
      List.filterMap_cons_some hg]
    rfl

end mapM

section

variable (E : AnalyzeEnv)

/-! ## Rows -/

theorem statusDetailRole_eq_error {azv : AzVolumeAttachment} {e : Panic} :
    statusDetailRole azv = .error e ↔ e = .nilPointerDereference ∧ azv.status.detail = none := by
  unfold statusDetailRole
  split <;> simp_all [eq_comm]

theorem azvaResource_eq_error {resourceType : String} {item : AzVolumeAttachmentItem}
    {e : Panic} :
    azvaResource E resourceType item = .error e ↔
      e = .nilPointerDereference ∧ item.azv.status.detail = none := by
  rw [azvaResource, ← statusDetailRole_eq_error]
  cases statusDetailRole item.azv <;> simp [Except.map]

theorem azvaResourceAll_eq_error {podName nodeName zoneName : String}
    {item : AzVolumeAttachmentItem} {e : Panic} :
    azvaResourceAll E podName nodeName zoneName item = .error e ↔
      e = .nilPointerDereference ∧ item.azv.status.detail = none := by
  rw [azvaResourceAll, ← statusDetailRole_eq_error]
  cases statusDetailRole item.azv <;> simp [Except.map]

/-! ## The maps the loops fill -/

/-- The name of `pod` once for each of its volumes that mounts the claim `claimName`. -/
def claimPodNames (claimName : String) (pod : Pod) : List String :=
  (pod.volumes.filter fun v => v.persistentVolumeClaim == some claimName).map fun _ => pod.name

theorem foldl_addVolumeClaim (podName claimName : String) :
    ∀ (vs : List PodVolume) (m : String → Option (List String)),
      ((vs.foldl (addVolumeClaim podName) m) claimName).getD [] =
        (m claimName).getD [] ++
          (vs.filter fun v => v.persistentVolumeClaim == some claimName).map fun _ => podName
  | [], _ => by simp
  | v :: vs, m => by
    rw [List.foldl_cons, foldl_addVolumeClaim podName claimName vs]
    cases hv : v.persistentVolumeClaim with
    | none => simp [addVolumeClaim, hv]
    | some c =>
      by_cases h : c = claimName
      · subst h; simp [addVolumeClaim, hv]
      · simp [addVolumeClaim, hv, h, Function.update_noteq (Ne.symm h)]

/-- **`pvcClaimNameSet` holds, for a claim, the names of the pods mounting it, in the order of
the pods, once per mounting volume.** -/
theorem foldl_addPodClaims (claimName : String) :
    ∀ (pods : List Pod) (m : String → Option (List String)),
      ((pods.foldl addPodClaims m) claimName).getD [] =
        (m claimName).getD [] ++ pods.flatMap (claimPodNames claimName)
  | [], _ => by simp
  | pod :: pods, m => by
    rw [List.foldl_cons, foldl_addPodClaims claimName pods, addPodClaims, foldl_addVolumeClaim]
    simp [claimPodNames]

/-- The pods that `pvcClaimNameSet` lists for a claim are those with a volume that mounts it. -/
theorem mem_pvcClaimNameSet {pods : List Pod} {claimName pName : String} :
    pName ∈ ((pods.foldl addPodClaims fun _ => none) claimName).getD [] ↔
      ∃ pod ∈ pods, pod.name = pName ∧ ∃ v ∈ pod.volumes, v.persistentVolumeClaim = some claimName := by
  rw [foldl_addPodClaims]
  simp only [Option.getD_none, List.nil_append, List.mem_flatMap, claimPodNames, List.mem_map,
    List.mem_filter, beq_iff_eq]
  constructor
  · rintro ⟨pod, hpod, v, ⟨hv, hc⟩, rfl⟩; exact ⟨pod, hpod, rfl, v, hv, hc⟩
  · rintro ⟨pod, hpod, rfl, v, hv, hc⟩; exact ⟨pod, hpod, v, ⟨hv, hc⟩, rfl⟩

/-- **`nodeSet` maps the nodes whose topology label is `zoneName` to it, and no other.** -/
theorem foldl_addZoneNode (zoneName name : String) :
    ∀ (nodes : List Node) (m : String → Option String),
      nodes.foldl (addZoneNode E zoneName) m name =
        if ∃ node ∈ nodes, node.name = name ∧
            (node.labels E.wellKnownTopologyKey).getD "" = zoneName then some zoneName
        else m name
  | [], _ => by simp
  | node :: nodes, m => by
    rw [List.foldl_cons, foldl_addZoneNode zoneName name nodes]
    by_cases hrest : ∃ node ∈ nodes, node.name = name ∧
        (node.labels E.wellKnownTopologyKey).getD "" = zoneName
    · obtain ⟨n, hn, h⟩ := hrest
      rw [if_pos ⟨n, hn, h⟩, if_pos ⟨n, List.mem_cons_of_mem _ hn, h⟩]
    · simp only [if_neg hrest, List.mem_cons, or_and_right, exists_or, exists_eq_left, hrest,
        or_false]
      unfold addZoneNode
      by_cases hn : node.name = name
      · subst hn; split_ifs <;> simp_all
      · split_ifs <;> simp_all [Function.update_noteq (Ne.symm hn)]

/-! ## When each query panics on a missing detail -/

variable {E} {clientsets : Clientsets} {items : List AzVolumeAttachmentItem}

/-- **`GetAzVolumeAttachementsByNode` panics on a missing detail exactly when a record on the
node has none.** -/
theorem getAzVolumeAttachementsByNode_eq_error_iff
    (hlist : clientsets.listAzVolumeAttachments E.driverNamespace = .ok items) (nodeName : String) :
    getAzVolumeAttachementsByNode E clientsets nodeName = .error .nilPointerDereference ↔
      ∃ item ∈ items, item.azv.spec.nodeName = nodeName ∧ item.azv.status.detail = none := by
  simp only [getAzVolumeAttachementsByNode, hlist, Except.mapError, bind, Except.bind]
  rw [mapM_eq_error_iff fun _ _ _ h => ((azvaResource_eq_error E).1 h).1]
  simp [azvaResource_eq_error, and_assoc]

/-- **`GetAzVolumeAttachementsByZone` panics on a missing detail exactly when a record on a
node of the zone has none.** -/
theorem getAzVolumeAttachementsByZone_eq_error_iff {nodes : List Node}
    (hnodes : clientsets.listNodes = .ok nodes)
    (hlist : clientsets.listAzVolumeAttachments E.driverNamespace = .ok items) (zoneName : String) :
    getAzVolumeAttachementsByZone E clientsets zoneName = .error .nilPointerDereference ↔
      ∃ item ∈ items, (∃ node ∈ nodes, node.name = item.azv.spec.nodeName ∧
        (node.labels E.wellKnownTopologyKey).getD "" = zoneName) ∧
        item.azv.status.detail = none := by
  simp only [getAzVolumeAttachementsByZone, hnodes, hlist, Except.mapError, bind, Except.bind]
  rw [mapM_eq_error_iff fun _ _ _ h => ((azvaResource_eq_error E).1 h).1]
  simp only [List.mem_filterMap, foldl_addZoneNode]
  constructor
  · rintro ⟨⟨zName, item⟩, ⟨item', hitem, hpair⟩, herr⟩
    split_ifs at hpair with hzone <;> simp only [Option.map_some', Option.map_none',
      Option.some.injEq, Prod.mk.injEq, reduceCtorEq] at hpair
    obtain ⟨rfl, rfl⟩ := hpair
    exact ⟨_, hitem, hzone, ((azvaResource_eq_error E).1 herr).2⟩
  · rintro ⟨item, hitem, hzone, hdetail⟩
    exact ⟨(zoneName, item), ⟨item, hitem, by simp [hzone]⟩,
      (azvaResource_eq_error E).2 ⟨rfl, hdetail⟩⟩

theorem mem_podRecordPairs {pvcClaimNameSet : String → Option (List String)}
    {item : AzVolumeAttachmentItem} {p : String × AzVolumeAttachmentItem} :
    p ∈ podRecordPairs E pvcClaimNameSet item ↔
      p.2 = item ∧ p.1 ∈ (pvcClaimNameSet (pvcClaimName E item)).getD [] := by
  obtain ⟨pName, item'⟩ := p
  simp only [podRecordPairs, List.mem_map, Prod.mk.injEq]
  constructor
  · rintro ⟨a, ha, rfl, rfl⟩; exact ⟨rfl, ha⟩
  · rintro ⟨rfl, h⟩; exact ⟨pName, h, rfl, rfl⟩

/-- **`GetAzVolumeAttachementsByPod` panics on a missing detail exactly when a record whose
claim the pod mounts has none.** -/
theorem getAzVolumeAttachementsByPod_eq_error_iff {podName «namespace» : String} {pod : Pod}
    (hpod : clientsets.getPod (if «namespace» = "" then "default" else «namespace») podName =
      .ok pod)
    (hlist : clientsets.listAzVolumeAttachments E.driverNamespace = .ok items) :
    getAzVolumeAttachementsByPod E clientsets podName «namespace» =
        .error .nilPointerDereference ↔
      ∃ item ∈ items, (∃ v ∈ pod.volumes, v.persistentVolumeClaim = some (pvcClaimName E item)) ∧
        item.azv.status.detail = none := by
  simp only [getAzVolumeAttachementsByPod, hpod, hlist, Except.mapError, bind, Except.bind]
  rw [mapM_eq_error_iff fun _ _ _ h => ((azvaResource_eq_error E).1 h).1]
  have hset : addPodClaims (fun _ => none) pod = [pod].foldl addPodClaims fun _ => none := rfl
  simp only [List.mem_flatMap, mem_podRecordPairs, hset, mem_pvcClaimNameSet,
    List.mem_singleton, exists_eq_left]
  constructor
  · rintro ⟨⟨pName, item'⟩, ⟨item, hitem, rfl, -, hv⟩, herr⟩
    exact ⟨item', hitem, hv, ((azvaResource_eq_error E).1 herr).2⟩
  · rintro ⟨item, hitem, hv, hd⟩
    exact ⟨(pod.name, item), ⟨item, hitem, rfl, rfl, hv⟩,
      (azvaResource_eq_error E).2 ⟨rfl, hd⟩⟩

/-- The loop body of `GetAllAzVolumeAttachements`, once it has fetched the node, fails
exactly when the claim has a pod and the record no detail. -/
theorem azvaResourcesAll_eq_error {pvcClaimNameSet : String → Option (List String)}
    {item : AzVolumeAttachmentItem} {node : Node}
    (hnode : clientsets.getNode item.azv.spec.nodeName = .ok node) {e : Panic} :
    azvaResourcesAll E clientsets pvcClaimNameSet item = .error e ↔
      e = .nilPointerDereference ∧ (pvcClaimNameSet (pvcClaimName E item)).getD [] ≠ [] ∧
        item.azv.status.detail = none := by
  simp only [azvaResourcesAll, hnode, Except.mapError, bind, Except.bind]
  constructor
  · intro h
    obtain ⟨⟨pName, item'⟩, hp, hpe⟩ := exists_of_mapM_eq_error h
    obtain ⟨rfl, hd⟩ := (azvaResourceAll_eq_error E).1 hpe
    obtain ⟨rfl, hpName⟩ := mem_podRecordPairs.1 hp
    exact ⟨rfl, List.ne_nil_of_mem hpName, hd⟩
  · rintro ⟨rfl, hne, hd⟩
    rw [mapM_eq_error_iff fun _ _ _ h => ((azvaResourceAll_eq_error E).1 h).1]
    obtain ⟨pName, hpName⟩ := List.exists_mem_of_ne_nil _ hne
    exact ⟨(pName, item), mem_podRecordPairs.2 ⟨rfl, hpName⟩,
      (azvaResourceAll_eq_error E).2 ⟨rfl, hd⟩⟩

/-- **`GetAllAzVolumeAttachements`, when every record's node can be fetched, panics on a missing
detail exactly when a record whose claim a pod of the namespace mounts has none.** -/
theorem getAllAzVolumeAttachements_eq_error_iff {«namespace» : String} {pods : List Pod}
    (hpods : clientsets.listPods (if «namespace» = "" then "default" else «namespace») = .ok pods)
    (hlist : clientsets.listAzVolumeAttachments E.driverNamespace = .ok items)
    (hnodes : ∀ item ∈ items, ∃ node, clientsets.getNode item.azv.spec.nodeName = .ok node) :
    getAllAzVolumeAttachements E clientsets «namespace» = .error .nilPointerDereference ↔
      ∃ item ∈ items, (∃ pod ∈ pods, ∃ v ∈ pod.volumes,
        v.persistentVolumeClaim = some (pvcClaimName E item)) ∧ item.azv.status.detail = none := by
  have hrow : ∀ item ∈ items, ∀ e,
      azvaResourcesAll E clientsets (pods.foldl addPodClaims fun _ => none) item = .error e ↔
        e = .nilPointerDereference ∧ (∃ pod ∈ pods, ∃ v ∈ pod.volumes,
          v.persistentVolumeClaim = some (pvcClaimName E item)) ∧
          item.azv.status.detail = none := by
    intro item hitem e
    obtain ⟨node, hnode⟩ := hnodes item hitem
    rw [azvaResourcesAll_eq_error hnode]
    constructor
    · rintro ⟨he, hne, hd⟩
      obtain ⟨pod, hpod, -, hv⟩ := mem_pvcClaimNameSet.1 (List.exists_mem_of_ne_nil _ hne).choose_spec
      exact ⟨he, ⟨pod, hpod, hv⟩, hd⟩
    · rintro ⟨he, ⟨pod, hpod, hv⟩, hd⟩
      exact ⟨he, List.ne_nil_of_mem (mem_pvcClaimNameSet.2 ⟨pod, hpod, rfl, hv⟩), hd⟩
  have hall := fun item hitem e h => ((hrow item hitem e).1 h).1
  have hloop : items.mapM (azvaResourcesAll E clientsets (pods.foldl addPodClaims fun _ => none)) =
      .error .nilPointerDereference ↔ ∃ item ∈ items, (∃ pod ∈ pods, ∃ v ∈ pod.volumes,
        v.persistentVolumeClaim = some (pvcClaimName E item)) ∧ item.azv.status.detail = none := by
    rw [mapM_eq_error_iff hall]
    exact ⟨fun ⟨item, hitem, h⟩ => ⟨item, hitem, ((hrow item hitem _).1 h).2⟩,
      fun ⟨item, hitem, h⟩ => ⟨item, hitem, (hrow item hitem _).2 ⟨rfl, h⟩⟩⟩
  rw [← hloop]
  simp only [getAllAzVolumeAttachements, hpods, hlist, Except.mapError, bind, Except.bind]
  cases hm : items.mapM (azvaResourcesAll E clientsets (pods.foldl addPodClaims fun _ => none))
    with
  | error err =>
    obtain ⟨item, hitem, h⟩ := exists_of_mapM_eq_error hm
    obtain rfl := hall item hitem err h
    simp
  | ok v => simp [pure, Except.pure]

/-! ## The command -/

/-- With no filter, and the namespace flag absent or not `""`, the command runs
`GetAllAzVolumeAttachements` for the namespace flag's value. -/
theorem azvaCmdRun_no_filter {«namespace» : Option String} (hns : «namespace» ≠ some "") :
    azvaCmdRun E clientsets ⟨none, none, none, «namespace»⟩ =
      (getAllAzVolumeAttachements E clientsets («namespace».getD "")).map fun resultAll =>
        if resultAll.length ≠ 0 then .tableAll resultAll else noAzVolumeAttachmentFound := by
  unfold azvaCmdRun
  cases «namespace» with
  | none => cases h : getAllAzVolumeAttachements E clientsets "" <;>
      simp [AzvaFlags.nFlag, h, Except.map, bind, Except.bind, pure, Except.pure]
  | some ns =>
    have hns : ns ≠ "" := fun h => hns (h ▸ rfl)
    cases h : getAllAzVolumeAttachements E clientsets ns <;>
      simp [AzvaFlags.nFlag, hns, h, Except.map, bind, Except.bind, pure, Except.pure]

/-- With the node flag alone, of a value other than `""`, the command runs
`GetAzVolumeAttachementsByNode`. -/
theorem azvaCmdRun_node_flag {node : String} (hnode : node ≠ "") :
    azvaCmdRun E clientsets ⟨none, some node, none, none⟩ =
      (getAzVolumeAttachementsByNode E clientsets node).map fun result =>
        if result.length ≠ 0 then .table result "NODE" else noAzVolumeAttachmentFound := by
  unfold azvaCmdRun
  cases h : getAzVolumeAttachementsByNode E clientsets node <;>
    simp [AzvaFlags.nFlag, hnode, h, Except.map, bind, Except.bind, pure, Except.pure]

end

/-! ## Records without a detail are reachable -/

/-- A record of a reachable state in `AttachmentPending`, `Attaching` or `AttachmentFailed` has
no detail. -/
theorem Reachable.detail_eq_none {K : Env} {c : Cluster} (hc : Reachable K c) {a : Stored}
    (ha : c.store = some a)
    (hstate : a.obj.status.state = attachmentPending ∨ a.obj.status.state = attaching ∨
      a.obj.status.state = attachmentFailed) :
    a.obj.status.detail = none :=
  Option.not_isSome_iff_eq_none.1 fun hd => by
    obtain ⟨h₁, h₂, h₃⟩ := hc.not_unattached_of_detail ha hd
    rcases hstate with h | h | h <;> contradiction

/-- **`az-analyze azva` panics on every reachable record in `AttachmentPending`, `Attaching` or
`AttachmentFailed`.**  Such a record has no detail, and every query whose filter matches it
dereferences its `nil` `Status.Detail` once the calls before the read succeed: the node filter
naming its node, the zone filter naming the zone of its node, the pod filter naming a pod that
mounts its claim, and, when a pod of `default` mounts its claim and every record's node can be
fetched, the query of no filter.  The command panics with the node flag, and with no flag. -/
theorem azva_panics_on_unattached_record {K : Env} {c : Cluster} (hc : Reachable K c)
    {a : Stored} (ha : c.store = some a)
    (hstate : a.obj.status.state = attachmentPending ∨ a.obj.status.state = attaching ∨
      a.obj.status.state = attachmentFailed)
    (E : AnalyzeEnv) (clientsets : Clientsets) {items : List AzVolumeAttachmentItem}
    (hlist : clientsets.listAzVolumeAttachments E.driverNamespace = .ok items)
    {item : AzVolumeAttachmentItem} (hitem : item ∈ items) (hobj : item.azv = a.obj) :
    getAzVolumeAttachementsByNode E clientsets a.obj.spec.nodeName =
        .error .nilPointerDereference ∧
      (a.obj.spec.nodeName ≠ "" →
        azvaCmdRun E clientsets ⟨none, some a.obj.spec.nodeName, none, none⟩ =
          .error .nilPointerDereference) ∧
      (∀ nodes, clientsets.listNodes = .ok nodes → ∀ node ∈ nodes,
        node.name = a.obj.spec.nodeName →
        getAzVolumeAttachementsByZone E clientsets
          ((node.labels E.wellKnownTopologyKey).getD "") = .error .nilPointerDereference) ∧
      (∀ podName «namespace» pod,
        clientsets.getPod (if «namespace» = "" then "default" else «namespace») podName =
          .ok pod →
        (∃ v ∈ pod.volumes, v.persistentVolumeClaim = some (pvcClaimName E item)) →
        getAzVolumeAttachementsByPod E clientsets podName «namespace» =
          .error .nilPointerDereference) ∧
      (∀ pods, clientsets.listPods "default" = .ok pods →
        (∃ pod ∈ pods, ∃ v ∈ pod.volumes, v.persistentVolumeClaim = some (pvcClaimName E item)) →
        (∀ item ∈ items, ∃ node, clientsets.getNode item.azv.spec.nodeName = .ok node) →
        getAllAzVolumeAttachements E clientsets "" = .error .nilPointerDereference ∧
          azvaCmdRun E clientsets ⟨none, none, none, none⟩ = .error .nilPointerDereference) := by
  have hd : item.azv.status.detail = none := hobj ▸ hc.detail_eq_none ha hstate
  have hnode := (getAzVolumeAttachementsByNode_eq_error_iff hlist _).2
    ⟨item, hitem, by rw [hobj], hd⟩
  refine ⟨hnode, fun hne => by rw [azvaCmdRun_node_flag hne, hnode]; rfl,
    fun nodes hnodes node hn hname => ?_, fun podName ns pod hpod hv => ?_,
    fun pods hpods hmount hgets => ?_⟩
  · exact (getAzVolumeAttachementsByZone_eq_error_iff hnodes hlist _).2
      ⟨item, hitem, ⟨node, hn, by rw [hname, hobj], rfl⟩, hd⟩
  · exact (getAzVolumeAttachementsByPod_eq_error_iff hpod hlist).2 ⟨item, hitem, hv, hd⟩
  · have hall := (getAllAzVolumeAttachements_eq_error_iff
      (show clientsets.listPods (if "" = "" then "default" else "") = .ok pods from hpods) hlist hgets).2
      ⟨item, hitem, hmount, hd⟩
    exact ⟨hall, by rw [azvaCmdRun_no_filter (Option.some_ne_none "").symm, Option.getD_none, hall]; rfl⟩

/-- A cluster that shows one listed record: in every namespace the pod `pod`, mounting the
record's claim, and the record's node, in the zone `zone`. -/
def showingRecord (E : AnalyzeEnv) (item : AzVolumeAttachmentItem) : Clientsets where
  listPods _ := .ok [⟨"pod", [⟨some (pvcClaimName E item)⟩]⟩]
  getPod _ _ := .ok ⟨"pod", [⟨some (pvcClaimName E item)⟩]⟩
  listNodes := .ok [⟨item.azv.spec.nodeName, fun _ => some "zone"⟩]
  getNode _ := .ok ⟨item.azv.spec.nodeName, fun _ => some "zone"⟩
  listAzVolumeAttachments _ := .ok [item]

/-- The theorem for the record a client has just created, listed alone. -/
theorem azva_panics_on_created_record :
    ∃ c a, Reachable default c ∧ c.store = some a ∧
      a.obj.status.state = attachmentPending ∧
      let item : AzVolumeAttachmentItem := ⟨"azure-disk-csi", "disk-node", 0, a.obj⟩
      let clientsets := showingRecord default item
      getAzVolumeAttachementsByNode default clientsets a.obj.spec.nodeName =
          .error .nilPointerDereference ∧
        (a.obj.spec.nodeName ≠ "" →
          azvaCmdRun default clientsets ⟨none, some a.obj.spec.nodeName, none, none⟩ =
            .error .nilPointerDereference) ∧
        (∀ nodes, clientsets.listNodes = .ok nodes → ∀ node ∈ nodes,
          node.name = a.obj.spec.nodeName →
          getAzVolumeAttachementsByZone default clientsets
            ((node.labels (default : AnalyzeEnv).wellKnownTopologyKey).getD "") =
              .error .nilPointerDereference) ∧
        (∀ podName «namespace» pod,
          clientsets.getPod (if «namespace» = "" then "default" else «namespace») podName =
            .ok pod →
          (∃ v ∈ pod.volumes, v.persistentVolumeClaim = some (pvcClaimName default item)) →
          getAzVolumeAttachementsByPod default clientsets podName «namespace» =
            .error .nilPointerDereference) ∧
        (∀ pods, clientsets.listPods "default" = .ok pods →
          (∃ pod ∈ pods, ∃ v ∈ pod.volumes,
            v.persistentVolumeClaim = some (pvcClaimName default item)) →
          (∀ x ∈ [item], ∃ node, clientsets.getNode x.azv.spec.nodeName = .ok node) →
          getAllAzVolumeAttachements default clientsets "" = .error .nilPointerDereference ∧
            azvaCmdRun default clientsets ⟨none, none, none, none⟩ =
              .error .nilPointerDereference) := by
  have hc := Reachable.init.step (K := default) (e := .create pendingRecord) rfl
  exact ⟨_, _, hc, rfl, rfl,
    azva_panics_on_unattached_record hc rfl (.inl rfl) default _ rfl (List.mem_singleton_self _) rfl⟩

/-! ## The node query when every record on the node has a detail -/

section

variable (E : AnalyzeEnv)

/-- The rows the node query is meant to show: one for each listed record on the node, in the
order of the list, with the record's namespace, name, age, requested role, detail role and
state.  A record without a detail has no row. -/
def nodeQueryRows (nodeName : String) (items : List AzVolumeAttachmentItem) :
    List AzvaResource :=
  (items.filter fun item => item.azv.spec.nodeName == nodeName).filterMap fun item =>
    item.azv.status.detail.map fun detail =>
      { resourceType := nodeName
        «namespace» := item.«namespace»
        name := item.name
        age := E.now - item.creationTimestamp
        requestRole := item.azv.spec.requestedRole
        role := detail.role
        state := item.azv.status.state }

/-- When every record on the node has a detail, `GetAzVolumeAttachementsByNode` returns the
rows of `nodeQueryRows`. -/
theorem getAzVolumeAttachementsByNode_eq_ok {clientsets : Clientsets}
    {items : List AzVolumeAttachmentItem}
    (hlist : clientsets.listAzVolumeAttachments E.driverNamespace = .ok items) {nodeName : String}
    (hd : ∀ item ∈ items, item.azv.spec.nodeName = nodeName → item.azv.status.detail.isSome) :
    getAzVolumeAttachementsByNode E clientsets nodeName = .ok (nodeQueryRows E nodeName items) := by
  simp only [getAzVolumeAttachementsByNode, hlist, Except.mapError, bind, Except.bind]
  refine mapM_eq_ok_filterMap fun item hitem => ?_
  obtain ⟨hitem, hnode⟩ := List.mem_filter.1 hitem
  rw [beq_iff_eq] at hnode
  obtain ⟨detail, hdetail⟩ := Option.isSome_iff_exists.1 (hd item hitem hnode)
  exact ⟨_, by simp only [azvaResource, statusDetailRole, hdetail, hnode]; rfl,
    by rw [hdetail]; rfl⟩

/-- **`az-analyze azva --node n`, when the list call succeeds and every record on `n` has a
detail, prints the rows of `nodeQueryRows`, or "No azVolumeAttachment was found" when there
is none.**  What it prints after the query's debug `fmt.Println(result)`, which the model
leaves out. -/
theorem azva_node_query_spec (clientsets : Clientsets) {items : List AzVolumeAttachmentItem}
    (hlist : clientsets.listAzVolumeAttachments E.driverNamespace = .ok items)
    {nodeName : String} (hne : nodeName ≠ "")
    (hd : ∀ item ∈ items, item.azv.spec.nodeName = nodeName → item.azv.status.detail.isSome) :
    azvaCmdRun E clientsets ⟨none, some nodeName, none, none⟩ =
      .ok (if (nodeQueryRows E nodeName items).length ≠ 0 then
          .table (nodeQueryRows E nodeName items) "NODE"
        else noAzVolumeAttachmentFound) := by
  rw [azvaCmdRun_node_flag hne, getAzVolumeAttachementsByNode_eq_ok E hlist hd]
  rfl

/-- An attached record on the node `node`. -/
def attachedRecord : AzVolumeAttachment :=
  { pendingRecord with
    status := { detail := some { role := .primary, publishContext := fun _ => none }
                state := attached, error := none } }

/-- The theorem for a cluster that lists one attached record. -/
theorem azva_node_query_spec_attached :
    let item : AzVolumeAttachmentItem := ⟨"azure-disk-csi", "disk-node", 0, attachedRecord⟩
    (showingRecord default item).listAzVolumeAttachments (default : AnalyzeEnv).driverNamespace =
        .ok [item] ∧ "node" ≠ "" ∧
      (∀ x ∈ [item], x.azv.spec.nodeName = "node" → x.azv.status.detail.isSome) ∧
      azvaCmdRun default (showingRecord default item) ⟨none, some "node", none, none⟩ =
        .ok (if (nodeQueryRows default "node" [item]).length ≠ 0 then
            .table (nodeQueryRows default "node" [item]) "NODE"
          else noAzVolumeAttachmentFound) := by
  intro item
  have hd : ∀ x ∈ [item], x.azv.spec.nodeName = "node" → x.azv.status.detail.isSome := by
    simp [item, attachedRecord]
  exact ⟨rfl, by decide, hd, azva_node_query_spec default _ rfl (by decide) hd⟩

end

end AttachDetach
