import MonascaAgent.Schema

/-!
# MonascaAgent.Owner

Pod dimensions: `_get_pod_dimensions`, `_set_pod_owner_dimension` and `_get_deployment_name`.

A pod's dimensions are its name, its namespace, the configured labels it carries, and at most one
owner key. The owner is read from the first owner reference, or else from the
`kubernetes.io/created-by` annotation. A ReplicaSet owner becomes a `deployment` when the API
server marks the ReplicaSet as a Deployment's revision and its name loses a non-empty prefix to
the last hyphen.

* `deploymentNameOf_append` / `deploymentNameOf_cases` — what `"-".join(name.split("-")[:-1])`
  computes, for every string.
* `getPodDimensions_get?` — the dimensions, key by key, with the owner key given by
  `OwnerDimension`.
-/

namespace MonascaAgent
namespace Kubernetes

/-- The API path `_get_deployment_name` requests. -/
def replicaSetEndpoint (podOwnerName podNamespace : String) : String :=
  "/apis/extensions/v1beta1/namespaces/" ++ podNamespace ++ "/replicasets/" ++ podOwnerName

/-- `"-".join(name.split("-")[:-1])`. -/
def deploymentNameOf (name : String) : String := pyJoin "-" (pySplit name "-").dropLast

/-- `_get_deployment_name`; `none` is `None`, also when the lookup raises. -/
def getDeploymentName (k : Kubernetes) (podOwnerName podNamespace : String) : Option String :=
  match k.kubernetesConnector with
  | none => none
  | some getRequest =>
    match getRequest (replicaSetEndpoint podOwnerName podNamespace) with
    | .ok replicaSet =>
      match replicaSet.metadata.bind (·.annotations) with
      | some annotations =>
        if annotations.contains "deployment.kubernetes.io/revision" then
          some (deploymentNameOf podOwnerName)
        else none
      | none => none
    | .error _ => none

def setPodOwnerDimension (k : Kubernetes) (dims : Dims) (podOwnerType podOwnerName : String) :
    Except Err Dims :=
  if podOwnerType = "ReplicationController" then .ok (dims.insert "replication_controller" podOwnerName)
  else if podOwnerType = "ReplicaSet" then
    (if k.kubernetesConnector.isNone then .ok none
      else (dims.getItem "namespace").map (k.getDeploymentName podOwnerName)) >>= fun deploymentName =>
    if pyTruthy deploymentName then .ok (dims.insert "deployment" (deploymentName.getD ""))
    else .ok (dims.insert "replica_set" podOwnerName)
  else if podOwnerType = "DaemonSet" then .ok (dims.insert "daemon_set" podOwnerName)
  else .ok dims

/-- The owner the `created-by` annotation names, or what reading it raises. -/
def createdByOwner (k : Kubernetes) (m : PodMetadata) : Except Err (String × String) := do
  let annotations ← optItem m.annotations "annotations"
  let createdBy ← k.loadsCreatedBy (← annotations.getItem "kubernetes.io/created-by")
  let reference ← optItem createdBy.reference "reference"
  let kind ← optItem reference.kind "kind"
  let name ← optItem reference.name "name"
  pure (kind, name)

/-- The first half of `_get_pod_dimensions`: name, namespace and the configured labels. -/
def podLabelDims (m : PodMetadata) (kubernetesLabels : List String) : Dims :=
  let dims := (Dict.empty.insert "pod_name" m.name).insert "namespace" m.ns
  match m.labels with
  | some podLabels =>
    kubernetesLabels.foldl (fun dims label =>
      match podLabels.get? label with
      | some v => dims.insert label v
      | none => dims) dims
  | none => dims

/-- `_get_pod_dimensions`: an exception while reading the owner leaves the dimensions as they
were. -/
def getPodDimensions (k : Kubernetes) (m : PodMetadata) (kubernetesLabels : List String) : Dims :=
  let dims := podLabelDims m kubernetesLabels
  let owner :=
    match m.ownerReferences with
    | some (r :: _) => k.setPodOwnerDimension dims r.kind r.name
    | _ => do
      let (kind, name) ← k.createdByOwner m
      k.setPodOwnerDimension dims kind name
  match owner with
  | .ok dims' => dims'
  | .error _ => dims

/-! ## The deployment name -/

theorem splitOn_append_cons (c : Char) (xs ys : List Char) :
    (xs ++ c :: ys).splitOn c = xs.splitOn c ++ ys.splitOn c := by
  induction xs with
  | nil => simp [List.splitOn]
  | cons x xs ih =>
    simp only [List.cons_append, List.splitOn, List.splitOnP_cons] at ih ⊢
    split
    · rw [ih]; rfl
    · rw [ih]
      cases h : xs.splitOnP (· == c) with
      | nil => exact absurd h (List.splitOnP_ne_nil _ _)
      | cons p ps => rfl

theorem splitOn_of_not_mem {c : Char} {ys : List Char} (h : c ∉ ys) : ys.splitOn c = [ys] :=
  List.splitOnP_eq_single _ _ fun x hx hc => h (by rwa [← eq_of_beq hc])

theorem not_mem_or_last (c : Char) (xs : List Char) :
    c ∉ xs ∨ ∃ a b, xs = a ++ c :: b ∧ c ∉ b := by
  induction xs with
  | nil => exact .inl (List.not_mem_nil c)
  | cons x xs ih =>
    rcases ih with h | ⟨a, b, rfl, hb⟩
    · by_cases hx : x = c
      · exact .inr ⟨[], xs, by simp [hx], h⟩
      · exact .inl (by simp [Ne.symm hx, h])
    · exact .inr ⟨x :: a, b, rfl, hb⟩

theorem deploymentNameOf_data (name : String) :
    (deploymentNameOf name).data = ['-'].intercalate (name.data.splitOn '-').dropLast := by
  rw [deploymentNameOf, show "-" = String.singleton '-' from rfl, pySplit_single, pyJoin]
  simp [List.map_dropLast, Function.comp_def]

theorem deploymentNameOf_append (d s : String) (h : '-' ∉ s.toList) :
    deploymentNameOf (d ++ "-" ++ s) = d := by
  apply String.ext
  rw [deploymentNameOf_data, String.data_append, String.data_append]
  rw [List.append_assoc, show "-".data ++ s.data = '-' :: s.data from rfl, splitOn_append_cons,
    @splitOn_of_not_mem _ s.data h, List.dropLast_concat, List.intercalate_splitOn]

theorem deploymentNameOf_cases (name : String) :
    ('-' ∉ name.toList ∧ deploymentNameOf name = "") ∨
      ∃ s, name = deploymentNameOf name ++ "-" ++ s ∧ '-' ∉ s.toList := by
  rcases not_mem_or_last '-' name.toList with h | ⟨a, b, hab, hb⟩
  · refine .inl ⟨h, String.ext ?_⟩
    rw [deploymentNameOf_data, @splitOn_of_not_mem _ name.data h]; rfl
  · have : name = String.mk a ++ "-" ++ String.mk b := String.ext (by simpa using hab)
    refine .inr ⟨String.mk b, ?_, hb⟩
    rw [this, deploymentNameOf_append _ _ hb]

/-! ## The owner dimension -/

def ownerDimensions : List String :=
  ["replication_controller", "replica_set", "deployment", "daemon_set"]

/-- The keys `_get_pod_dimensions` sets itself. -/
def reservedDimensions : List String := "pod_name" :: "namespace" :: ownerDimensions

/-- The owner kind and name of a pod: its first owner reference; else the `kind` and `name` of the
`reference` of its `kubernetes.io/created-by` annotation, when the annotation decodes and names
both. -/
def podOwner (k : Kubernetes) (m : PodMetadata) : Option (String × String) :=
  match m.ownerReferences with
  | some (r :: _) => some (r.kind, r.name)
  | _ =>
    match (m.annotations.bind (·.get? "kubernetes.io/created-by")).map k.loadsCreatedBy with
    | some (.ok createdBy) =>
      match createdBy.reference.bind (·.kind), createdBy.reference.bind (·.name) with
      | some kind, some name => some (kind, name)
      | _, _ => none
    | _ => none

/-- A connector is set, and the ReplicaSet it returns for `name` in `ns` from the extensions API
carries the revision marker. -/
def DeploymentManaged (k : Kubernetes) (ns name : String) : Prop :=
  ∃ getRequest replicaSet annotations, k.kubernetesConnector = some getRequest ∧
    getRequest ("/apis/extensions/v1beta1/namespaces/" ++ ns ++ "/replicasets/" ++ name) =
      .ok replicaSet ∧
    replicaSet.metadata.bind (·.annotations) = some annotations ∧
    annotations.contains "deployment.kubernetes.io/revision" = true

/-- The owner dimension of a pod in namespace `ns` owned by `kind`/`name`, if any. -/
inductive OwnerDimension (k : Kubernetes) (ns : String) :
    String → String → Option (String × String) → Prop
  | replicationController (name : String) :
    OwnerDimension k ns "ReplicationController" name (some ("replication_controller", name))
  | deployment (name d s : String) : DeploymentManaged k ns name → name = d ++ "-" ++ s →
    '-' ∉ s.toList → d ≠ "" → OwnerDimension k ns "ReplicaSet" name (some ("deployment", d))
  | replicaSet (name : String) :
    ¬ (DeploymentManaged k ns name ∧ ∃ d s, name = d ++ "-" ++ s ∧ '-' ∉ s.toList ∧ d ≠ "") →
    OwnerDimension k ns "ReplicaSet" name (some ("replica_set", name))
  | daemonSet (name : String) : OwnerDimension k ns "DaemonSet" name (some ("daemon_set", name))
  | other (kind name : String) : kind ∉ ["ReplicationController", "ReplicaSet", "DaemonSet"] →
    OwnerDimension k ns kind name none

theorem getDeploymentName_eq_some (k : Kubernetes) (name ns d : String) :
    k.getDeploymentName name ns = some d ↔ DeploymentManaged k ns name ∧ d = deploymentNameOf name := by
  unfold getDeploymentName DeploymentManaged replicaSetEndpoint
  rcases k.kubernetesConnector with _ | getRequest
  · simp
  · rcases hr : getRequest ("/apis/extensions/v1beta1/namespaces/" ++ ns ++ "/replicasets/" ++ name) with
      _ | replicaSet
    · simp [hr]
    · rcases ha : replicaSet.metadata.bind (·.annotations) with _ | annotations
      · simp [hr, ha]
      · by_cases hc : annotations.contains "deployment.kubernetes.io/revision" = true
        · simp only [hr, ha, hc, if_true, Option.some.injEq]
          exact ⟨fun h => ⟨⟨getRequest, replicaSet, annotations, rfl, hr, ha, hc⟩, h.symm⟩,
            fun h => h.2.symm⟩
        · simp only [hr, ha, hc, Bool.false_eq_true, if_false, reduceCtorEq, false_iff]
          rintro ⟨⟨g, r, a, hg, hg', ha', hc'⟩, -⟩
          cases hg; rw [hr] at hg'; cases hg'; rw [ha] at ha'; cases ha'; exact hc hc'

theorem setPodOwnerDimension_replicaSet_eq (k : Kubernetes) {dims : Dims} {ns : String}
    (name : String) (hns : dims.get? "namespace" = some ns) :
    k.setPodOwnerDimension dims "ReplicaSet" name =
      if pyTruthy (k.getDeploymentName name ns) then
        .ok (dims.insert "deployment" ((k.getDeploymentName name ns).getD ""))
      else .ok (dims.insert "replica_set" name) := by
  have hname : (if k.kubernetesConnector.isNone then (.ok none : Except Err (Option String))
      else (dims.getItem "namespace").map (k.getDeploymentName name)) =
      .ok (k.getDeploymentName name ns) := by
    rw [(Dict.getItem_eq_ok _ _ _).mpr hns]
    cases hc : k.kubernetesConnector
    · simp [getDeploymentName, hc]
    · rfl
  unfold setPodOwnerDimension
  rw [if_neg (by decide), if_pos rfl, hname]
  rfl

theorem setPodOwnerDimension_replicaSet (k : Kubernetes) {dims : Dims} {ns : String} (name : String)
    (hns : dims.get? "namespace" = some ns) :
    ∃ o, OwnerDimension k ns "ReplicaSet" name o ∧
      k.setPodOwnerDimension dims "ReplicaSet" name = .ok (o.elim dims fun kv => dims.insert kv.1 kv.2) := by
  rw [setPodOwnerDimension_replicaSet_eq k name hns]
  by_cases ht : pyTruthy (k.getDeploymentName name ns) = true
  · obtain ⟨d, hd⟩ : ∃ d, k.getDeploymentName name ns = some d := by
      cases h : k.getDeploymentName name ns <;> simp_all
    have hne : d ≠ "" := by simpa [hd] using ht
    obtain ⟨hm, rfl⟩ := (getDeploymentName_eq_some k name ns d).mp hd
    rcases deploymentNameOf_cases name with ⟨-, h0⟩ | ⟨s, hs, hs'⟩
    · exact absurd h0 hne
    · exact ⟨_, .deployment _ _ s hm hs hs' hne, by simp [hd, hne]⟩
  · refine ⟨some ("replica_set", name), .replicaSet _ ?_, ?_⟩
    · rintro ⟨hm, d, s, rfl, hs, hd⟩
      have := (getDeploymentName_eq_some k _ ns d).mpr ⟨hm, (deploymentNameOf_append d s hs).symm⟩
      simp [this, hd] at ht
    · simp [ht]

/-- `_set_pod_owner_dimension` sets the one key `OwnerDimension` names, or none. -/
theorem setPodOwnerDimension_eq (k : Kubernetes) {dims : Dims} {ns : String} (kind name : String)
    (hns : dims.get? "namespace" = some ns) :
    ∃ o, OwnerDimension k ns kind name o ∧
      k.setPodOwnerDimension dims kind name = .ok (o.elim dims fun kv => dims.insert kv.1 kv.2) := by
  by_cases h1 : kind = "ReplicationController"
  · subst h1; exact ⟨_, .replicationController name, by simp [setPodOwnerDimension]⟩
  by_cases h2 : kind = "ReplicaSet"
  · subst h2; exact setPodOwnerDimension_replicaSet k name hns
  by_cases h3 : kind = "DaemonSet"
  · subst h3; exact ⟨_, .daemonSet name, by simp [setPodOwnerDimension]⟩
  exact ⟨none, .other kind name (by simp [h1, h2, h3]), by simp [setPodOwnerDimension, h1, h2, h3]⟩

theorem OwnerDimension.key_mem {k : Kubernetes} {ns kind name : String} {kv : String × String}
    (h : OwnerDimension k ns kind name (some kv)) : kv.1 ∈ ownerDimensions := by
  cases h <;> simp [ownerDimensions]

/-- A Deployment's ReplicaSet, named by the Deployment's name and a hyphen-free suffix, gives the
`deployment` key with that name. -/
theorem OwnerDimension.eq_deployment {k : Kubernetes} {ns name : String} {o : Option (String × String)}
    (h : OwnerDimension k ns "ReplicaSet" name o) (hm : DeploymentManaged k ns name) {d s : String}
    (hds : name = d ++ "-" ++ s) (hs : '-' ∉ s.toList) (hd : d ≠ "") :
    o = some ("deployment", d) := by
  generalize hk : "ReplicaSet" = kind at h
  cases h with
  | replicationController => exact absurd hk (by decide)
  | deployment _ d' s' _ hds' hs' _ =>
    rw [← deploymentNameOf_append d' s' hs', ← hds', hds, deploymentNameOf_append d s hs]
  | replicaSet _ hn => exact absurd ⟨hm, d, s, hds, hs, hd⟩ hn
  | daemonSet => exact absurd hk (by decide)
  | other _ _ hk' => exact absurd (hk ▸ by decide) hk'

/-! ## The pod dimensions -/

theorem get?_foldl_labels (podLabels : Dict String) (L : List String) (dims : Dims) (x : String) :
    (L.foldl (fun dims label =>
        match podLabels.get? label with
        | some v => dims.insert label v
        | none => dims) dims).get? x =
      (if x ∈ L then podLabels.get? x else none).or (dims.get? x) := by
  induction L generalizing dims with
  | nil => simp
  | cons l L ih =>
    rw [List.foldl_cons, ih]
    by_cases hx : x = l
    · subst hx; cases h : podLabels.get? x <;> by_cases hL : x ∈ L <;> simp [h, hL]
    · cases h : podLabels.get? l <;> simp [hx]

theorem get?_podLabelDims (m : PodMetadata) (L : List String) (x : String) :
    (podLabelDims m L).get? x =
      (if x ∈ L then m.labels.bind (·.get? x) else none).or
        (if x = "namespace" then some m.ns else if x = "pod_name" then some m.name else none) := by
  unfold podLabelDims
  cases m.labels with
  | none => by_cases hL : x ∈ L <;> simp [hL]
  | some podLabels => simp [get?_foldl_labels]

theorem createdByOwner_toOption (k : Kubernetes) (m : PodMetadata) :
    (k.createdByOwner m).toOption =
      match (m.annotations.bind (·.get? "kubernetes.io/created-by")).map k.loadsCreatedBy with
      | some (.ok createdBy) =>
        match createdBy.reference.bind (·.kind), createdBy.reference.bind (·.name) with
        | some kind, some name => some (kind, name)
        | _, _ => none
      | _ => none := by
  unfold createdByOwner
  rcases m.annotations with _ | annotations
  · rfl
  cases hc : annotations.get? "kubernetes.io/created-by" with
  | none => simp [optItem, Dict.getItem, hc, bind, Except.bind, Except.toOption]
  | some s =>
    cases hl : k.loadsCreatedBy s with
    | error e => simp [optItem, Dict.getItem, hc, hl, bind, Except.bind, Except.toOption]
    | ok createdBy =>
      rcases createdBy with ⟨_ | ⟨_ | kind, _ | name⟩⟩ <;>
        simp [optItem, Dict.getItem, hc, hl, bind, Except.bind, Except.toOption, pure, Except.pure]

/-- `_get_pod_dimensions` reads the owner `podOwner` names, if any; an exception while it does
leaves the name, namespace and label dimensions. -/
theorem getPodDimensions_eq (k : Kubernetes) (m : PodMetadata) (L : List String) :
    k.getPodDimensions m L =
      match podOwner k m with
      | some (kind, name) =>
        match k.setPodOwnerDimension (podLabelDims m L) kind name with
        | .ok dims => dims
        | .error _ => podLabelDims m L
      | none => podLabelDims m L := by
  unfold getPodDimensions podOwner
  rw [← createdByOwner_toOption]
  rcases m.ownerReferences with _ | _ | ⟨r, rs⟩ <;> try rfl
  all_goals cases k.createdByOwner m <;> rfl

/-- `_get_pod_dimensions` writes no key but the pod's name, namespace and owner, and the
configured labels. -/
theorem getPodDimensions_get?_eq_none (k : Kubernetes) (m : PodMetadata) (L : List String)
    {x : String} (hr : x ∉ reservedDimensions) (hl : x ∉ L) : (k.getPodDimensions m L).get? x = none := by
  simp only [reservedDimensions, List.mem_cons, not_or] at hr
  have hx : (podLabelDims m L).get? x = none := by simp [get?_podLabelDims, hl, hr.1, hr.2.1]
  rw [getPodDimensions_eq]
  rcases podOwner k m with _ | ⟨kind, name⟩
  · exact hx
  obtain ⟨ns, hns⟩ : ∃ ns, (podLabelDims m L).get? "namespace" = some ns := by
    cases h : (if "namespace" ∈ L then m.labels.bind (·.get? "namespace") else none) <;>
      simp [get?_podLabelDims, h]
  obtain ⟨o, ho, heq⟩ := setPodOwnerDimension_eq k kind name hns
  dsimp only
  rw [heq]
  rcases o with _ | ⟨key, v⟩
  · exact hx
  · have : x ≠ key := fun h => hr.2.2 (h ▸ ho.key_mem)
    simp [this, hx]

section Labels

variable {L : List String} (hL : ∀ l ∈ L, l ∉ reservedDimensions)
include hL

theorem podLabelDims_namespace (m : PodMetadata) : (podLabelDims m L).get? "namespace" = some m.ns := by
  have : "namespace" ∉ L := fun h => hL _ h (by simp [reservedDimensions])
  simp [get?_podLabelDims, this]

theorem get?_ownerDims (m : PodMetadata) {o : Option (String × String)}
    (ho : ∀ kv, o = some kv → kv.1 ∈ ownerDimensions) (x : String) :
    (o.elim (podLabelDims m L) fun kv => (podLabelDims m L).insert kv.1 kv.2).get? x =
      if x = "pod_name" then some m.name
      else if x = "namespace" then some m.ns
      else if x ∈ L then m.labels.bind (·.get? x)
      else o.bind fun kv => if kv.1 = x then some kv.2 else none := by
  have hres : ∀ y ∈ reservedDimensions, y ∉ L := fun y hy hyL => hL y hyL hy
  by_cases h1 : x = "pod_name"
  · subst h1
    have : "pod_name" ∉ L := hres _ (by simp [reservedDimensions])
    rcases o with _ | ⟨key, v⟩
    · simp [get?_podLabelDims, this]
    · have hk := ho _ rfl
      have : key ≠ "pod_name" := by rintro rfl; simp [ownerDimensions] at hk
      simp [get?_podLabelDims, *, Ne.symm this]
  by_cases h2 : x = "namespace"
  · subst h2
    have : "namespace" ∉ L := hres _ (by simp [reservedDimensions])
    rcases o with _ | ⟨key, v⟩
    · simp [get?_podLabelDims, this]
    · have hk := ho _ rfl
      have : key ≠ "namespace" := by rintro rfl; simp [ownerDimensions] at hk
      simp [get?_podLabelDims, *, Ne.symm this]
  rcases o with _ | ⟨key, v⟩
  · by_cases hx : x ∈ L <;> simp [get?_podLabelDims, h1, h2, hx]
  · have hk : key ∉ L := hres key (List.mem_cons_of_mem _ (List.mem_cons_of_mem _ (ho _ rfl)))
    by_cases hx : x ∈ L
    · have : x ≠ key := by rintro rfl; exact hk hx
      simp [get?_podLabelDims, h1, h2, hx, this]
    · by_cases hxk : x = key
      · subst hxk; simp [h1, h2, hx]
      · simp [get?_podLabelDims, h1, h2, hx, hxk, Ne.symm hxk]

/-- `_get_pod_dimensions` adds to the name, namespace and label dimensions the owner key that
`OwnerDimension` gives for the pod's owner, if any. -/
theorem getPodDimensions_owner (k : Kubernetes) (m : PodMetadata) :
    ∃ o, (match podOwner k m with
          | some (kind, name) => OwnerDimension k m.ns kind name o
          | none => o = none) ∧
      k.getPodDimensions m L = o.elim (podLabelDims m L) (fun kv => (podLabelDims m L).insert kv.1 kv.2) ∧
      ∀ kv, o = some kv → kv.1 ∈ ownerDimensions := by
  have hns := podLabelDims_namespace hL m
  rw [getPodDimensions_eq]
  cases podOwner k m with
  | none => exact ⟨none, rfl, rfl, by simp⟩
  | some kn =>
    obtain ⟨o, ho, heq⟩ := setPodOwnerDimension_eq k kn.1 kn.2 hns
    exact ⟨o, ho, by simp only [heq], fun kv hkv => (hkv ▸ ho).key_mem⟩

/-- `_get_pod_dimensions`, key by key: the pod's name and namespace, each configured label the
pod carries, and the owner key `OwnerDimension` gives for the pod's owner, if any; no other key. -/
theorem getPodDimensions_get? (k : Kubernetes) (m : PodMetadata) :
    ∃ o, (match podOwner k m with
          | some (kind, name) => OwnerDimension k m.ns kind name o
          | none => o = none) ∧
      ∀ x, (k.getPodDimensions m L).get? x =
        if x = "pod_name" then some m.name
        else if x = "namespace" then some m.ns
        else if x ∈ L then m.labels.bind (·.get? x)
        else o.bind fun kv => if kv.1 = x then some kv.2 else none := by
  obtain ⟨o, ho, heq, hkey⟩ := getPodDimensions_owner hL k m
  exact ⟨o, ho, heq ▸ get?_ownerDims hL m hkey⟩

theorem getPodDimensions_name_ns (k : Kubernetes) (m : PodMetadata) :
    (k.getPodDimensions m L).get? "pod_name" = some m.name ∧
      (k.getPodDimensions m L).get? "namespace" = some m.ns := by
  obtain ⟨o, -, heq, hkey⟩ := getPodDimensions_owner hL k m
  rw [heq, get?_ownerDims hL m hkey, get?_ownerDims hL m hkey]
  simp

end Labels

/-- A check with no connector, for which no annotation decodes. -/
def plainCheck : Kubernetes :=
  ⟨false, none, fun _ => .error .valueError, fun _ => .error .valueError, fun _ => .error .valueError⟩

/-- A check whose connector knows `web-7d9f8c6b8` in `default` as a Deployment's revision, and
which decodes the `created-by` annotation `rs` to that ReplicaSet. -/
def deployCheck : Kubernetes :=
  ⟨false,
    some fun path =>
      if path = "/apis/extensions/v1beta1/namespaces/default/replicasets/web-7d9f8c6b8" then
        .ok ⟨some ⟨some ⟨[("deployment.kubernetes.io/revision", "3")], by decide⟩⟩⟩
      else .error .transport,
    fun s => if s = "rs" then .ok ⟨some ⟨some "ReplicaSet", some "web-7d9f8c6b8"⟩⟩ else .error .valueError,
    fun _ => .error .valueError, fun _ => .error .valueError⟩

/-- A pod of the Deployment `web` with no owner references, only the `created-by` annotation. -/
def webPod : PodMetadata :=
  ⟨"web-7d9f8c6b8-xk2p4", "default", some ⟨[("app", "web")], by decide⟩, none,
    some ⟨[("kubernetes.io/created-by", "rs")], by decide⟩⟩

theorem getPodDimensions_get?_webPod :
    (∀ l ∈ ["app"], l ∉ reservedDimensions) ∧
      podOwner deployCheck webPod = some ("ReplicaSet", "web-7d9f8c6b8") ∧
      (deployCheck.getPodDimensions webPod ["app"]).get? "deployment" = some "web" ∧
      (deployCheck.getPodDimensions webPod ["app"]).get? "replica_set" = none ∧
      (deployCheck.getPodDimensions webPod ["app"]).get? "app" = some "web" := by
  have hL : ∀ l ∈ ["app"], l ∉ reservedDimensions := by decide
  have hown : podOwner deployCheck webPod = some ("ReplicaSet", "web-7d9f8c6b8") := rfl
  have hm : DeploymentManaged deployCheck "default" "web-7d9f8c6b8" := ⟨_, _, _, rfl, rfl, rfl, rfl⟩
  obtain ⟨o, ho, hx⟩ := getPodDimensions_get? hL deployCheck webPod
  rw [hown] at ho
  rw [ho.eq_deployment hm (show "web-7d9f8c6b8" = "web" ++ "-" ++ "7d9f8c6b8" from rfl) (by decide)
    (by decide)] at hx
  exact ⟨hL, hown, (hx _).trans (by decide), (hx _).trans (by decide), (hx _).trans (by decide)⟩

end Kubernetes
end MonascaAgent
