import MonascaAgent.Pods

/-!
# MonascaAgent.Correlate

`_get_container_dimensions`: which dimensions, and which pod, a cAdvisor entry gets.

The code picks the first alias of the entry's spec that occurs in the stats key (`''` when none
does; `firstAliasIn` says so with `find?`) and looks it up in the container-ID map `_process_pods`
built. A hit returns that map's record itself, with the pod key read from it. A miss builds fresh
dimensions from the instance dimensions and the spec (`unaffiliatedRecord`), and takes a pod key
from the `io.kubernetes.pod.*` labels only when that key is in the pod-dimension map.

* `getContainerDimensions_correlates` — against the pods: a non-empty chosen alias found in the
  map gives the record of a container status recorded under it and the key of that status's pod;
  an alias no status was recorded under gives `unaffiliatedRecord` of the first alias.
* `getContainerDimensions_sentinel` — `_process_pods` records a status without `containerID`
  under `''`, so an entry none of whose aliases occurs in its key gets such a status's record.
-/

namespace MonascaAgent
namespace Kubernetes

open CheckM

/-- The loop of `_get_container_dimensions` over `aliases`: the first alias occurring in the
stats key `container`, or `''`. -/
def containerIdOf (container : String) : List String → String
  | [] => ""
  | a :: rest => if pyContains a container then a else containerIdOf container rest

/-- The alias the correlation goes by: the first alias that occurs in the stats key `container`,
`''` when none does. -/
def firstAliasIn (container : String) (aliases : List String) : String :=
  (aliases.find? fun a => decide (a.toList <:+: container.toList)).getD ""

theorem containerIdOf_eq_firstAliasIn (container : String) (aliases : List String) :
    containerIdOf container aliases = firstAliasIn container aliases := by
  induction aliases with
  | nil => rfl
  | cons a rest ih =>
    unfold firstAliasIn at ih ⊢
    by_cases h : pyContains a container <;> simp_all [containerIdOf, List.find?_cons, pyContains]

/-- The `else` branch of `_get_container_dimensions`: fresh dimensions, merged with a pod's
when the entry's labels name a pod of the pod-dimension map. -/
def unaffiliatedDims (instanceDims : Dims) (containerSpec : ContainerSpec)
    (podDimensionMap : Dict Dims) : Except Err (Option String × Dims) := do
  let containerDims := instanceDims.insert "image" containerSpec.image
  let containerDims := containerDims.insert "container_name" (← pyIndex containerSpec.aliases 0)
  match containerSpec.labels with
  | some containerLabels =>
    if containerLabels.contains "io.kubernetes.pod.namespace" &&
        containerLabels.contains "io.kubernetes.pod.name" then do
      let podKey := (← containerLabels.getItem "io.kubernetes.pod.name") ++
        (← containerLabels.getItem "io.kubernetes.pod.namespace")
      match podDimensionMap.get? podKey with
      | some podDims =>
        let containerDims := containerDims.update podDims
        pure (some podKey,
          containerDims.insert "container_name" (← containerLabels.getItem "io.kubernetes.container.name"))
      | none => pure (none, containerDims)
    else pure (none, containerDims)
  | none => pure (none, containerDims)

/-- `_get_container_dimensions`: the pod key (`None` is `none`) and the container's dimensions. -/
def getContainerDimensions (container : String) (instanceDims : Dims) (containerSpec : ContainerSpec)
    (containerDimensionMap podDimensionMap : Dict Dims) : Except Err (Option String × Dims) :=
  match containerDimensionMap.get? (containerIdOf container containerSpec.aliases) with
  | some containerDims => do
    let podKey ← podKeyOf containerDims
    pure (some podKey, containerDims)
  | none => unaffiliatedDims instanceDims containerSpec podDimensionMap

theorem podKeyOf_statusDims (k : Kubernetes) (L : List String) (dims : Dims) (m : PodMetadata)
    (cs : ContainerStatus) :
    podKeyOf (statusDims (k.podDimsOf L dims m) cs) = .ok (k.podKey L dims m) := by
  have h := podKeyOf_podDimsOf k L dims m
  simpa [podKeyOf, statusDims, Dict.getItem] using h

theorem processPods_get? {k : Kubernetes} {L : List String} {dims : Dims} {pods : List Pod}
    {M D : Dict Dims} {out out' : List Sample}
    (hP : exec (k.processPods pods L dims Dict.empty Dict.empty) out = (.ok (M, D), out')) (c : String) :
    M.get? c = Dict.lookupKey c (pods.flatMap (k.containerRecords L dims)).reverse := by
  rw [(processPods_state hP).1, Dict.get?_insertAll]
  cases Dict.lookupKey c _ <;> rfl

theorem mem_containerRecords {k : Kubernetes} {L : List String} {dims : Dims} {pods : List Pod}
    {c : String} {cd : Dims} (h : (c, cd) ∈ pods.flatMap (k.containerRecords L dims)) :
    ∃ pod ∈ pods, ∃ cs ∈ walkedStatuses pod, recordedId cs = c ∧
      cd = statusDims (k.podDimsOf L dims pod.metadata) cs := by
  simp only [List.mem_flatMap, containerRecords, List.mem_map, Prod.mk.injEq] at h
  obtain ⟨pod, hp, cs, hcs, rfl, rfl⟩ := h
  exact ⟨pod, hp, cs, hcs, rfl, rfl⟩

def recordedIds (pods : List Pod) : List String :=
  pods.flatMap fun p => (walkedStatuses p).map recordedId

theorem get?_containerIdMap_eq_none {k : Kubernetes} {L : List String} {dims : Dims}
    {pods : List Pod} {M D : Dict Dims} {out out' : List Sample}
    (hP : exec (k.processPods pods L dims Dict.empty Dict.empty) out = (.ok (M, D), out')) (c : String) :
    M.get? c = none ↔ c ∉ recordedIds pods := by
  have h : (pods.flatMap (k.containerRecords L dims)).map Prod.fst = recordedIds pods := by
    simp [recordedIds, containerRecords, List.map_flatMap, Function.comp_def]
  rw [processPods_get? hP, Dict.lookupKey_eq_none, List.map_reverse, List.mem_reverse, h]

theorem mem_recordedIds {pods : List Pod} {c : String} :
    c ∈ recordedIds pods ↔ ∃ pod ∈ pods, ∃ cs ∈ walkedStatuses pod, recordedId cs = c := by
  simp [recordedIds]

theorem getContainerDimensions_of_recorded {k : Kubernetes} {L : List String} {dims : Dims}
    {pods : List Pod} {M D : Dict Dims} {out out' : List Sample}
    (hP : exec (k.processPods pods L dims Dict.empty Dict.empty) out = (.ok (M, D), out'))
    {container : String} (instanceDims : Dims) {spec : ContainerSpec} {cd : Dims}
    (hcd : M.get? (containerIdOf container spec.aliases) = some cd) :
    ∃ pod ∈ pods, ∃ cs ∈ walkedStatuses pod, recordedId cs = containerIdOf container spec.aliases ∧
      cd = statusDims (k.podDimsOf L dims pod.metadata) cs ∧
      getContainerDimensions container instanceDims spec M D =
        .ok (some (k.podKey L dims pod.metadata), cd) := by
  obtain ⟨pod, hp, cs, hcs, hid, rfl⟩ :=
    mem_containerRecords (List.mem_reverse.mp (Dict.lookupKey_mem ((processPods_get? hP _).symm.trans hcd)))
  refine ⟨pod, hp, cs, hcs, hid, rfl, ?_⟩
  simp [getContainerDimensions, hcd, podKeyOf_statusDims, bind, Except.bind, pure, Except.pure]

/-! ## The link between the two maps -/

/-- What `_process_containers` relies on: every record of the container-ID map names, by its
`pod_name` and `namespace`, a key of the pod-dimension map. -/
def MapsLinked (M D : Dict Dims) : Prop :=
  ∀ c cd, M.get? c = some cd → ∃ key, podKeyOf cd = .ok key ∧ key ∈ D.keys

theorem podKey_mem_podRecords {k : Kubernetes} {L : List String} {dims : Dims} {pods : List Pod}
    {pod : Pod} (hp : pod ∈ pods) {cs : ContainerStatus} (hcs : cs ∈ walkedStatuses pod) :
    k.podKey L dims pod.metadata ∈ (pods.flatMap (k.podRecords L dims)).map Prod.fst := by
  have hw : walkedStatuses pod ≠ [] := List.ne_nil_of_mem hcs
  simp only [List.mem_map, List.mem_flatMap, podRecords, hw, if_false]
  exact ⟨(k.podKey L dims pod.metadata, k.podDimsOf L dims pod.metadata), ⟨pod, hp, by simp [hw]⟩, rfl⟩

theorem processPods_linked {k : Kubernetes} {L : List String} {dims : Dims} {pods : List Pod}
    {M D : Dict Dims} {out out' : List Sample}
    (hP : exec (k.processPods pods L dims Dict.empty Dict.empty) out = (.ok (M, D), out')) :
    MapsLinked M D := by
  intro c cd hcd
  obtain ⟨pod, hp, cs, hcs, -, rfl⟩ :=
    mem_containerRecords (List.mem_reverse.mp (Dict.lookupKey_mem ((processPods_get? hP _).symm.trans hcd)))
  refine ⟨_, podKeyOf_statusDims k L dims pod.metadata cs, ?_⟩
  rw [(processPods_state hP).2, Dict.mem_keys_insertAll]
  exact .inl (podKey_mem_podRecords hp hcs)

theorem unaffiliatedDims_podKey_mem {instanceDims : Dims} {spec : ContainerSpec} {D : Dict Dims}
    {key : String} {cd : Dims} (h : unaffiliatedDims instanceDims spec D = .ok (some key, cd)) :
    key ∈ D.keys := by
  unfold unaffiliatedDims at h
  simp only [bind, Except.bind, pure, Except.pure] at h
  repeat' split at h
  all_goals try cases h
  exact (Dict.mem_keys_iff _ _).mpr ⟨_, by assumption⟩

theorem getContainerDimensions_podKey_mem {M D : Dict Dims} (hL : MapsLinked M D)
    {container : String} {instanceDims : Dims} {spec : ContainerSpec} {key : String} {cd : Dims}
    (h : getContainerDimensions container instanceDims spec M D = .ok (some key, cd)) :
    key ∈ D.keys := by
  unfold getContainerDimensions at h
  split at h
  · rename_i cd₀ hc
    obtain ⟨key', hk, hmem⟩ := hL _ _ hc
    simp only [hk, bind, Except.bind, pure, Except.pure, Except.ok.injEq, Prod.mk.injEq,
      Option.some.injEq] at h
    exact h.1 ▸ hmem
  · exact unaffiliatedDims_podKey_mem h

theorem getContainerDimensions_of_get? {M D : Dict Dims} {container : String} {instanceDims : Dims}
    {spec : ContainerSpec} {cd₀ : Dims} (hc : M.get? (containerIdOf container spec.aliases) = some cd₀)
    {podKey : Option String} {cd : Dims}
    (h : getContainerDimensions container instanceDims spec M D = .ok (podKey, cd)) : cd = cd₀ := by
  unfold getContainerDimensions at h
  rw [hc] at h
  cases hk : podKeyOf cd₀ <;> simp [hk, bind, Except.bind, pure, Except.pure] at h
  exact h.2.symm

/-- A spec entry as cAdvisor writes it: its first alias is the container's name, and a container
labelled with its pod also carries its container-name label. -/
def SpecWF (spec : ContainerSpec) : Prop :=
  spec.aliases ≠ [] ∧ ∀ labels, spec.labels = some labels →
    labels.contains "io.kubernetes.pod.name" → labels.contains "io.kubernetes.container.name"

def labelKey (spec : ContainerSpec) : Option String :=
  spec.labels.bind fun labels =>
    match labels.get? "io.kubernetes.pod.name", labels.get? "io.kubernetes.pod.namespace" with
    | some n, some ns => some (n ++ ns)
    | _, _ => none

/-- The record of an entry no container status was recorded for, as the spec describes it, with
`a` its first alias: the instance dimensions with `image` and `container_name = a`; when its pod
labels name a key of the pod-dimension map, that pod's dimensions merged in, `container_name`
taken from the `io.kubernetes.container.name` label, and the key. -/
def unaffiliatedRecord (instanceDims : Dims) (spec : ContainerSpec) (D : Dict Dims) (a : String) :
    Option String × Dims :=
  let fresh := (instanceDims.insert "image" spec.image).insert "container_name" a
  match labelKey spec, spec.labels.bind (·.get? "io.kubernetes.container.name") with
  | some key, some name =>
    match D.get? key with
    | some podDims => (some key, (fresh.update podDims).insert "container_name" name)
    | none => (none, fresh)
  | _, _ => (none, fresh)

theorem unaffiliatedDims_eq {spec : ContainerSpec} (hs : SpecWF spec) (instanceDims : Dims)
    (D : Dict Dims) :
    unaffiliatedDims instanceDims spec D =
      .ok (unaffiliatedRecord instanceDims spec D (spec.aliases.headD "")) := by
  obtain ⟨a, rest, ha⟩ := List.exists_cons_of_ne_nil hs.1
  have hix : pyIndex spec.aliases 0 = .ok a := by simp [pyIndex, ha]
  have hhd : spec.aliases.headD "" = a := by simp [ha]
  unfold unaffiliatedDims unaffiliatedRecord labelKey
  simp only [hix, hhd, bind, Except.bind, pure, Except.pure]
  cases hl : spec.labels with
  | none => rfl
  | some labels =>
    simp only [Option.some_bind]
    by_cases hc : labels.contains "io.kubernetes.pod.namespace" && labels.contains "io.kubernetes.pod.name"
    · simp only [Bool.and_eq_true] at hc
      obtain ⟨ns, hns⟩ := (Dict.contains_iff _ _).mp hc.1
      obtain ⟨n, hn⟩ := (Dict.contains_iff _ _).mp hc.2
      obtain ⟨c, hcn⟩ := (Dict.contains_iff _ _).mp (hs.2 labels hl hc.2)
      simp only [hc, (Dict.getItem_eq_ok _ _ _).mpr hns, (Dict.getItem_eq_ok _ _ _).mpr hn,
        (Dict.getItem_eq_ok _ _ _).mpr hcn, hns, hn, hcn, Bool.and_self, if_true]
      cases D.get? (n ++ ns) <;> rfl
    · rw [if_neg hc]
      cases hn : labels.get? "io.kubernetes.pod.name" <;>
        cases hns : labels.get? "io.kubernetes.pod.namespace" <;> simp_all [Dict.contains]

theorem unaffiliatedDims_ok {spec : ContainerSpec} (hs : SpecWF spec) (instanceDims : Dims)
    (D : Dict Dims) : ∃ r, unaffiliatedDims instanceDims spec D = .ok r :=
  ⟨_, unaffiliatedDims_eq hs instanceDims D⟩

/-- Against linked maps, a well-formed spec entry never makes `_get_container_dimensions`
raise. -/
theorem getContainerDimensions_ok {M D : Dict Dims} (hL : MapsLinked M D) {spec : ContainerSpec}
    (hs : SpecWF spec) (container : String) (instanceDims : Dims) :
    ∃ r, getContainerDimensions container instanceDims spec M D = .ok r := by
  unfold getContainerDimensions
  split
  · rename_i cd hc
    obtain ⟨key, hk, -⟩ := hL _ _ hc
    exact ⟨_, by rw [hk]; rfl⟩
  · exact unaffiliatedDims_ok hs instanceDims D

/-- `_get_container_dimensions` against the pods `_process_pods` walked. With `a` the first
alias occurring in the stats key: when `a` is non-empty and in the container-ID map, the entry
gets the record of a container status recorded under `a` and that status's pod key; when no
status was recorded under `a`, it gets what the unaffiliated branch builds, which for a
well-formed spec is `unaffiliatedRecord` of its first alias. -/
theorem getContainerDimensions_correlates {k : Kubernetes} {L : List String} {dims : Dims}
    {pods : List Pod} {M D : Dict Dims} {out out' : List Sample}
    (hP : exec (k.processPods pods L dims Dict.empty Dict.empty) out = (.ok (M, D), out'))
    (container : String) (instanceDims : Dims) (spec : ContainerSpec) :
    (firstAliasIn container spec.aliases ≠ "" →
      ∀ cd, M.get? (firstAliasIn container spec.aliases) = some cd →
        ∃ pod ∈ pods, ∃ cs ∈ walkedStatuses pod, recordedId cs = firstAliasIn container spec.aliases ∧
          cd = statusDims (k.podDimsOf L dims pod.metadata) cs ∧
          getContainerDimensions container instanceDims spec M D =
            .ok (some (k.podKey L dims pod.metadata), cd)) ∧
    ((∀ pod ∈ pods, ∀ cs ∈ walkedStatuses pod, recordedId cs ≠ firstAliasIn container spec.aliases) →
      getContainerDimensions container instanceDims spec M D = unaffiliatedDims instanceDims spec D ∧
      (SpecWF spec → getContainerDimensions container instanceDims spec M D =
        .ok (unaffiliatedRecord instanceDims spec D (spec.aliases.headD "")))) := by
  rw [← containerIdOf_eq_firstAliasIn]
  refine ⟨fun _ cd hcd => getContainerDimensions_of_recorded hP instanceDims hcd, fun hnone => ?_⟩
  have hM : M.get? (containerIdOf container spec.aliases) = none :=
    (get?_containerIdMap_eq_none hP _).mpr fun h =>
      let ⟨pod, hp, cs, hcs, hid⟩ := mem_recordedIds.mp h
      hnone pod hp cs hcs hid
  have h : getContainerDimensions container instanceDims spec M D =
      unaffiliatedDims instanceDims spec D := by
    simp [getContainerDimensions, hM]
  exact ⟨h, fun hs => h.trans (unaffiliatedDims_eq hs instanceDims D)⟩

/-- A running pod with one started container, `docker://abc`. -/
def startedPod : Pod :=
  ⟨⟨"web", "default", none, none, none⟩, ⟨"Running", some [⟨"app", "img", some "docker://abc", 0, true⟩]⟩,
    ⟨some [⟨"app", none⟩]⟩⟩

def startedMaps : Dict Dims × Dict Dims :=
  match (exec (plainCheck.processPods [startedPod] [] Dict.empty Dict.empty Dict.empty) []).1 with
  | .ok st => st
  | .error _ => (Dict.empty, Dict.empty)

theorem processPods_startedPod :
    exec (plainCheck.processPods [startedPod] [] Dict.empty Dict.empty Dict.empty) [] =
      (.ok startedMaps, (exec (plainCheck.processPods [startedPod] [] Dict.empty Dict.empty
        Dict.empty) []).2) := rfl

/-- The spec of the container of `startedPod`: its name, then its ID. -/
def startedSpec : ContainerSpec := ⟨["k8s_app_web", "abc"], "img", none⟩

/-- A sidecar of `startedPod` that `_process_pods` never saw, known to cAdvisor by its labels. -/
def sideSpec : ContainerSpec :=
  ⟨["k8s_side_web", "fff"], "img2", some ⟨[("io.kubernetes.pod.name", "web"),
    ("io.kubernetes.pod.namespace", "default"), ("io.kubernetes.container.name", "side")], by decide⟩⟩

theorem getContainerDimensions_correlates_startedPod :
    firstAliasIn "/docker/abc" startedSpec.aliases = "abc" ∧
    getContainerDimensions "/docker/abc" Dict.empty startedSpec startedMaps.1 startedMaps.2 =
      .ok (some "webdefault", ⟨[("pod_name", "web"), ("namespace", "default"),
        ("container_name", "app"), ("image", "img")], by decide⟩) ∧
    getContainerDimensions "/docker/fff" Dict.empty sideSpec startedMaps.1 startedMaps.2 =
      .ok (some "webdefault", ⟨[("image", "img2"), ("container_name", "side"),
        ("pod_name", "web"), ("namespace", "default")], by decide⟩) := by
  have hC := getContainerDimensions_correlates processPods_startedPod
  refine ⟨rfl, ?_, ?_⟩
  · obtain ⟨pod, hp, -, -, -, -, hg⟩ :=
      (hC "/docker/abc" Dict.empty startedSpec).1 (by decide) _ rfl
    rw [List.mem_singleton.mp hp] at hg
    exact hg
  · have hwf : SpecWF sideSpec := ⟨by simp [sideSpec], fun _ h _ => by cases h; rfl⟩
    exact ((hC "/docker/fff" Dict.empty sideSpec).2 (by decide)).2 hwf

/-- The ID alias `abc` of the entry is in the container-ID map, but the stats key
`/docker/zzz` contains none of the aliases: the entry gets no pod. -/
theorem getContainerDimensions_aliasOutsideKey :
    startedMaps.1.contains "abc" = true ∧
      (getContainerDimensions "/docker/zzz" Dict.empty startedSpec startedMaps.1 startedMaps.2).toOption.map
        Prod.fst = some none := by
  decide

/-- The `''` sentinel: an entry none of whose aliases occurs in its stats key is looked up under
`''`, the ID `_process_pods` records every container status without a `containerID` under. Once
such a status was walked, the entry gets the record of one of them and that status's pod key,
whatever its own aliases and labels say. -/
theorem getContainerDimensions_sentinel {k : Kubernetes} {L : List String} {dims : Dims}
    {pods : List Pod} {M D : Dict Dims} {out out' : List Sample}
    (hP : exec (k.processPods pods L dims Dict.empty Dict.empty) out = (.ok (M, D), out'))
    (container : String) (instanceDims : Dims) (spec : ContainerSpec)
    (ha : firstAliasIn container spec.aliases = "")
    (hs : ∃ pod ∈ pods, ∃ cs ∈ walkedStatuses pod, cs.containerID = none) :
    ∃ pod ∈ pods, ∃ cs ∈ walkedStatuses pod, recordedId cs = "" ∧
      getContainerDimensions container instanceDims spec M D =
        .ok (some (k.podKey L dims pod.metadata), statusDims (k.podDimsOf L dims pod.metadata) cs) := by
  rw [← containerIdOf_eq_firstAliasIn] at ha
  obtain ⟨pod, hp, cs, hcs, hnone⟩ := hs
  have hrec : containerIdOf container spec.aliases ∈ recordedIds pods :=
    mem_recordedIds.mpr ⟨pod, hp, cs, hcs, by rw [ha, recordedId, hnone]; rfl⟩
  obtain ⟨cd, hcd⟩ := Option.ne_none_iff_exists'.mp
    (mt (get?_containerIdMap_eq_none hP _).mp (not_not.mpr hrec))
  obtain ⟨pod', hp', cs', hcs', hid, rfl, hg⟩ := getContainerDimensions_of_recorded hP instanceDims hcd
  exact ⟨pod', hp', cs', hcs', hid.trans ha, hg⟩

/-- A pending pod whose one container has not started: its status has no `containerID`. -/
def waitingPod : Pod :=
  ⟨⟨"p", "ns", none, none, none⟩, ⟨"Pending", some [⟨"a", "ia", none, 0, false⟩]⟩, ⟨some [⟨"a", none⟩]⟩⟩

def waitingMaps : Dict Dims × Dict Dims :=
  match (exec (plainCheck.processPods [waitingPod] [] Dict.empty Dict.empty Dict.empty) []).1 with
  | .ok st => st
  | .error _ => (Dict.empty, Dict.empty)

/-- An entry of an unrelated container, `/docker/0f3a`, none of whose aliases is in its key, gets
the record of `a` and the pod `p` of namespace `ns`. -/
theorem getContainerDimensions_sentinel_waitingPod :
    exec (plainCheck.processPods [waitingPod] [] Dict.empty Dict.empty Dict.empty) [] =
        (.ok waitingMaps, (exec (plainCheck.processPods [waitingPod] [] Dict.empty Dict.empty
          Dict.empty) []).2) ∧
      firstAliasIn "/docker/0f3a" startedSpec.aliases = "" ∧
      getContainerDimensions "/docker/0f3a" Dict.empty startedSpec waitingMaps.1 waitingMaps.2 =
        .ok (some "pns", ⟨[("pod_name", "p"), ("namespace", "ns"), ("container_name", "a"),
          ("image", "ia")], by decide⟩) := by
  have hP : exec (plainCheck.processPods [waitingPod] [] Dict.empty Dict.empty Dict.empty) [] =
      (.ok waitingMaps, (exec (plainCheck.processPods [waitingPod] [] Dict.empty Dict.empty
        Dict.empty) []).2) := rfl
  obtain ⟨pod, hp, cs, hcs, -, hg⟩ := getContainerDimensions_sentinel hP "/docker/0f3a" Dict.empty
    startedSpec rfl ⟨waitingPod, List.mem_singleton_self _, ⟨"a", "ia", none, 0, false⟩, by decide, rfl⟩
  rw [List.mem_singleton.mp hp] at hcs hg
  rw [List.mem_singleton.mp hcs] at hg
  exact ⟨hP, rfl, hg⟩

end Kubernetes
end MonascaAgent
