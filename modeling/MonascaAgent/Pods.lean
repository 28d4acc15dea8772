import Mathlib
import MonascaAgent.Catalog
import MonascaAgent.Owner

/-!
# MonascaAgent.Pods

`_process_pods`: for every pod with containers and container statuses, its dimensions go into the
pod-dimension map under its pod key, each container status's dimensions go into the
container-ID map under the ID parsed from `containerID`, and the pod's restart count and phase
are emitted. With `report_container_metrics` set, each status's ready and restart gauges and
`_report_container_limits`' samples are emitted too.

* `processPods_reportOff` — without container metrics `_process_pods` never raises, and what it
  records and emits is computed pod by pod.
* `convertCpuToCores_milli` — a cpu string is read up to its first `m` as millicores.
-/

namespace MonascaAgent
namespace Kubernetes

open CheckM

def convertCpuToCores (k : Kubernetes) (cpuString : String) : Except Err Rat :=
  if pyContains "m" cpuString then do
    let cpu ← k.pyFloat (← pyIndex (pySplit cpuString "m") 0)
    pure (cpu / 1000)
  else k.pyFloat cpuString

/-- A cpu string is read up to its first `m` as millicores: whatever follows that `m` is ignored. -/
theorem convertCpuToCores_milli (k : Kubernetes) (d r : String) (hd : 'm' ∉ d.toList) :
    k.convertCpuToCores (d ++ "m" ++ r) = (· / 1000) <$> k.pyFloat d := by
  have hs : (d ++ "m" ++ r).toList = d.toList ++ 'm' :: r.toList := by simp
  have hc : pyContains "m" (d ++ "m" ++ r) = true := by
    simp only [pyContains, hs, decide_eq_true_eq]
    exact ⟨d.toList, r.toList, by simp⟩
  have hsplit : (pySplit (d ++ "m" ++ r) "m").head? = some d := by
    have h := pySplit_single (d ++ "m" ++ r) 'm'
    rw [show String.singleton 'm' = "m" from rfl] at h
    rw [h, hs, splitOn_append_cons, splitOn_of_not_mem hd]
    rfl
  rw [convertCpuToCores, if_pos hc, pyIndex, List.get?_zero, hsplit]
  simp only [bind, Except.bind, pure, Except.pure, Functor.map, Except.map]

/-- Python `float(s)` on strings of decimal digits, as one instance of the library function. -/
def digitsFloat (s : String) : Except Err Rat :=
  match s.toList.foldl (fun acc c => acc.bind fun n =>
      if c.isDigit then some (10 * n + (c.toNat - '0'.toNat)) else none) (some 0), s.toList with
  | some n, _ :: _ => .ok n
  | _, _ => .error .valueError

/-- A check reporting container metrics, with no connector and a digits-only `float()`. -/
def reportingCheck : Kubernetes :=
  ⟨true, none, fun _ => .error .valueError, digitsFloat, fun _ => .error .valueError⟩

/-- `500m` is half a core. -/
theorem convertCpuToCores_milli_500m :
    'm' ∉ "500".toList ∧ reportingCheck.convertCpuToCores ("500" ++ "m" ++ "") = .ok (1 / 2) := by
  refine ⟨by decide, ?_⟩
  rw [convertCpuToCores_milli reportingCheck "500" "" (by decide)]
  have h5 : '5'.isDigit = true := by decide
  have h0 : '0'.isDigit = true := by decide
  have h53 : '5'.toNat = 53 := rfl
  have h48 : '0'.toNat = 48 := rfl
  norm_num [reportingCheck, digitsFloat, Functor.map, Except.map, h5, h0, h53, h48]

/-- The body of one `try` block of `_report_container_limits`, after the resources are read:
a `cpu` sample and a `memory` sample, each when its key is present. -/
def reportResources (k : Kubernetes) (containerDims : Dims) (resources : Dict String)
    (cpuName memoryName : String) : CheckM Unit := do
  if resources.contains "cpu" then
    let cpuValue ← MonadExcept.ofExcept (k.convertCpuToCores (← MonadExcept.ofExcept (resources.getItem "cpu")))
    gauge cpuName (some cpuValue) containerDims (some "SUPPRESS")
  if resources.contains "memory" then
    let memoryInBytes ← MonadExcept.ofExcept
      (k.convertMemoryStringToBytes (← MonadExcept.ofExcept (resources.getItem "memory")))
    gauge memoryName (some memoryInBytes) containerDims (some "SUPPRESS")

def reportContainerLimit (k : Kubernetes) (containerDimensionMap : Dict Dims)
    (name2id : Dict String) (container : Container) : CheckM Unit := do
  let containerDims ← MonadExcept.ofExcept
    (containerDimensionMap.getItem (← MonadExcept.ofExcept (name2id.getItem container.name)))
  catchKeyError do
    let resources ← MonadExcept.ofExcept (optItem container.resources "resources")
    let limits ← MonadExcept.ofExcept (optItem resources.limits "limits")
    k.reportResources containerDims limits "container.cpu.limit" "container.memory.limit_bytes"
  catchKeyError do
    let resources ← MonadExcept.ofExcept (optItem container.resources "resources")
    let requests ← MonadExcept.ofExcept (optItem resources.requests "requests")
    k.reportResources containerDims requests "container.request.cpu" "container.request.memory_bytes"

def reportContainerLimits (k : Kubernetes) (podContainers : List Container)
    (containerDimensionMap : Dict Dims) (name2id : Dict String) : CheckM Unit :=
  podContainers.forM (k.reportContainerLimit containerDimensionMap name2id)

/-- `container_status.get('containerID', '').split('//')[-1]`; `split` never returns `[]`. -/
def recordedId (cs : ContainerStatus) : String :=
  (pySplit (cs.containerID.getD "") "//").getLastD ""

/-- `pod_dimensions['pod_name'] + pod_dimensions['namespace']`. -/
def podKeyOf (dims : Dims) : Except Err String := do
  let podName ← dims.getItem "pod_name"
  let ns ← dims.getItem "namespace"
  pure (podName ++ ns)

/-- The dimensions of a container status: the pod's, its `container_name` and `image`. -/
def statusDims (podDims : Dims) (cs : ContainerStatus) : Dims :=
  (podDims.insert "container_name" cs.name).insert "image" cs.image

/-- One iteration of the loop of `_process_pods` over `containerStatuses`; the state is the
container-ID map, `name2id` and `pod_retry_count`. -/
def processContainerStatus (k : Kubernetes) (podDims : Dims)
    (st : Dict Dims × Dict String × Nat) (cs : ContainerStatus) :
    CheckM (Dict Dims × Dict String × Nat) := do
  let containerDims := statusDims podDims cs
  let containerId := recordedId cs
  let name2id := st.2.1.insert cs.name containerId
  let containerDimensionMap := st.1.insert containerId containerDims
  if k.reportContainerMetrics then
    gauge "container.ready_status" (some (if cs.ready then 0 else 1)) containerDims (some "SUPPRESS")
    gauge "container.restart_count" (some cs.restartCount) containerDims (some "SUPPRESS")
  pure (containerDimensionMap, name2id, st.2.2 + cs.restartCount)

/-- The pod dimensions `_process_pods` builds: a copy of the instance dimensions updated with
`_get_pod_dimensions`. -/
def podDimsOf (k : Kubernetes) (kubernetesLabels : List String) (dims : Dims) (m : PodMetadata) :
    Dims :=
  dims.update (k.getPodDimensions m kubernetesLabels)

/-- One iteration of `_process_pods`; the state is the container-ID map and the pod-dimension
map. -/
def processPod (k : Kubernetes) (kubernetesLabels : List String) (dims : Dims)
    (st : Dict Dims × Dict Dims) (pod : Pod) : CheckM (Dict Dims × Dict Dims) :=
  match pod.spec.containers, pod.status.containerStatuses with
  | some (c :: cs), some (s :: ss) => do
    let podDims := k.podDimsOf kubernetesLabels dims pod.metadata
    let podKey ← MonadExcept.ofExcept (podKeyOf podDims)
    let podDimensionsMap := st.2.insert podKey podDims
    let (containerDimensionMap, name2id, podRetryCount) ←
      (s :: ss).foldlM (k.processContainerStatus podDims) (st.1, Dict.empty, 0)
    if k.reportContainerMetrics then
      k.reportContainerLimits (c :: cs) containerDimensionMap name2id
    gauge "pod.restart_count" (some podRetryCount) podDims (some "SUPPRESS")
    gauge "pod.phase" ((podPhase.get? pod.status.phase).map (↑)) podDims (some "SUPPRESS")
    pure (containerDimensionMap, podDimensionsMap)
  | _, _ => pure st

/-- `_process_pods`, from the container-ID and pod-dimension maps it is given. -/
def processPods (k : Kubernetes) (pods : List Pod) (kubernetesLabels : List String) (dims : Dims)
    (containerDimensionMap podDimensionsMap : Dict Dims) : CheckM (Dict Dims × Dict Dims) :=
  pods.foldlM (k.processPod kubernetesLabels dims) (containerDimensionMap, podDimensionsMap)

/-! ## One container status -/

/-- The samples one container status adds: its ready and restart gauges, when reported. -/
def statusSamples (k : Kubernetes) (podDims : Dims) (cs : ContainerStatus) : List Sample :=
  if k.reportContainerMetrics then
    [⟨.gauge, "container.ready_status", some (if cs.ready then 0 else 1), statusDims podDims cs,
        some "SUPPRESS"⟩,
      ⟨.gauge, "container.restart_count", some cs.restartCount, statusDims podDims cs,
        some "SUPPRESS"⟩]
  else []

theorem processContainerStatus_exec (k : Kubernetes) (podDims : Dims)
    (st : Dict Dims × Dict String × Nat) (cs : ContainerStatus) (out : List Sample) :
    exec (k.processContainerStatus podDims st cs) out =
      (.ok (st.1.insert (recordedId cs) (statusDims podDims cs), st.2.1.insert cs.name (recordedId cs),
        st.2.2 + cs.restartCount), out ++ k.statusSamples podDims cs) := by
  unfold processContainerStatus statusSamples
  cases k.reportContainerMetrics <;> simp [exec_bind]

theorem processContainerStatuses_exec (k : Kubernetes) (podDims : Dims) (ss : List ContainerStatus) :
    ∀ (st : Dict Dims × Dict String × Nat) (out : List Sample),
    exec (ss.foldlM (k.processContainerStatus podDims) st) out =
      (.ok (st.1.insertAll (ss.map fun cs => (recordedId cs, statusDims podDims cs)),
        st.2.1.insertAll (ss.map fun cs => (cs.name, recordedId cs)),
        st.2.2 + (ss.map (·.restartCount)).sum), out ++ ss.flatMap (k.statusSamples podDims)) := by
  induction ss with
  | nil => intro st out; simp
  | cons cs ss ih =>
    intro st out
    rw [List.foldlM_cons, exec_bind_of_ok (processContainerStatus_exec k podDims st cs out), ih]
    simp [Nat.add_assoc]

/-! ## One pod -/

/-- The container statuses `_process_pods` walks for a pod: none unless the pod has containers
and container statuses. -/
def walkedStatuses (pod : Pod) : List ContainerStatus :=
  match pod.spec.containers, pod.status.containerStatuses with
  | some (_ :: _), some ss => ss
  | _, _ => []

def podKey (k : Kubernetes) (kubernetesLabels : List String) (dims : Dims) (m : PodMetadata) :
    String :=
  (k.podDimsOf kubernetesLabels dims m).getD "pod_name" "" ++
    (k.podDimsOf kubernetesLabels dims m).getD "namespace" ""

def containerRecords (k : Kubernetes) (kubernetesLabels : List String) (dims : Dims) (pod : Pod) :
    List (String × Dims) :=
  (walkedStatuses pod).map fun cs =>
    (recordedId cs, statusDims (k.podDimsOf kubernetesLabels dims pod.metadata) cs)

def podRecords (k : Kubernetes) (kubernetesLabels : List String) (dims : Dims) (pod : Pod) :
    List (String × Dims) :=
  if walkedStatuses pod = [] then []
  else [(k.podKey kubernetesLabels dims pod.metadata, k.podDimsOf kubernetesLabels dims pod.metadata)]

theorem getPodDimensions_get?_ne_none (k : Kubernetes) (m : PodMetadata) (L : List String)
    {x : String} (hx : x = "pod_name" ∨ x = "namespace") : (k.getPodDimensions m L).get? x ≠ none := by
  have hl : ∀ y, y = "pod_name" ∨ y = "namespace" → (podLabelDims m L).get? y ≠ none := by
    rintro y (rfl | rfl) <;> simp [get?_podLabelDims, Option.or_eq_none]
  obtain ⟨ns, hns⟩ := Option.ne_none_iff_exists'.mp (hl _ (.inr rfl))
  rw [getPodDimensions_eq]
  split
  · obtain ⟨o, -, heq⟩ := setPodOwnerDimension_eq k _ _ hns
    rw [heq]
    rcases o with _ | ⟨key, v⟩
    · exact hl x hx
    · by_cases hk : x = key <;> simp [hk, hl x hx]
  · exact hl x hx

theorem podKeyOf_podDimsOf (k : Kubernetes) (L : List String) (dims : Dims) (m : PodMetadata) :
    podKeyOf (k.podDimsOf L dims m) = .ok (k.podKey L dims m) := by
  have h : ∀ x, x = "pod_name" ∨ x = "namespace" → ∃ v, (k.podDimsOf L dims m).get? x = some v := by
    intro x hx
    cases h : (k.getPodDimensions m L).get? x with
    | none => exact absurd h (getPodDimensions_get?_ne_none k m L hx)
    | some v => exact ⟨v, by simp [podDimsOf, h]⟩
  obtain ⟨n, hn⟩ := h _ (.inl rfl)
  obtain ⟨ns, hns⟩ := h _ (.inr rfl)
  simp [podKeyOf, podKey, Dict.getItem, Dict.getD, hn, hns, bind, Except.bind, pure, Except.pure]

def podSamples (k : Kubernetes) (kubernetesLabels : List String) (dims : Dims) (pod : Pod) :
    List Sample :=
  [⟨.gauge, "pod.restart_count", some (((walkedStatuses pod).map (·.restartCount)).sum : Nat),
      k.podDimsOf kubernetesLabels dims pod.metadata, some "SUPPRESS"⟩,
    ⟨.gauge, "pod.phase", (podPhase.get? pod.status.phase).map (↑),
      k.podDimsOf kubernetesLabels dims pod.metadata, some "SUPPRESS"⟩]

/-- A pod with containers and statuses: its statuses are recorded, its limits reported when
that is configured (which may raise), then its restart count and phase are emitted. -/
theorem processPod_exec_walked (k : Kubernetes) (L : List String) (dims : Dims)
    (st : Dict Dims × Dict Dims) {pod : Pod} {c : Container} {cs : List Container}
    {s : ContainerStatus} {ss : List ContainerStatus}
    (hc : pod.spec.containers = some (c :: cs)) (hs : pod.status.containerStatuses = some (s :: ss))
    (out : List Sample) :
    exec (k.processPod L dims st pod) out =
      let M := st.1.insertAll (k.containerRecords L dims pod)
      let name2id := Dict.empty.insertAll ((s :: ss).map fun cs => (cs.name, recordedId cs))
      let out₁ := out ++ (s :: ss).flatMap (k.statusSamples (k.podDimsOf L dims pod.metadata))
      match exec (if k.reportContainerMetrics then k.reportContainerLimits (c :: cs) M name2id
          else pure ()) out₁ with
      | (.ok _, o) => (.ok (M, st.2.insertAll (k.podRecords L dims pod)), o ++ k.podSamples L dims pod)
      | (.error e, o) => (.error e, o) := by
  have hw : walkedStatuses pod = s :: ss := by simp [walkedStatuses, hc, hs]
  simp only [processPod, hc, hs, containerRecords, podRecords, podSamples, hw]
  rw [exec_bind_of_ok (by rw [exec_ofExcept, podKeyOf_podDimsOf])]
  rw [exec_bind_of_ok (processContainerStatuses_exec _ _ _ _ _)]
  simp only [Dict.insertAll_nil, Nat.zero_add, List.cons_ne_nil, if_false]
  cases k.reportContainerMetrics
  · simp [exec_bind]
  · simp only [if_true]
    rw [exec_bind]
    split <;> simp_all [exec_bind]

theorem processPod_exec_skipped (k : Kubernetes) (L : List String) (dims : Dims)
    (st : Dict Dims × Dict Dims) {pod : Pod} (hw : walkedStatuses pod = []) (out : List Sample) :
    exec (k.processPod L dims st pod) out = (.ok st, out) := by
  unfold processPod
  unfold walkedStatuses at hw
  split
  · simp_all
  · rfl

theorem walkedStatuses_eq_cons {pod : Pod} {s : ContainerStatus} {ss : List ContainerStatus}
    (h : walkedStatuses pod = s :: ss) :
    ∃ c cs, pod.spec.containers = some (c :: cs) ∧ pod.status.containerStatuses = some (s :: ss) := by
  unfold walkedStatuses at h
  split at h
  · rename_i c cs ss' hc hs; subst h; exact ⟨c, cs, hc, hs⟩
  · cases h

theorem processPod_state {k : Kubernetes} {L : List String} {dims : Dims}
    {st st' : Dict Dims × Dict Dims} {pod : Pod} {out out' : List Sample}
    (h : exec (k.processPod L dims st pod) out = (.ok st', out')) :
    st' = (st.1.insertAll (k.containerRecords L dims pod), st.2.insertAll (k.podRecords L dims pod)) := by
  cases hw : walkedStatuses pod with
  | nil =>
    rw [processPod_exec_skipped k L dims st hw] at h
    cases h; simp [containerRecords, podRecords, hw]
  | cons s ss =>
    obtain ⟨c, cs, hc, hs⟩ := walkedStatuses_eq_cons hw
    rw [processPod_exec_walked k L dims st hc hs] at h
    simp only at h
    split at h <;> cases h
    rfl

/-- The maps `_process_pods` returns: every walked status's record and every walked pod's
dimensions, inserted in order into the maps it was given. -/
theorem processPods_state {k : Kubernetes} {L : List String} {dims : Dims} {pods : List Pod}
    {M D M' D' : Dict Dims} {out out' : List Sample}
    (h : exec (k.processPods pods L dims M D) out = (.ok (M', D'), out')) :
    M' = M.insertAll (pods.flatMap (k.containerRecords L dims)) ∧
      D' = D.insertAll (pods.flatMap (k.podRecords L dims)) := by
  unfold processPods at h
  induction pods generalizing M D out with
  | nil => simp only [List.foldlM_nil, exec_pure, Prod.mk.injEq, Except.ok.injEq] at h; simp [h]
  | cons pod pods ih =>
    obtain ⟨st, o, h1, h2⟩ := exec_bind_ok.mp h
    obtain rfl := processPod_state h1
    obtain ⟨rfl, rfl⟩ := ih h2
    simp [Dict.insertAll_append]

theorem flatMap_statusSamples_reportOff {k : Kubernetes} (hr : k.reportContainerMetrics = false)
    (podDims : Dims) (l : List ContainerStatus) : l.flatMap (k.statusSamples podDims) = [] := by
  simp [statusSamples, hr]

/-- With container metrics not reported, `_process_pods` never raises: it records every walked
pod and status, and emits exactly, for each walked pod in order, its restart count (the sum over
its statuses) and its phase. -/
theorem processPods_reportOff {k : Kubernetes} (hr : k.reportContainerMetrics = false)
    (pods : List Pod) (L : List String) (dims : Dims) (M D : Dict Dims) (out : List Sample) :
    exec (k.processPods pods L dims M D) out =
      (.ok (M.insertAll (pods.flatMap (k.containerRecords L dims)),
          D.insertAll (pods.flatMap (k.podRecords L dims))),
        out ++ pods.flatMap fun pod => if walkedStatuses pod = [] then [] else k.podSamples L dims pod) := by
  unfold processPods
  induction pods generalizing M D out with
  | nil => simp
  | cons pod pods ih =>
    rw [List.foldlM_cons, exec_bind]
    cases hw : walkedStatuses pod with
    | nil =>
      rw [processPod_exec_skipped k L dims _ hw]
      simp [ih, containerRecords, podRecords, hw]
    | cons s ss =>
      obtain ⟨c, cs, hc, hs⟩ := walkedStatuses_eq_cons hw
      rw [processPod_exec_walked k L dims _ hc hs]
      simp [hr, flatMap_statusSamples_reportOff hr, hw, ih, Dict.insertAll_append]

/-! ## Containers whose status or ID is missing -/

/-- A pod whose spec names a container `app` that has no status. -/
def unmatchedPod : Pod :=
  ⟨⟨"web", "default", none, none, none⟩, ⟨"Running", some [⟨"sidecar", "img", none, 0, true⟩]⟩,
    ⟨some [⟨"app", none⟩]⟩⟩

/-- `name2id[container_name]` stands outside the `try`: a spec container without a status of
its name raises `KeyError`, and the pod's restart count and phase are never emitted. -/
theorem processPods_unmatchedPod :
    (exec (reportingCheck.processPods [unmatchedPod] [] Dict.empty Dict.empty Dict.empty) []).1 =
        .error (.keyError "app") ∧
      (exec (reportingCheck.processPods [unmatchedPod] [] Dict.empty Dict.empty Dict.empty) []).2.map
        (·.name) = ["container.ready_status", "container.restart_count"] :=
  ⟨rfl, by decide⟩

/-- A pod with two containers not yet started: both statuses are recorded under the empty ID. -/
def pendingPod : Pod :=
  ⟨⟨"p", "ns", none, none, none⟩,
    ⟨"Pending", some [⟨"a", "ia", none, 0, false⟩, ⟨"b", "ib", none, 0, false⟩]⟩,
    ⟨some [⟨"a", some ⟨some ⟨[("cpu", "1")], by decide⟩, none⟩⟩, ⟨"b", none⟩]⟩⟩

/-- `container_dimension_map[name2id['a']]` is the record stored under `''` last, that of `b`:
the CPU limit of `a` is emitted with `container_name = 'b'`. -/
theorem processPods_pendingPod :
    ((exec (reportingCheck.processPods [pendingPod] [] Dict.empty Dict.empty Dict.empty) []).2.filter
      (·.name = "container.cpu.limit")).map (·.dimensions.get? "container_name") = [some "b"] := by
  decide

end Kubernetes
end MonascaAgent
