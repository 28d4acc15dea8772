import MonascaAgent.Extract

/-!
# MonascaAgent.Containers

`_process_containers` and the two flushes, `send_pod_metrics` and `send_network_pod_metrics`.

Each stats entry is correlated (`_get_container_dimensions`), its first snapshot parsed, and the
pod-level values accumulated under its pod key; the accumulators are flushed on the dimensions
of the pod-dimension map. The in-place `unit` updates of `_send_metrics` reach the maps they
alias: a correlated entry's record in the container-ID map, and a pod's record in the
pod-dimension map during `send_pod_metrics`.

* `processContainers_flush_ok` — the invariant of the two maps that `_process_pods` builds, kept
  by the loop, makes both flushes complete.
* `processContainers_completes` — on well-formed documents the loop completes, and the method
  returns the loop's samples followed by the two flushes.
* `processContainer_unlabelled` — an entry that correlates with nothing leaves the maps and the
  accumulators as they were.
-/

namespace MonascaAgent
namespace Kubernetes

open CheckM

/-- The state of the loop of `_process_containers`: the container-ID map (whose records the
loop mutates), `pod_metrics` and `pod_network_metrics`. -/
abbrev ContainersState := Dict Dims × Dict (Dict Rat) × Dict (Dict (Dict Rat))

/-- `if cadvisor_metrics['has_memory'] and cadvisor_metrics['memory']: self._parse_memory(...)`. -/
def memoryBlock (k : Kubernetes) (cadvisorMetrics : ContainerStats) (containerDims : Dims)
    (podKey : Option String) (podMetrics : Dict (Dict Rat)) : CheckM (Dims × Dict (Dict Rat)) :=
  if cadvisorMetrics.hasMemory then do
    let memory ← MonadExcept.ofExcept (optItem cadvisorMetrics.memory "memory")
    if memory.items ≠ [] then k.parseMemory memory containerDims podKey podMetrics
    else pure (containerDims, podMetrics)
  else pure (containerDims, podMetrics)

/-- `if cadvisor_metrics['has_filesystem'] and 'filesystem' in cadvisor_metrics and
cadvisor_metrics['filesystem']: self._parse_filesystem(...)`. -/
def filesystemBlock (k : Kubernetes) (cadvisorMetrics : ContainerStats) (containerDims : Dims) :
    CheckM Unit :=
  if cadvisorMetrics.hasFilesystem then
    match cadvisorMetrics.filesystem with
    | some filesystem => if filesystem ≠ [] then k.parseFilesystem filesystem containerDims else pure ()
    | none => pure ()
  else pure ()

/-- `if cadvisor_metrics['has_network'] and cadvisor_metrics['network']: self._parse_network(...)`;
a network object always holds `interfaces`, so it is never empty. -/
def networkBlock (k : Kubernetes) (cadvisorMetrics : ContainerStats) (containerDims : Dims)
    (podKey : Option String) (podNetworkMetrics : Dict (Dict (Dict Rat))) :
    CheckM (Dict (Dict (Dict Rat))) :=
  if cadvisorMetrics.hasNetwork then do
    let network ← MonadExcept.ofExcept (optItem cadvisorMetrics.network "network")
    k.parseNetwork network containerDims podKey podNetworkMetrics
  else pure podNetworkMetrics

/-- `if cadvisor_metrics['has_cpu'] and cadvisor_metrics['cpu']: self._parse_cpu(...)`; a cpu
object always holds `usage`, so it is never empty. -/
def cpuBlock (k : Kubernetes) (cadvisorMetrics : ContainerStats) (containerDims : Dims)
    (podKey : Option String) (podMetrics : Dict (Dict Rat)) : CheckM (Dims × Dict (Dict Rat)) :=
  if cadvisorMetrics.hasCpu then do
    let cpu ← MonadExcept.ofExcept (optItem cadvisorMetrics.cpu "cpu")
    k.parseCpu cpu containerDims podKey podMetrics
  else pure (containerDims, podMetrics)

/-- One iteration of the loop of `_process_containers`. A record found in the container-ID map
is the object the parsers update in place, so it is written back. -/
def processContainer (k : Kubernetes) (containersSpec : Dict ContainerSpec) (dims : Dims)
    (podDimensionMap : Dict Dims) (st : ContainersState) (entry : String × List ContainerStats) :
    CheckM ContainersState := do
  let (container, cadvisorMetrics) := entry
  let (containerDimensionMap, podMetrics, podNetworkMetrics) := st
  let containerSpec ← MonadExcept.ofExcept (containersSpec.getItem container)
  let (podKey, containerDims) ← MonadExcept.ofExcept
    (getContainerDimensions container dims containerSpec containerDimensionMap podDimensionMap)
  let cadvisorMetrics ← MonadExcept.ofExcept (pyIndex cadvisorMetrics 0)
  let (containerDims, podMetrics) ← k.memoryBlock cadvisorMetrics containerDims podKey podMetrics
  k.filesystemBlock cadvisorMetrics containerDims
  let podNetworkMetrics ← k.networkBlock cadvisorMetrics containerDims podKey podNetworkMetrics
  let (containerDims, podMetrics) ← k.cpuBlock cadvisorMetrics containerDims podKey podMetrics
  let containerId := containerIdOf container containerSpec.aliases
  let containerDimensionMap :=
    if containerDimensionMap.contains containerId then containerDimensionMap.insert containerId containerDims
    else containerDimensionMap
  pure (containerDimensionMap, podMetrics, podNetworkMetrics)

def sendAll (pre : String) (metrics : Dict Rat) (dims : Dims) : CheckM Dims :=
  metrics.items.foldlM (fun dims p => sendCatalog pre p.1 p.2 dims) dims

def sendPodMetric (podDimensionMap : Dict Dims) (p : String × Dict Rat) : CheckM (Dict Dims) := do
  let podDims ← MonadExcept.ofExcept (podDimensionMap.getItem p.1)
  let podDims ← sendAll "pod." p.2 podDims
  pure (podDimensionMap.insert p.1 podDims)

/-- `send_pod_metrics`; returns the pod-dimension map as the `unit` updates leave it. -/
def sendPodMetrics (podMetricsMap : Dict (Dict Rat)) (podDimensionMap : Dict Dims) :
    CheckM (Dict Dims) :=
  podMetricsMap.items.foldlM sendPodMetric podDimensionMap

def sendNetworkPodMetric (podDimensionMap : Dict Dims) (p : String × Dict (Dict Rat)) :
    CheckM Unit := do
  let podDims ← MonadExcept.ofExcept (podDimensionMap.getItem p.1)
  p.2.items.forM fun q => do
    let _ ← sendAll "pod." q.2 (podDims.insert "interface" q.1)

def sendNetworkPodMetrics (podNetworkMetrics : Dict (Dict (Dict Rat)))
    (podDimensionMap : Dict Dims) : CheckM Unit :=
  podNetworkMetrics.items.forM (sendNetworkPodMetric podDimensionMap)

/-- `_process_containers`, given the outcomes of its two fetches (the spec document, then the
stats document); a failed fetch is logged and ends the method. -/
def processContainers (k : Kubernetes) (cadvisorSpec : Except Err (Dict ContainerSpec))
    (cadvisorMetrics : Except Err (Dict (List ContainerStats))) (dims : Dims)
    (containerDimensionMap podDimensionMap : Dict Dims) : CheckM Unit :=
  match cadvisorSpec, cadvisorMetrics with
  | .ok containersSpec, .ok containersMetrics => do
    let (_, podMetrics, podNetworkMetrics) ←
      containersMetrics.items.foldlM (k.processContainer containersSpec dims podDimensionMap)
        (containerDimensionMap, Dict.empty, Dict.empty)
    let podDimensionMap ← sendPodMetrics podMetrics podDimensionMap
    sendNetworkPodMetrics podNetworkMetrics podDimensionMap
  | _, _ => pure ()

/-! ## One snapshot -/

def memoryData (s : ContainerStats) : Dict Rat :=
  if s.hasMemory then s.memory.getD Dict.empty else Dict.empty

def filesystemData (s : ContainerStats) : List FilesystemStats :=
  if s.hasFilesystem then s.filesystem.getD [] else []

def interfacesData (s : ContainerStats) : List InterfaceStats :=
  if s.hasNetwork then (s.network.map (·.interfaces)).getD [] else []

def cpuUsage (s : ContainerStats) : Dict Rat :=
  if s.hasCpu then (s.cpu.map (·.usage)).getD Dict.empty else Dict.empty

/-- A snapshot whose flagged sections are present, as the stats document gives them: the loop
reads it without a `KeyError`. -/
def SnapshotWF (s : ContainerStats) : Prop :=
  (s.hasMemory → s.memory.isSome) ∧ (s.hasNetwork → s.network.isSome) ∧ (s.hasCpu → s.cpu.isSome)

instance : DecidablePred SnapshotWF := fun _ => inferInstanceAs (Decidable (_ ∧ _ ∧ _))

@[simp] theorem presentFields_empty (convert : Rat → Rat) (fields : List (String × String)) :
    presentFields convert Dict.empty fields = [] := by
  simp [presentFields]

theorem eq_empty_of_items {data : Dict Rat} (h : data.items = []) : data = Dict.empty :=
  Dict.ext h

theorem memoryBlock_exec (k : Kubernetes) {s : ContainerStats} (h : s.hasMemory → s.memory.isSome)
    (cd : Dims) (podKey : Option String) (podMetrics : Dict (Dict Rat)) (out : List Sample) :
    exec (k.memoryBlock s cd podKey podMetrics) out =
      (.ok (withUnit cd (if k.reportContainerMetrics then
            fieldsUnit id (memoryData s) memoryMetrics.items else none),
          accumulateFields (addPodMetric podKey) id (memoryData s) memoryMetrics.items podMetrics),
        out ++ if k.reportContainerMetrics then fieldSamples id (memoryData s) memoryMetrics.items cd
          else []) := by
  unfold memoryBlock memoryData
  cases hm : s.hasMemory with
  | false => simp [fieldsUnit, accumulateFields, fieldSamples, withUnit]
  | true =>
    obtain ⟨m, hs⟩ := Option.isSome_iff_exists.mp (h hm)
    by_cases he : m.items = []
    · cases eq_empty_of_items he
      simp [hs, he, optItem, exec_bind, fieldsUnit, accumulateFields, fieldSamples, withUnit]
    · simp [hs, optItem, exec_bind, he, parseMemory_exec]

theorem filesystemBlock_exec (k : Kubernetes) (s : ContainerStats) (cd : Dims) (out : List Sample) :
    exec (k.filesystemBlock s cd) out =
      (.ok (), out ++ if k.reportContainerMetrics then
          (filesystemData s).flatMap fun fs =>
            fieldSamples id fs.stats filesystemMetrics.items (cd.insert "device" fs.device)
        else []) := by
  unfold filesystemBlock filesystemData
  cases s.hasFilesystem with
  | false => simp
  | true =>
    cases s.filesystem with
    | none => simp
    | some fs =>
      by_cases he : fs = []
      · simp [he]
      · simp [he, parseFilesystem_exec]

theorem networkBlock_exec (k : Kubernetes) {s : ContainerStats} (h : s.hasNetwork → s.network.isSome)
    (cd : Dims) (podKey : Option String) (podNetworkMetrics : Dict (Dict (Dict Rat)))
    (out : List Sample) :
    exec (k.networkBlock s cd podKey podNetworkMetrics) out =
      (.ok ((interfacesData s).foldl (fun acc i =>
          accumulateFields (addPodNetMetric podKey i.name) id i.stats networkMetrics.items acc)
          podNetworkMetrics),
        out ++ if k.reportContainerMetrics then
          (interfacesData s).flatMap fun i =>
            fieldSamples id i.stats networkMetrics.items (cd.insert "interface" i.name)
        else []) := by
  unfold networkBlock interfacesData
  cases hn : s.hasNetwork with
  | false => simp
  | true =>
    obtain ⟨n, hs⟩ := Option.isSome_iff_exists.mp (h hn)
    simp [hs, optItem, exec_bind, parseNetwork_exec]

theorem cpuBlock_exec (k : Kubernetes) {s : ContainerStats} (h : s.hasCpu → s.cpu.isSome)
    (cd : Dims) (podKey : Option String) (podMetrics : Dict (Dict Rat)) (out : List Sample) :
    exec (k.cpuBlock s cd podKey podMetrics) out =
      (.ok (withUnit cd (if k.reportContainerMetrics then
            fieldsUnit (· / 1000000000) (cpuUsage s) cpuMetrics.items else none),
          accumulateFields (addPodMetric podKey) (· / 1000000000) (cpuUsage s) cpuMetrics.items
            podMetrics),
        out ++ if k.reportContainerMetrics then
          fieldSamples (· / 1000000000) (cpuUsage s) cpuMetrics.items cd else []) := by
  unfold cpuBlock cpuUsage
  cases hc : s.hasCpu with
  | false => simp [fieldsUnit, accumulateFields, fieldSamples, withUnit]
  | true =>
    obtain ⟨c, hs⟩ := Option.isSome_iff_exists.mp (h hc)
    simp [hs, optItem, exec_bind, parseCpu_exec]

/-- The unit left in the correlated dimensions after one snapshot: the last one sent, by the cpu
section or else by the memory section. -/
def snapshotUnit (s : ContainerStats) : Option String :=
  (fieldsUnit (· / 1000000000) (cpuUsage s) cpuMetrics.items).or
    (fieldsUnit id (memoryData s) memoryMetrics.items)

/-- The container-level samples of one snapshot on the correlated dimensions `cd`: the memory and
cpu fields on `cd`, each filesystem and interface on a copy that also holds the unit the memory
samples left in `cd`. -/
def snapshotSamples (s : ContainerStats) (cd : Dims) : List Sample :=
  let cd' := withUnit cd (fieldsUnit id (memoryData s) memoryMetrics.items)
  fieldSamples id (memoryData s) memoryMetrics.items cd ++
    (filesystemData s).flatMap (fun fs =>
      fieldSamples id fs.stats filesystemMetrics.items (cd'.insert "device" fs.device)) ++
    (interfacesData s).flatMap (fun i =>
      fieldSamples id i.stats networkMetrics.items (cd'.insert "interface" i.name)) ++
    fieldSamples (· / 1000000000) (cpuUsage s) cpuMetrics.items cd

@[simp] theorem fieldSamples_withUnit (convert : Rat → Rat) (data : Dict Rat)
    (fields : List (String × String)) (dims : Dims) (o : Option String) :
    fieldSamples convert data fields (withUnit dims o) = fieldSamples convert data fields dims := by
  simp [fieldSamples]

theorem processContainer_exec (k : Kubernetes) {S : Dict ContainerSpec} {dims : Dims}
    {D : Dict Dims} {K : String} {spec : ContainerSpec} {M : Dict Dims} {podKey : Option String}
    {cd : Dims} {snap : ContainerStats} (hs : S.get? K = some spec)
    (hg : getContainerDimensions K dims spec M D = .ok (podKey, cd)) (hw : SnapshotWF snap)
    (rest : List ContainerStats) (pm : Dict (Dict Rat)) (pnm : Dict (Dict (Dict Rat)))
    (out : List Sample) :
    exec (k.processContainer S dims D (M, pm, pnm) (K, snap :: rest)) out =
      (.ok (if M.contains (containerIdOf K spec.aliases) then
              M.insert (containerIdOf K spec.aliases)
                (withUnit cd (if k.reportContainerMetrics then snapshotUnit snap else none))
            else M,
          accumulateFields (addPodMetric podKey) (· / 1000000000) (cpuUsage snap) cpuMetrics.items
            (accumulateFields (addPodMetric podKey) id (memoryData snap) memoryMetrics.items pm),
          (interfacesData snap).foldl (fun acc i =>
            accumulateFields (addPodNetMetric podKey i.name) id i.stats networkMetrics.items acc) pnm),
        out ++ if k.reportContainerMetrics then snapshotSamples snap cd else []) := by
  obtain ⟨hm, hn, hc⟩ := hw
  simp only [processContainer, exec_bind, exec_ofExcept, (Dict.getItem_eq_ok _ _ _).mpr hs, hg,
    pyIndex, List.get?_cons_zero, memoryBlock_exec k hm, filesystemBlock_exec, networkBlock_exec k hn,
    cpuBlock_exec k hc, exec_pure, withUnit_withUnit]
  cases k.reportContainerMetrics <;> simp [snapshotSamples, snapshotUnit]

/-- An entry none of whose aliases met in its stats key is a recorded container ID, and whose spec
carries no labels, is unaffiliated: it leaves the container-ID map and both accumulators as they
were, and its container-level samples are on the instance dimensions with the spec's image and,
as `container_name`, its first alias. -/
theorem processContainer_unlabelled (k : Kubernetes) {S : Dict ContainerSpec} {dims : Dims}
    {D M : Dict Dims} {K : String} {spec : ContainerSpec} {a : String} {as : List String}
    {snap : ContainerStats} (hs : S.get? K = some spec)
    (hM : M.get? (firstAliasIn K spec.aliases) = none) (ha : spec.aliases = a :: as)
    (hl : spec.labels = none) (hw : SnapshotWF snap) (rest : List ContainerStats)
    (pm : Dict (Dict Rat)) (pnm : Dict (Dict (Dict Rat))) (out : List Sample) :
    exec (k.processContainer S dims D (M, pm, pnm) (K, snap :: rest)) out =
      (.ok (M, pm, pnm), out ++ if k.reportContainerMetrics then
        snapshotSamples snap ((dims.insert "image" spec.image).insert "container_name" a) else []) := by
  rw [← containerIdOf_eq_firstAliasIn] at hM
  have hg : getContainerDimensions K dims spec M D =
      .ok (none, (dims.insert "image" spec.image).insert "container_name" a) := by
    rw [getContainerDimensions, hM]
    simp [unaffiliatedDims, hl, ha, pyIndex, bind, Except.bind, pure, Except.pure]
  have hc : M.contains (containerIdOf K spec.aliases) = false := by
    simp [Dict.contains, hM]
  rw [processContainer_exec k hs hg hw, hc, if_neg Bool.false_ne_true]
  simp only [accumulateFields_addPodMetric_none, accumulateFields_addPodNetMetric_none,
    List.foldl_fixed]

/-- A snapshot holding only a memory section, with `rss = 5`. -/
def rssSnapshot : ContainerStats :=
  ⟨true, some ⟨[("rss", 5)], by decide⟩, false, none, false, none, false, none⟩

/-- The infrastructure container of a pod, known to cAdvisor by its name and its ID `p0`. -/
def pauseSpec : ContainerSpec := ⟨["k8s_POD_web", "p0"], "pause", none⟩

/-- With `report_container_metrics` set, the RSS of the `pause` container is reported on its image
and its first alias, and neither map nor accumulator changes. -/
theorem processContainer_unlabelled_pause :
    startedMaps.1.get? (firstAliasIn "/docker/p0" pauseSpec.aliases) = none ∧
      exec (reportingCheck.processContainer ⟨[("/docker/p0", pauseSpec)], by decide⟩ Dict.empty
          startedMaps.2 (startedMaps.1, Dict.empty, Dict.empty) ("/docker/p0", [rssSnapshot])) [] =
        (.ok (startedMaps.1, Dict.empty, Dict.empty),
          [⟨.gauge, "container.mem.rss_bytes", some 5,
            ⟨[("image", "pause"), ("container_name", "k8s_POD_web"), ("unit", "bytes")], by decide⟩, none⟩]) := by
  have hM : startedMaps.1.get? (firstAliasIn "/docker/p0" pauseSpec.aliases) = none := by decide
  refine ⟨hM, (processContainer_unlabelled reportingCheck
    (show Dict.get? ⟨[("/docker/p0", pauseSpec)], _⟩ "/docker/p0" = some pauseSpec from rfl) hM rfl rfl
    (by decide) [] Dict.empty Dict.empty []).trans rfl⟩

/-! ## The flushes -/

theorem foldlM_sendCatalog_exec (pre : String) {l : List (String × Rat)}
    (h : ∀ p ∈ l, p.1 ∈ metricTypesUnits.keys) (dims : Dims) (out : List Sample) :
    exec (l.foldlM (fun dims p => sendCatalog pre p.1 p.2 dims) dims) out =
      (.ok (withUnit dims (l.map fun p => catalogUnit p.1).getLast?),
        out ++ l.flatMap fun p => catalogSamples pre p.1 p.2 dims) := by
  induction l generalizing dims out with
  | nil => simp [withUnit]
  | cons p rest ih =>
    simp only [List.mem_cons, forall_eq_or_imp] at h
    rw [List.foldlM_cons, exec_bind_of_ok (sendCatalog_exec h.1 pre p.2 dims out), ih h.2,
      show dims.insert "unit" (catalogUnit p.1) = withUnit dims (some (catalogUnit p.1)) from rfl,
      withUnit_withUnit, ← List.singleton_append, List.map_append, List.getLast?_append]
    simp

theorem sendAll_exec (pre : String) {metrics : Dict Rat}
    (h : ∀ n ∈ metrics.keys, n ∈ metricTypesUnits.keys) (dims : Dims) (out : List Sample) :
    exec (sendAll pre metrics dims) out =
      (.ok (withUnit dims (metrics.keys.map catalogUnit).getLast?),
        out ++ metrics.items.flatMap fun p => catalogSamples pre p.1 p.2 dims) := by
  rw [sendAll, foldlM_sendCatalog_exec pre (fun p hp => h p.1 (List.mem_map_of_mem _ hp)),
    Dict.keys, List.map_map]
  rfl

/-- The samples `send_pod_metrics` emits: every accumulated metric of every pod key, on that
key's record. -/
def podFlushSamples (podMetricsMap : Dict (Dict Rat)) (podDimensionMap : Dict Dims) : List Sample :=
  podMetricsMap.items.flatMap fun p =>
    p.2.items.flatMap fun q => catalogSamples "pod." q.1 q.2 (podDimensionMap.getD p.1 Dict.empty)

/-- The samples `send_network_pod_metrics` emits: every metric of every interface of every pod
key, on a copy of that key's record with the interface. -/
def podNetFlushSamples (podNetworkMetrics : Dict (Dict (Dict Rat))) (podDimensionMap : Dict Dims) :
    List Sample :=
  podNetworkMetrics.items.flatMap fun p => p.2.items.flatMap fun q =>
    q.2.items.flatMap fun r =>
      catalogSamples "pod." r.1 r.2 ((podDimensionMap.getD p.1 Dict.empty).insert "interface" q.1)

/-- The pod-dimension map after `send_pod_metrics`: each flushed pod's record holds the last
unit sent for it. -/
def flushedPodDims (podMetricsMap : Dict (Dict Rat)) (podDimensionMap : Dict Dims) : Dict Dims :=
  podDimensionMap.insertAll (podMetricsMap.items.map fun p =>
    (p.1, withUnit (podDimensionMap.getD p.1 Dict.empty) (p.2.keys.map catalogUnit).getLast?))

theorem foldlM_sendPodMetric_exec {l : List (String × Dict Rat)} (hnd : (l.map Prod.fst).Nodup)
    (hn : ∀ p ∈ l, ∀ n ∈ p.2.keys, n ∈ metricTypesUnits.keys) :
    ∀ (D : Dict Dims), (∀ p ∈ l, p.1 ∈ D.keys) → ∀ out : List Sample,
    exec (l.foldlM sendPodMetric D) out =
      (.ok (D.insertAll (l.map fun p =>
          (p.1, withUnit (D.getD p.1 Dict.empty) (p.2.keys.map catalogUnit).getLast?))),
        out ++ l.flatMap fun p =>
          p.2.items.flatMap fun q => catalogSamples "pod." q.1 q.2 (D.getD p.1 Dict.empty)) := by
  induction l with
  | nil => simp
  | cons p rest ih =>
    intro D hk out
    simp only [List.map_cons, List.nodup_cons] at hnd
    simp only [List.mem_cons, forall_eq_or_imp] at hn hk
    obtain ⟨d, hd⟩ := (Dict.mem_keys_iff _ _).mp hk.1
    let D' := D.insert p.1 (withUnit d (p.2.keys.map catalogUnit).getLast?)
    have hD : ∀ q ∈ rest, D'.getD q.1 Dict.empty = D.getD q.1 Dict.empty := fun q hq => by
      have : q.1 ≠ p.1 := fun h => hnd.1 (h ▸ List.mem_map_of_mem _ hq)
      simp [D', Dict.getD_eq, this]
    have e₁ : rest.map (fun q => (q.1, withUnit (D'.getD q.1 Dict.empty) (q.2.keys.map catalogUnit).getLast?)) =
        rest.map (fun q => (q.1, withUnit (D.getD q.1 Dict.empty) (q.2.keys.map catalogUnit).getLast?)) :=
      List.map_congr_left fun q hq => by rw [hD q hq]
    have e₂ : (rest.flatMap fun q =>
          q.2.items.flatMap fun r => catalogSamples "pod." r.1 r.2 (D'.getD q.1 Dict.empty)) =
        rest.flatMap fun q => q.2.items.flatMap fun r => catalogSamples "pod." r.1 r.2 (D.getD q.1 Dict.empty) :=
      List.flatMap_congr fun q hq => by rw [hD q hq]
    have hget : exec (MonadExcept.ofExcept (D.getItem p.1) : CheckM Dims) out = (.ok d, out) := by
      simp [hd]
    rw [List.foldlM_cons, sendPodMetric, exec_bind, exec_bind_of_ok hget,
      exec_bind_of_ok (sendAll_exec "pod." (hn.1) d _), exec_pure]
    dsimp only
    rw [ih hnd.2 hn.2 D' (fun q hq => (Dict.mem_keys_insert _ _ _ _).mpr (.inr (hk.2 q hq))), e₁, e₂]
    simp [D', Dict.getD_eq, hd]

theorem sendPodMetrics_exec {pm : Dict (Dict Rat)} {D : Dict Dims}
    (hk : ∀ key ∈ pm.keys, key ∈ D.keys) (hn : ∀ p ∈ pm.items, ∀ n ∈ p.2.keys, n ∈ metricTypesUnits.keys)
    (out : List Sample) :
    exec (sendPodMetrics pm D) out = (.ok (flushedPodDims pm D), out ++ podFlushSamples pm D) :=
  foldlM_sendPodMetric_exec pm.nodup hn D (fun p hp => hk p.1 (List.mem_map_of_mem _ hp)) out

theorem sendNetworkPodMetric_exec {D : Dict Dims} {p : String × Dict (Dict Rat)}
    (hk : p.1 ∈ D.keys) (hn : ∀ q ∈ p.2.items, ∀ n ∈ q.2.keys, n ∈ metricTypesUnits.keys)
    (out : List Sample) :
    exec (sendNetworkPodMetric D p) out =
      (.ok (), out ++ p.2.items.flatMap fun q => q.2.items.flatMap fun r =>
        catalogSamples "pod." r.1 r.2 ((D.getD p.1 Dict.empty).insert "interface" q.1)) := by
  obtain ⟨d, hd⟩ := (Dict.mem_keys_iff _ _).mp hk
  have hget : exec (MonadExcept.ofExcept (D.getItem p.1) : CheckM Dims) out = (.ok d, out) := by
    simp [hd]
  rw [sendNetworkPodMetric, exec_bind_of_ok hget, Dict.getD_eq, hd, Option.getD_some]
  clear hk hget
  generalize p.2.items = l at hn ⊢
  induction l generalizing out with
  | nil => simp only [List.forM_nil', exec_pure, List.flatMap_nil, List.append_nil]
  | cons q qs ih =>
    simp only [List.mem_cons, forall_eq_or_imp] at hn
    rw [List.forM_cons', exec_bind, exec_bind, sendAll_exec "pod." hn.1 _ out]
    dsimp only
    rw [exec_pure]
    dsimp only
    rw [ih _ hn.2, List.flatMap_cons, List.append_assoc]

theorem sendNetworkPodMetrics_exec {pnm : Dict (Dict (Dict Rat))} {D : Dict Dims}
    (hk : ∀ key ∈ pnm.keys, key ∈ D.keys)
    (hn : ∀ p ∈ pnm.items, ∀ q ∈ p.2.items, ∀ n ∈ q.2.keys, n ∈ metricTypesUnits.keys)
    (out : List Sample) :
    exec (sendNetworkPodMetrics pnm D) out = (.ok (), out ++ podNetFlushSamples pnm D) := by
  have hk' : ∀ p ∈ pnm.items, p.1 ∈ D.keys := fun p hp => hk p.1 (List.mem_map_of_mem _ hp)
  unfold sendNetworkPodMetrics podNetFlushSamples
  generalize pnm.items = l at hk' hn ⊢
  induction l generalizing out with
  | nil => simp
  | cons p rest ih =>
    simp only [List.mem_cons, forall_eq_or_imp] at hk' hn
    rw [List.forM_cons', exec_bind, sendNetworkPodMetric_exec hk'.1 hn.1]
    dsimp only
    rw [ih _ hk'.2 hn.2]
    simp

/-! ## The loop -/

theorem memoryBlock_wf {k : Kubernetes} {s : ContainerStats} {cd : Dims} {podKey : Option String}
    {podMetrics : Dict (Dict Rat)} {r : Dims × Dict (Dict Rat)} {out out' : List Sample}
    (h : exec (k.memoryBlock s cd podKey podMetrics) out = (.ok r, out')) :
    s.hasMemory → s.memory.isSome := by
  intro hm
  cases hs : s.memory
  · simp [memoryBlock, hm, hs, optItem, exec_bind] at h
  · rfl

theorem networkBlock_wf {k : Kubernetes} {s : ContainerStats} {cd : Dims} {podKey : Option String}
    {podNetworkMetrics r : Dict (Dict (Dict Rat))} {out out' : List Sample}
    (h : exec (k.networkBlock s cd podKey podNetworkMetrics) out = (.ok r, out')) :
    s.hasNetwork → s.network.isSome := by
  intro hn
  cases hs : s.network
  · simp [networkBlock, hn, hs, optItem, exec_bind] at h
  · rfl

theorem cpuBlock_wf {k : Kubernetes} {s : ContainerStats} {cd : Dims} {podKey : Option String}
    {podMetrics : Dict (Dict Rat)} {r : Dims × Dict (Dict Rat)} {out out' : List Sample}
    (h : exec (k.cpuBlock s cd podKey podMetrics) out = (.ok r, out')) :
    s.hasCpu → s.cpu.isSome := by
  intro hc
  cases hs : s.cpu
  · simp [cpuBlock, hc, hs, optItem, exec_bind] at h
  · rfl

theorem processContainer_ok {k : Kubernetes} {S : Dict ContainerSpec} {dims : Dims} {D : Dict Dims}
    {st st' : ContainersState} {K : String} {snaps : List ContainerStats} {out out' : List Sample}
    (h : exec (k.processContainer S dims D st (K, snaps)) out = (.ok st', out')) :
    ∃ spec podKey cd snap rest, S.get? K = some spec ∧
      getContainerDimensions K dims spec st.1 D = .ok (podKey, cd) ∧ snaps = snap :: rest ∧
      SnapshotWF snap := by
  obtain ⟨M, pm, pnm⟩ := st
  obtain ⟨spec, o₁, h₁, h⟩ := exec_bind_ok.mp h
  obtain ⟨⟨podKey, cd⟩, o₂, h₂, h⟩ := exec_bind_ok.mp h
  obtain ⟨snap, o₃, h₃, h⟩ := exec_bind_ok.mp h
  obtain ⟨⟨cd₁, pm₁⟩, o₄, h₄, h⟩ := exec_bind_ok.mp h
  obtain ⟨-, o₅, -, h⟩ := exec_bind_ok.mp h
  obtain ⟨pnm₁, o₆, h₆, h⟩ := exec_bind_ok.mp h
  obtain ⟨⟨cd₂, pm₂⟩, o₇, h₇, -⟩ := exec_bind_ok.mp h
  simp only [exec_ofExcept, Prod.mk.injEq, Dict.getItem_eq_ok] at h₁ h₂ h₃
  unfold pyIndex at h₃
  cases snaps with
  | nil => cases h₃.1
  | cons snap' rest =>
    simp only [List.get?_cons_zero, Except.ok.injEq] at h₃
    obtain ⟨rfl, -⟩ := h₃
    exact ⟨spec, podKey, cd, snap', rest, h₁.1, h₂.1,  rfl,
      memoryBlock_wf h₄, networkBlock_wf h₆, cpuBlock_wf h₇⟩

/-- What the flushes need of the loop's state: the container-ID map still linked to the
pod-dimension map `D`, and accumulators keyed by `D`'s pod keys that hold catalog names only. -/
structure LoopInv (D : Dict Dims) (st : ContainersState) : Prop where
  linked : MapsLinked st.1 D
  podMetrics : AccOk D st.2.1
  podNetworkMetrics : NetAccOk D st.2.2

@[simp] theorem podKeyOf_withUnit (cd : Dims) (o : Option String) :
    podKeyOf (withUnit cd o) = podKeyOf cd := by
  cases o <;> simp [withUnit, podKeyOf, Dict.getItem]

theorem mapsLinked_insert {M D : Dict Dims} (h : MapsLinked M D) {c : String} {cd₀ : Dims}
    (hc : M.get? c = some cd₀) (o : Option String) : MapsLinked (M.insert c (withUnit cd₀ o)) D := by
  intro c' cd hcd
  rw [Dict.get?_insert] at hcd
  split at hcd
  · cases hcd; rw [podKeyOf_withUnit]; exact h c cd₀ hc
  · exact h c' cd hcd

theorem mem_names {fields : List (String × String)} (h : ∀ p ∈ fields, p.2 ∈ metricTypesUnits.keys)
    {n : String} (hn : n ∈ fields.map Prod.snd) : n ∈ metricTypesUnits.keys := by
  obtain ⟨p, hp, rfl⟩ := List.mem_map.mp hn
  exact h p hp

theorem interfaces_netAccOk {D : Dict Dims} {podKey : Option String}
    (hk : ∀ key, podKey = some key → key ∈ D.keys) (interfaces : List InterfaceStats)
    {podNetworkMetrics : Dict (Dict (Dict Rat))} (h : NetAccOk D podNetworkMetrics) :
    NetAccOk D (interfaces.foldl (fun acc i =>
      accumulateFields (addPodNetMetric podKey i.name) id i.stats networkMetrics.items acc)
      podNetworkMetrics) := by
  induction interfaces generalizing podNetworkMetrics with
  | nil => exact h
  | cons i rest ih =>
    exact ih (accumulateFields_inv (NetAccOk D) (fun n v acc hn hacc =>
      addPodNetMetric_netAccOk hacc hk i.name (mem_names networkMetrics_names hn) v) _ _ h)

theorem processContainer_loopInv {k : Kubernetes} {S : Dict ContainerSpec} {dims : Dims}
    {D : Dict Dims} {st st' : ContainersState} {e : String × List ContainerStats}
    {out out' : List Sample} (hI : LoopInv D st)
    (h : exec (k.processContainer S dims D st e) out = (.ok st', out')) : LoopInv D st' := by
  obtain ⟨K, snaps⟩ := e
  obtain ⟨spec, podKey, cd, snap, rest, hs, hg, rfl, hw⟩ := processContainer_ok h
  obtain ⟨M, pm, pnm⟩ := st
  rw [processContainer_exec k hs hg hw] at h
  cases h
  have hk : ∀ key, podKey = some key → key ∈ D.keys := fun key hkey =>
    getContainerDimensions_podKey_mem hI.linked (hkey ▸ hg)
  refine ⟨?_, ?_, ?_⟩
  · dsimp only
    split
    · rename_i hc
      obtain ⟨cd₀, hcd₀⟩ := (Dict.contains_iff _ _).mp hc
      cases getContainerDimensions_of_get? hcd₀ hg
      exact mapsLinked_insert hI.linked hcd₀ _
    · exact hI.linked
  · refine accumulateFields_inv (AccOk D) (fun n v acc hn hacc =>
      addPodMetric_accOk hacc hk (mem_names cpuMetrics_names hn) v) _ _ ?_
    exact accumulateFields_inv (AccOk D) (fun n v acc hn hacc =>
      addPodMetric_accOk hacc hk (mem_names memoryMetrics_names hn) v) _ _ hI.podMetrics
  · exact interfaces_netAccOk hk _ hI.podNetworkMetrics

theorem processContainers_loopInv {k : Kubernetes} {S : Dict ContainerSpec} {dims : Dims}
    {D : Dict Dims} {entries : List (String × List ContainerStats)} {st st' : ContainersState}
    {out out' : List Sample} (hI : LoopInv D st)
    (h : exec (entries.foldlM (k.processContainer S dims D) st) out = (.ok st', out')) :
    LoopInv D st' :=
  foldlM_inv (LoopInv D) (fun _ _ _ _ _ _ hI' hs => processContainer_loopInv hI' hs) hI h

/-- A stats entry as the two documents give it: in the spec document with a well-formed spec, and
with a well-formed first snapshot. -/
def EntryWF (containersSpec : Dict ContainerSpec) (e : String × List ContainerStats) : Prop :=
  (∃ spec, containersSpec.get? e.1 = some spec ∧ SpecWF spec) ∧
    ∃ s rest, e.2 = s :: rest ∧ SnapshotWF s

/-- From a state whose container-ID map is linked, the loop over well-formed entries completes. -/
theorem processContainers_loop_ok (k : Kubernetes) {S : Dict ContainerSpec} {dims : Dims}
    {D : Dict Dims} {entries : List (String × List ContainerStats)} (he : ∀ e ∈ entries, EntryWF S e) :
    ∀ {st : ContainersState}, LoopInv D st → ∀ out : List Sample,
      ∃ st' samples, exec (entries.foldlM (k.processContainer S dims D) st) out =
        (.ok st', out ++ samples) := by
  induction entries with
  | nil => intro st _ out; exact ⟨st, [], by simp⟩
  | cons e rest ih =>
    intro st hI out
    obtain ⟨⟨spec, hs, hwf⟩, s, snaps, he₂, hsw⟩ := he e (List.mem_cons_self _ _)
    obtain ⟨K, _⟩ := e
    obtain ⟨M, pm, pnm⟩ := st
    dsimp only at hs he₂
    subst he₂
    obtain ⟨⟨podKey, cd⟩, hg⟩ := getContainerDimensions_ok hI.linked hwf K dims
    have h₁ := processContainer_exec k hs hg hsw snaps pm pnm out
    obtain ⟨st', samples, h₂⟩ :=
      ih (fun e he' => he e (List.mem_cons_of_mem _ he')) (processContainer_loopInv hI h₁) _
    exact ⟨st', _, by rw [List.foldlM_cons, exec_bind_of_ok h₁, h₂, List.append_assoc]⟩

theorem loop_reportOff {k : Kubernetes} (hr : k.reportContainerMetrics = false) {S : Dict ContainerSpec}
    {dims : Dims} {D : Dict Dims} (entries : List (String × List ContainerStats)) :
    ∀ {st st' : ContainersState} {out out' : List Sample},
      exec (entries.foldlM (k.processContainer S dims D) st) out = (.ok st', out') → out' = out := by
  induction entries with
  | nil => intro st st' out out' h; cases h; rfl
  | cons e rest ih =>
    intro st st' out out' h
    obtain ⟨st₁, o, h₁, h₂⟩ := exec_bind_ok.mp h
    obtain ⟨spec, podKey, cd, snap, snaps, hs, hg, he, hw⟩ := processContainer_ok h₁
    obtain ⟨K, _⟩ := e
    obtain ⟨M, pm, pnm⟩ := st
    dsimp only at he
    subst he
    simp only [processContainer_exec k hs hg hw, hr, Bool.false_eq_true, ↓reduceIte,
      List.append_nil] at h₁
    rw [ih h₂, (Prod.mk.inj h₁).2]

theorem AccOk.keys {D : Dict Dims} {pm : Dict (Dict Rat)} (h : AccOk D pm) :
    ∀ key ∈ pm.keys, key ∈ D.keys := fun key hk => by
  obtain ⟨m, hm⟩ := (Dict.mem_keys_iff _ _).mp hk
  exact (h key m hm).1

theorem AccOk.names {D : Dict Dims} {pm : Dict (Dict Rat)} (h : AccOk D pm) :
    ∀ p ∈ pm.items, ∀ n ∈ p.2.keys, n ∈ metricTypesUnits.keys := fun p hp =>
  (h p.1 p.2 ((Dict.mem_items_iff _ _ _).mp hp)).2

theorem NetAccOk.keys {D : Dict Dims} {pnm : Dict (Dict (Dict Rat))} (h : NetAccOk D pnm) :
    ∀ key ∈ pnm.keys, key ∈ D.keys := fun key hk => by
  obtain ⟨m, hm⟩ := (Dict.mem_keys_iff _ _).mp hk
  exact (h key m hm).1

theorem NetAccOk.names {D : Dict Dims} {pnm : Dict (Dict (Dict Rat))} (h : NetAccOk D pnm) :
    ∀ p ∈ pnm.items, ∀ q ∈ p.2.items, ∀ n ∈ q.2.keys, n ∈ metricTypesUnits.keys := fun p hp q hq =>
  (h p.1 p.2 ((Dict.mem_items_iff _ _ _).mp hp)).2 q.1 q.2 ((Dict.mem_items_iff _ _ _).mp hq)

theorem mem_keys_flushedPodDims {D : Dict Dims} (pm : Dict (Dict Rat)) {key : String}
    (h : key ∈ D.keys) : key ∈ (flushedPodDims pm D).keys :=
  (Dict.mem_keys_insertAll _ _ _).mpr (.inr h)

/-- When the loop ends in a state that keeps the invariant, `_process_containers` flushes both
accumulators and returns. -/
theorem processContainers_exec_of_loop (k : Kubernetes) {S : Dict ContainerSpec}
    {T : Dict (List ContainerStats)} {dims : Dims} {M D : Dict Dims} {st : ContainersState}
    {out out' : List Sample}
    (hloop : exec (T.items.foldlM (k.processContainer S dims D) (M, Dict.empty, Dict.empty)) out =
      (.ok st, out')) (hI : LoopInv D st) :
    exec (k.processContainers (.ok S) (.ok T) dims M D) out =
      (.ok (), out' ++ podFlushSamples st.2.1 D ++
        podNetFlushSamples st.2.2 (flushedPodDims st.2.1 D)) := by
  rw [processContainers, exec_bind_of_ok hloop]
  obtain ⟨M', pm, pnm⟩ := st
  rw [exec_bind_of_ok (sendPodMetrics_exec hI.podMetrics.keys hI.podMetrics.names out'),
    sendNetworkPodMetrics_exec (fun key hk => mem_keys_flushedPodDims _ (hI.podNetworkMetrics.keys key hk))
      hI.podNetworkMetrics.names, List.append_assoc]

theorem loopInv_init {k : Kubernetes} {pods : List Pod} {L : List String} {dims : Dims}
    {M D : Dict Dims} {out out₁ : List Sample}
    (hP : exec (k.processPods pods L dims Dict.empty Dict.empty) out = (.ok (M, D), out₁)) :
    LoopInv D (M, Dict.empty, Dict.empty) :=
  ⟨processPods_linked hP, (fun _ _ h => by cases h), (fun _ _ h => by cases h)⟩

/-- `_process_pods` links the container-ID map to the pod-dimension map; the loop of
`_process_containers` keeps the link through its `unit` updates and fills the accumulators with
pod keys of the pod-dimension map and catalog names only; so both flushes complete. -/
theorem processContainers_flush_ok {k : Kubernetes} {pods : List Pod} {L : List String}
    {dims : Dims} {M D : Dict Dims} {out out₁ : List Sample}
    (hP : exec (k.processPods pods L dims Dict.empty Dict.empty) out = (.ok (M, D), out₁))
    {S : Dict ContainerSpec} {T : Dict (List ContainerStats)} {st : ContainersState}
    {out₂ out₃ : List Sample}
    (hloop : exec (T.items.foldlM (k.processContainer S dims D) (M, Dict.empty, Dict.empty)) out₂ =
      (.ok st, out₃)) :
    MapsLinked M D ∧ MapsLinked st.1 D ∧
      (∀ key ∈ st.2.1.keys, key ∈ D.keys) ∧ (∀ key ∈ st.2.2.keys, key ∈ D.keys) ∧
      (∀ p ∈ st.2.1.items, ∀ n ∈ p.2.keys, n ∈ metricTypesUnits.keys) ∧
      (∀ p ∈ st.2.2.items, ∀ q ∈ p.2.items, ∀ n ∈ q.2.keys, n ∈ metricTypesUnits.keys) ∧
      exec (sendPodMetrics st.2.1 D) out₃ =
        (.ok (flushedPodDims st.2.1 D), out₃ ++ podFlushSamples st.2.1 D) ∧
      ∀ out₄, exec (sendNetworkPodMetrics st.2.2 (flushedPodDims st.2.1 D)) out₄ =
        (.ok (), out₄ ++ podNetFlushSamples st.2.2 (flushedPodDims st.2.1 D)) := by
  have hI := processContainers_loopInv (loopInv_init hP) hloop
  refine ⟨processPods_linked hP, hI.linked, hI.podMetrics.keys, hI.podNetworkMetrics.keys, hI.podMetrics.names,
    hI.podNetworkMetrics.names, sendPodMetrics_exec hI.podMetrics.keys hI.podMetrics.names out₃,
    fun out₄ => sendNetworkPodMetrics_exec ?_ hI.podNetworkMetrics.names out₄⟩
  exact fun key hk => mem_keys_flushedPodDims _ (hI.podNetworkMetrics.keys key hk)

def startedSpecs : Dict ContainerSpec := ⟨[("/docker/abc", startedSpec)], by decide⟩

def startedStats : Dict (List ContainerStats) := ⟨[("/docker/abc", [rssSnapshot])], by decide⟩

theorem startedStats_entryWF : ∀ e ∈ startedStats.items, EntryWF startedSpecs e := by
  intro e he
  simp only [startedStats, List.mem_singleton] at he
  subst he
  exact ⟨⟨startedSpec, rfl, by decide, fun _ h => by cases h⟩, rssSnapshot, [], rfl, by decide⟩

def startedLoop : ContainersState :=
  match (exec (startedStats.items.foldlM (plainCheck.processContainer startedSpecs Dict.empty
      startedMaps.2) (startedMaps.1, Dict.empty, Dict.empty)) []).1 with
  | .ok st => st
  | .error _ => (Dict.empty, Dict.empty, Dict.empty)

theorem processContainers_flush_ok_started :
    exec (plainCheck.processPods [startedPod] [] Dict.empty Dict.empty Dict.empty) [] =
        (.ok startedMaps, (exec (plainCheck.processPods [startedPod] [] Dict.empty Dict.empty
          Dict.empty) []).2) ∧
      exec (startedStats.items.foldlM (plainCheck.processContainer startedSpecs Dict.empty
          startedMaps.2) (startedMaps.1, Dict.empty, Dict.empty)) [] =
        (.ok startedLoop, (exec (startedStats.items.foldlM (plainCheck.processContainer startedSpecs
          Dict.empty startedMaps.2) (startedMaps.1, Dict.empty, Dict.empty)) []).2) ∧
      (MapsLinked startedMaps.1 startedMaps.2 ∧ MapsLinked startedLoop.1 startedMaps.2 ∧
      (∀ key ∈ startedLoop.2.1.keys, key ∈ startedMaps.2.keys) ∧
      (∀ key ∈ startedLoop.2.2.keys, key ∈ startedMaps.2.keys) ∧
      (∀ p ∈ startedLoop.2.1.items, ∀ n ∈ p.2.keys, n ∈ metricTypesUnits.keys) ∧
      (∀ p ∈ startedLoop.2.2.items, ∀ q ∈ p.2.items, ∀ n ∈ q.2.keys, n ∈ metricTypesUnits.keys) ∧
      exec (sendPodMetrics startedLoop.2.1 startedMaps.2)
          (exec (startedStats.items.foldlM (plainCheck.processContainer startedSpecs Dict.empty
            startedMaps.2) (startedMaps.1, Dict.empty, Dict.empty)) []).2 =
        (.ok (flushedPodDims startedLoop.2.1 startedMaps.2),
          (exec (startedStats.items.foldlM (plainCheck.processContainer startedSpecs Dict.empty
            startedMaps.2) (startedMaps.1, Dict.empty, Dict.empty)) []).2 ++
            podFlushSamples startedLoop.2.1 startedMaps.2) ∧
      ∀ out₄, exec (sendNetworkPodMetrics startedLoop.2.2 (flushedPodDims startedLoop.2.1
          startedMaps.2)) out₄ =
        (.ok (), out₄ ++ podNetFlushSamples startedLoop.2.2 (flushedPodDims startedLoop.2.1
          startedMaps.2))) := by
  have hloop : exec (startedStats.items.foldlM (plainCheck.processContainer startedSpecs Dict.empty
      startedMaps.2) (startedMaps.1, Dict.empty, Dict.empty)) [] =
      (.ok startedLoop, (exec (startedStats.items.foldlM (plainCheck.processContainer startedSpecs
        Dict.empty startedMaps.2) (startedMaps.1, Dict.empty, Dict.empty)) []).2) := rfl
  exact ⟨processPods_startedPod, hloop, processContainers_flush_ok processPods_startedPod hloop⟩

/-- After `_process_pods`, `_process_containers` returns on every stats document whose entries are
in the spec document with well-formed specs and first snapshots: the loop completes, then both
flushes complete. -/
theorem processContainers_completes {k : Kubernetes} {pods : List Pod} {L : List String}
    {dims : Dims} {M D : Dict Dims} {out out₁ : List Sample}
    (hP : exec (k.processPods pods L dims Dict.empty Dict.empty) out = (.ok (M, D), out₁))
    {S : Dict ContainerSpec} {T : Dict (List ContainerStats)} (hT : ∀ e ∈ T.items, EntryWF S e)
    (out₂ : List Sample) :
    ∃ st samples,
      exec (T.items.foldlM (k.processContainer S dims D) (M, Dict.empty, Dict.empty)) out₂ =
        (.ok st, out₂ ++ samples) ∧
      exec (k.processContainers (.ok S) (.ok T) dims M D) out₂ =
        (.ok (), out₂ ++ samples ++ podFlushSamples st.2.1 D ++
          podNetFlushSamples st.2.2 (flushedPodDims st.2.1 D)) := by
  obtain ⟨st, samples, hloop⟩ := processContainers_loop_ok k hT (loopInv_init hP) out₂
  exact ⟨st, samples, hloop,
    processContainers_exec_of_loop k hloop (processContainers_loopInv (loopInv_init hP) hloop)⟩

theorem processContainers_completes_started :
    exec (plainCheck.processPods [startedPod] [] Dict.empty Dict.empty Dict.empty) [] =
        (.ok startedMaps, (exec (plainCheck.processPods [startedPod] [] Dict.empty Dict.empty
          Dict.empty) []).2) ∧
      (∀ e ∈ startedStats.items, EntryWF startedSpecs e) ∧
      ∃ st samples,
        exec (startedStats.items.foldlM (plainCheck.processContainer startedSpecs Dict.empty
            startedMaps.2) (startedMaps.1, Dict.empty, Dict.empty)) [] = (.ok st, [] ++ samples) ∧
        exec (plainCheck.processContainers (.ok startedSpecs) (.ok startedStats) Dict.empty
            startedMaps.1 startedMaps.2) [] =
          (.ok (), [] ++ samples ++ podFlushSamples st.2.1 startedMaps.2 ++
            podNetFlushSamples st.2.2 (flushedPodDims st.2.1 startedMaps.2)) :=
  ⟨processPods_startedPod, startedStats_entryWF,
    processContainers_completes processPods_startedPod startedStats_entryWF []⟩

/-- The stats document of a later fetch: `startedPod`'s container, then a container started after
the spec document was fetched. -/
def raceStats : Dict (List ContainerStats) :=
  ⟨[("/docker/abc", [rssSnapshot]), ("/docker/new", [rssSnapshot])], by decide⟩

/-- `containers_spec[container]` stands outside any `try`: a stats key missing from the spec
document raises `KeyError` and no pod-level sample is flushed, while the same documents without
that key flush `pod.mem.rss_bytes`. -/
theorem processContainers_raceStats :
    exec (plainCheck.processContainers (.ok startedSpecs) (.ok raceStats) Dict.empty startedMaps.1
        startedMaps.2) [] = (.error (.keyError "/docker/new"), []) ∧
      (exec (plainCheck.processContainers (.ok startedSpecs) (.ok startedStats) Dict.empty
        startedMaps.1 startedMaps.2) []).2.map (·.name) = ["pod.mem.rss_bytes"] :=
  ⟨rfl, rfl⟩

end Kubernetes
end MonascaAgent
