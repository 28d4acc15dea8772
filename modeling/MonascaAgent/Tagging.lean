import MonascaAgent.Check

/-!
# MonascaAgent.Tagging

Which samples a cycle ties to the host, and what they keep of the instance dimensions. `check`
deletes `hostname` from the instance dimensions, since most samples are not the host's; the samples
of a pod or a container are then sent with `hostname="SUPPRESS"`, by `_process_pods` explicitly and
by `_send_metrics` whenever the dimensions hold `pod_name`.

* `Extends L dims r` — `r` holds every key of the instance dimensions `dims`, with its value
  unless a cycle with the configured labels `L` writes that key (`writtenKeys`).
* `WellTagged L dims s` — `s` extends the instance dimensions, and is marked `SUPPRESS` exactly
  when its dimensions name a pod.
* `PodRecord`, `Records` — the invariant of the container-ID and pod-dimension maps that makes
  the samples built from their records well tagged.
* `check_wellTagged` — every sample of a cycle is well tagged, for every outcome of the fetches
  and on every path, the raising ones included.
* `check_alwaysUnhealthy` — every cycle starts with `kubelet.health_status = 1`.
-/

namespace MonascaAgent
namespace Kubernetes

open CheckM

/-! ## Records and samples -/

/-- The keys the container path and the parsers add to a record. -/
def containerKeys : List String := ["container_name", "image", "unit", "device", "interface"]

/-- The keys a cycle writes over the instance dimensions, with `L` the configured labels. -/
def writtenKeys (L : List String) : List String := reservedDimensions ++ L ++ containerKeys

/-- `r` extends the instance dimensions `dims`: it holds every key of `dims`, and the value of
each key a cycle does not write. -/
structure Extends (L : List String) (dims r : Dims) : Prop where
  keys : ∀ x ∈ dims.keys, x ∈ r.keys
  values : ∀ x ∉ writtenKeys L, ∀ v, dims.get? x = some v → r.get? x = some v

/-- The dimensions of a pod or of one of its containers: they extend the instance dimensions
and name the pod. -/
structure PodRecord (L : List String) (dims r : Dims) : Prop where
  base : Extends L dims r
  podName : "pod_name" ∈ r.keys

def Records (R : Dims → Prop) (m : Dict Dims) : Prop := ∀ c r, m.get? c = some r → R r

/-- A sample as a cycle should emit it: on dimensions that extend the instance dimensions, and
tied to no host exactly when its dimensions name a pod. -/
def WellTagged (L : List String) (dims : Dims) (s : Sample) : Prop :=
  Extends L dims s.dimensions ∧ (s.hostname = some "SUPPRESS" ↔ "pod_name" ∈ s.dimensions.keys)

variable {L : List String} {dims : Dims}

theorem extends_refl (L : List String) (dims : Dims) : Extends L dims dims :=
  ⟨fun _ h => h, fun _ _ _ h => h⟩

theorem Extends.insert {r : Dims} (h : Extends L dims r) {k : String} (hk : k ∈ containerKeys)
    (v : String) : Extends L dims (r.insert k v) := by
  refine ⟨fun x hx => (Dict.mem_keys_insert _ _ _ _).mpr (.inr (h.keys x hx)), fun x hx v' hv => ?_⟩
  have : x ≠ k := by
    rintro rfl
    exact hx (List.mem_append_right _ hk)
  rw [Dict.get?_insert, if_neg this]
  exact h.values x hx v' hv

theorem Extends.update {r e : Dims} (h : Extends L dims r) (he : Extends L dims e) :
    Extends L dims (r.update e) :=
  ⟨fun x hx => (Dict.mem_keys_insertAll _ _ _).mpr (.inr (h.keys x hx)),
    fun x hx v hv => by rw [Dict.get?_update, he.values x hx v hv]; rfl⟩

theorem Extends.withUnit {r : Dims} (h : Extends L dims r) (o : Option String) :
    Extends L dims (withUnit r o) := by
  cases o
  exacts [h, h.insert (by decide) _]

theorem PodRecord.insert {r : Dims} (h : PodRecord L dims r) {k : String} (hk : k ∈ containerKeys)
    (v : String) : PodRecord L dims (r.insert k v) :=
  ⟨h.base.insert hk v, (Dict.mem_keys_insert _ _ _ _).mpr (.inr h.podName)⟩

/-- A pod's dimensions merged over the instance dimensions change no value outside the pod's own
keys and the configured labels. -/
theorem podRecord_podDimsOf (k : Kubernetes) (L : List String) (dims : Dims) (m : PodMetadata) :
    PodRecord L dims (k.podDimsOf L dims m) := by
  refine ⟨⟨fun x hx => (Dict.mem_keys_insertAll _ _ _).mpr (.inr hx), fun x hx v hv => ?_⟩,
    (Dict.mem_keys_iff _ _).mpr ?_⟩
  · simp only [writtenKeys, List.mem_append, not_or] at hx
    rw [podDimsOf, Dict.get?_update, getPodDimensions_get?_eq_none k m L hx.1.1 hx.1.2, hv]
    rfl
  · obtain ⟨v, hv⟩ := Option.ne_none_iff_exists'.mp
      (getPodDimensions_get?_ne_none k m L (.inl rfl))
    exact ⟨v, by simp [podDimsOf, hv]⟩

theorem records_empty (R : Dims → Prop) : Records R Dict.empty := fun _ _ h => by cases h

theorem Records.insert {R : Dims → Prop} {m : Dict Dims} (h : Records R m) {c : String} {r : Dims}
    (hr : R r) : Records R (m.insert c r) := by
  intro c' r' h'
  rw [Dict.get?_insert] at h'
  split at h'
  · cases h'; exact hr
  · exact h _ _ h'

theorem Records.getItem {R : Dims → Prop} {m : Dict Dims} (h : Records R m) {c : String} {r : Dims}
    (hr : m.getItem c = .ok r) : R r :=
  h c r ((Dict.getItem_eq_ok _ _ _).mp hr)

theorem hostnameOf_eq_suppress (d : Dims) : hostnameOf d = some "SUPPRESS" ↔ "pod_name" ∈ d.keys := by
  rw [Dict.mem_keys_iff, ← Dict.contains_iff]
  unfold hostnameOf
  split <;> simp_all

theorem wellTagged_hostnameOf {d : Dims} (h : Extends L dims d) (t : MetricType) (n : String)
    (v : Option Rat) : WellTagged L dims ⟨t, n, v, d, hostnameOf d⟩ :=
  ⟨h, hostnameOf_eq_suppress d⟩

theorem wellTagged_suppress {d : Dims} (h : PodRecord L dims d) (t : MetricType) (n : String)
    (v : Option Rat) : WellTagged L dims ⟨t, n, v, d, some "SUPPRESS"⟩ :=
  ⟨h.base, iff_of_true rfl h.podName⟩

/-! ## The catalog and the parsers -/

theorem sendMetrics_tagged {d : Dims} (h : Extends L dims d) (metricName : String) (value : Rat)
    (types units : List String) :
    Emits (WellTagged L dims) (sendMetrics metricName value d types units) (Extends L dims) := by
  unfold sendMetrics
  refine emits_foldlM (fun d t _ hd => ?_) h
  refine emits_ite (fun _ => ?_) fun _ => emits_ite (fun _ => ?_) fun _ => emits_pure hd
  · exact emits_bind (emits_ofExcept fun _ _ => trivial) fun _ _ =>
      emits_bind (emits_rate (wellTagged_hostnameOf (hd.insert (by decide) _) _ _ _)) fun _ _ =>
        emits_pure (hd.insert (by decide) _)
  · exact emits_bind (emits_ofExcept fun _ _ => trivial) fun _ _ =>
      emits_bind (emits_gauge (wellTagged_hostnameOf (hd.insert (by decide) _) _ _ _)) fun _ _ =>
        emits_pure (hd.insert (by decide) _)

theorem sendCatalog_tagged {d : Dims} (h : Extends L dims d) (pre name : String) (value : Rat) :
    Emits (WellTagged L dims) (sendCatalog pre name value d) (Extends L dims) :=
  emits_bind (emits_ofExcept fun _ _ => trivial) fun _ _ => sendMetrics_tagged h _ _ _ _

theorem parseFields_tagged (k : Kubernetes) {σ : Type} (accumulate : String → Rat → σ → σ)
    (convert : Rat → Rat) (data : Dict Rat) (fields : List (String × String)) :
    ∀ {d : Dims} (acc : σ), Extends L dims d →
      Emits (WellTagged L dims) (k.parseFields accumulate convert data fields d acc)
        fun r => Extends L dims r.1 := by
  induction fields with
  | nil => exact fun _ h => emits_pure h
  | cons p rest ih =>
    intro d acc h
    rw [parseFields]
    split
    · exact ih acc h
    · dsimp only
      exact emits_ite (fun _ => emits_bind (sendCatalog_tagged h _ _ _) fun _ hd => ih _ hd)
        fun _ => emits_pure_bind (ih _ h)

theorem parseFilesystem_tagged (k : Kubernetes) (filesystemData : List FilesystemStats) {d : Dims}
    (h : Extends L dims d) : Emits (WellTagged L dims) (k.parseFilesystem filesystemData d) fun _ => True := by
  unfold parseFilesystem
  exact emits_ite (fun _ => emits_pure trivial) fun _ => emits_forM fun _ _ =>
    emits_bind (parseFields_tagged k _ _ _ _ () (h.insert (by decide) _)) fun _ _ => emits_pure trivial

theorem parseNetwork_tagged (k : Kubernetes) (networkData : NetworkStats) {d : Dims}
    (h : Extends L dims d) (podKey : Option String) (podNetMetrics : Dict (Dict (Dict Rat))) :
    Emits (WellTagged L dims) (k.parseNetwork networkData d podKey podNetMetrics) fun _ => True :=
  emits_foldlM (fun _ _ _ _ => emits_bind (parseFields_tagged k _ _ _ _ _ (h.insert (by decide) _))
    fun _ _ => emits_pure trivial) trivial

theorem memoryBlock_tagged (k : Kubernetes) (s : ContainerStats) {d : Dims} (h : Extends L dims d)
    (podKey : Option String) (podMetrics : Dict (Dict Rat)) :
    Emits (WellTagged L dims) (k.memoryBlock s d podKey podMetrics) fun r => Extends L dims r.1 := by
  unfold memoryBlock parseMemory
  exact emits_ite (fun _ => emits_bind (emits_ofExcept fun _ _ => trivial) fun _ _ =>
    emits_ite (fun _ => parseFields_tagged k _ _ _ _ _ h) fun _ => emits_pure h) fun _ => emits_pure h

theorem filesystemBlock_tagged (k : Kubernetes) (s : ContainerStats) {d : Dims} (h : Extends L dims d) :
    Emits (WellTagged L dims) (k.filesystemBlock s d) fun _ => True := by
  unfold filesystemBlock
  refine emits_ite (fun _ => ?_) fun _ => emits_pure trivial
  split
  · exact emits_ite (fun _ => parseFilesystem_tagged k _ h) fun _ => emits_pure trivial
  · exact emits_pure trivial

theorem networkBlock_tagged (k : Kubernetes) (s : ContainerStats) {d : Dims} (h : Extends L dims d)
    (podKey : Option String) (podNetworkMetrics : Dict (Dict (Dict Rat))) :
    Emits (WellTagged L dims) (k.networkBlock s d podKey podNetworkMetrics) fun _ => True := by
  unfold networkBlock
  exact emits_ite (fun _ => emits_bind (emits_ofExcept fun _ _ => trivial) fun _ _ =>
    parseNetwork_tagged k _ h _ _) fun _ => emits_pure trivial

theorem cpuBlock_tagged (k : Kubernetes) (s : ContainerStats) {d : Dims} (h : Extends L dims d)
    (podKey : Option String) (podMetrics : Dict (Dict Rat)) :
    Emits (WellTagged L dims) (k.cpuBlock s d podKey podMetrics) fun r => Extends L dims r.1 := by
  unfold cpuBlock parseCpu
  exact emits_ite (fun _ => emits_bind (emits_ofExcept fun _ _ => trivial) fun _ _ =>
    parseFields_tagged k _ _ _ _ _ h) fun _ => emits_pure h

/-! ## `_process_containers` -/

theorem unaffiliatedDims_extends {spec : ContainerSpec} {D : Dict Dims} (hD : Records (Extends L dims) D)
    {r : Option String × Dims} (h : unaffiliatedDims dims spec D = .ok r) : Extends L dims r.2 := by
  have hfresh : ∀ a, Extends L dims ((dims.insert "image" spec.image).insert "container_name" a) :=
    fun _ => ((extends_refl L dims).insert (by decide) _).insert (by decide) _
  unfold unaffiliatedDims at h
  simp only [bind, Except.bind, pure, Except.pure] at h
  repeat' split at h
  all_goals try cases h
  all_goals first
    | exact hfresh _
    | exact ((hfresh _).update (hD _ _ ‹_›)).insert (by decide) _

theorem getContainerDimensions_extends {M D : Dict Dims} (hM : Records (Extends L dims) M)
    (hD : Records (Extends L dims) D) {container : String} {spec : ContainerSpec}
    {r : Option String × Dims} (h : getContainerDimensions container dims spec M D = .ok r) :
    Extends L dims r.2 := by
  unfold getContainerDimensions at h
  split at h
  · rename_i cd₀ hc
    cases hk : podKeyOf cd₀ <;> simp only [hk, bind, Except.bind, pure, Except.pure] at h <;> cases h
    exact hM _ _ hc
  · exact unaffiliatedDims_extends hD h

theorem processContainer_tagged (k : Kubernetes) (S : Dict ContainerSpec) {D : Dict Dims}
    (hD : Records (Extends L dims) D) {st : ContainersState} (hM : Records (Extends L dims) st.1) (e : String × List ContainerStats) :
    Emits (WellTagged L dims) (k.processContainer S dims D st e) fun st' => Records (Extends L dims) st'.1 := by
  obtain ⟨K, snaps⟩ := e
  obtain ⟨M, pm, pnm⟩ := st
  refine emits_bind (emits_ofExcept fun _ _ => trivial) fun spec _ => ?_
  refine emits_bind (emits_ofExcept fun _ hr => getContainerDimensions_extends hM hD hr) ?_
  rintro ⟨podKey, cd⟩ hcd
  refine emits_bind (emits_ofExcept fun _ _ => trivial) fun snap _ => ?_
  refine emits_bind (memoryBlock_tagged k snap hcd podKey pm) ?_
  rintro ⟨cd₁, pm₁⟩ hcd₁
  refine emits_bind (filesystemBlock_tagged k snap hcd₁) fun _ _ => ?_
  refine emits_bind (networkBlock_tagged k snap hcd₁ podKey pnm) fun pnm₁ _ => ?_
  refine emits_bind (cpuBlock_tagged k snap hcd₁ podKey pm₁) ?_
  rintro ⟨cd₂, pm₂⟩ hcd₂
  refine emits_pure ?_
  dsimp only
  split
  exacts [hM.insert hcd₂, hM]

theorem sendAll_tagged (pre : String) (metrics : Dict Rat) {d : Dims} (h : Extends L dims d) :
    Emits (WellTagged L dims) (sendAll pre metrics d) (Extends L dims) :=
  emits_foldlM (fun _ _ _ hd => sendCatalog_tagged hd _ _ _) h

theorem sendPodMetrics_tagged (podMetricsMap : Dict (Dict Rat)) {D : Dict Dims}
    (hD : Records (Extends L dims) D) :
    Emits (WellTagged L dims) (sendPodMetrics podMetricsMap D) (Records (Extends L dims)) :=
  emits_foldlM (fun _ _ _ hD => emits_bind (emits_ofExcept fun _ hr => hD.getItem hr) fun _ hpd =>
    emits_bind (sendAll_tagged _ _ hpd) fun _ hpd' => emits_pure (hD.insert hpd')) hD

theorem sendNetworkPodMetrics_tagged (podNetworkMetrics : Dict (Dict (Dict Rat))) {D : Dict Dims}
    (hD : Records (Extends L dims) D) :
    Emits (WellTagged L dims) (sendNetworkPodMetrics podNetworkMetrics D) fun _ => True :=
  emits_forM fun _ _ => emits_bind (emits_ofExcept fun _ hr => hD.getItem hr) fun _ hpd =>
    emits_forM fun _ _ => emits_bind (sendAll_tagged _ _ (hpd.insert (by decide) _)) fun _ _ => emits_pure trivial

/-- From maps whose records extend the instance dimensions, `_process_containers` emits only well
tagged samples, whatever the documents and wherever it raises. -/
theorem processContainers_tagged (k : Kubernetes) (cadvisorSpec : Except Err (Dict ContainerSpec))
    (cadvisorMetrics : Except Err (Dict (List ContainerStats))) {M D : Dict Dims}
    (hM : Records (Extends L dims) M) (hD : Records (Extends L dims) D) :
    Emits (WellTagged L dims) (k.processContainers cadvisorSpec cadvisorMetrics dims M D) fun _ => True := by
  unfold processContainers
  split
  · refine emits_bind (emits_foldlM (fun _ e _ hst => processContainer_tagged k _ hD hst e) hM) ?_
    rintro ⟨_, pm, pnm⟩ -
    exact emits_bind (sendPodMetrics_tagged pm hD) fun _ hD' => sendNetworkPodMetrics_tagged pnm hD'
  · exact emits_pure trivial

/-! ## `_process_pods` -/

theorem processContainerStatus_tagged (k : Kubernetes) {podDims : Dims} (hp : PodRecord L dims podDims)
    {st : Dict Dims × Dict String × Nat} (hst : Records (PodRecord L dims) st.1) (cs : ContainerStatus) :
    Emits (WellTagged L dims) (k.processContainerStatus podDims st cs)
      fun st' => Records (PodRecord L dims) st'.1 := by
  have hc : PodRecord L dims (statusDims podDims cs) := (hp.insert (by decide) _).insert (by decide) _
  unfold processContainerStatus
  dsimp only
  exact emits_ite (fun _ => emits_bind (emits_gauge (wellTagged_suppress hc _ _ _)) fun _ _ =>
    emits_bind (emits_gauge (wellTagged_suppress hc _ _ _)) fun _ _ => emits_pure (hst.insert hc))
    fun _ => emits_pure_bind (emits_pure (hst.insert hc))

def limitNames : List String :=
  ["container.cpu.limit", "container.memory.limit_bytes", "container.request.cpu",
    "container.request.memory_bytes"]

/-- A sample of `_report_container_limits` against the container-ID map `M`: one of its four
names, on a record of `M`, tied to no host. -/
def LimitSample (M : Dict Dims) (s : Sample) : Prop :=
  s.name ∈ limitNames ∧ (∃ c, M.get? c = some s.dimensions) ∧ s.hostname = some "SUPPRESS"

theorem reportResources_emits (k : Kubernetes) {M : Dict Dims} {c : String} {containerDims : Dims}
    (hc : M.get? c = some containerDims) (resources : Dict String) {cpuName memoryName : String}
    (hn : cpuName ∈ limitNames ∧ memoryName ∈ limitNames) :
    Emits (LimitSample M) (k.reportResources containerDims resources cpuName memoryName)
      fun _ => True := by
  unfold reportResources
  dsimp only
  refine emits_ite (fun _ => emits_bind (emits_ofExcept fun _ _ => trivial) fun _ _ =>
    emits_bind (emits_ofExcept fun _ _ => trivial) fun _ _ =>
      emits_bind (emits_gauge ⟨hn.1, ⟨c, hc⟩, rfl⟩) fun _ _ => ?_)
    fun _ => emits_pure_bind ?_
  all_goals refine emits_ite (fun _ => ?_) fun _ => emits_pure trivial
  all_goals exact emits_bind (emits_ofExcept fun _ _ => trivial) fun _ _ =>
    emits_bind (emits_ofExcept fun _ _ => trivial) fun _ _ => emits_gauge ⟨hn.2, ⟨c, hc⟩, rfl⟩

/-- Whatever the containers and wherever it raises, `_report_container_limits` emits only its four
limit and request samples, each on a record of the container-ID map. -/
theorem reportContainerLimits_emits (k : Kubernetes) (podContainers : List Container) (M : Dict Dims)
    (name2id : Dict String) :
    Emits (LimitSample M) (k.reportContainerLimits podContainers M name2id) fun _ => True := by
  refine emits_forM fun c _ => ?_
  unfold reportContainerLimit
  refine emits_bind (emits_ofExcept fun _ _ => trivial) fun _ _ =>
    emits_bind (emits_ofExcept fun _ hr => (Dict.getItem_eq_ok _ _ _).mp hr) fun _ hc => ?_
  exact emits_bind (emits_catchKeyError (emits_bind (emits_ofExcept fun _ _ => trivial) fun _ _ =>
    emits_bind (emits_ofExcept fun _ _ => trivial) fun _ _ =>
      reportResources_emits k hc _ (by simp [limitNames])))
    fun _ _ => emits_catchKeyError (emits_bind (emits_ofExcept fun _ _ => trivial) fun _ _ =>
      emits_bind (emits_ofExcept fun _ _ => trivial) fun _ _ =>
        reportResources_emits k hc _ (by simp [limitNames]))

theorem reportContainerLimits_tagged (k : Kubernetes) (podContainers : List Container)
    {M : Dict Dims} (hM : Records (PodRecord L dims) M) (name2id : Dict String) :
    Emits (WellTagged L dims) (k.reportContainerLimits podContainers M name2id) fun _ => True :=
  (reportContainerLimits_emits k podContainers M name2id).mono
    (fun _ ⟨_, ⟨c, hc⟩, hh⟩ => ⟨(hM c _ hc).base, iff_of_true hh (hM c _ hc).podName⟩)
    fun _ h => h

theorem processPod_tagged (k : Kubernetes) {st : Dict Dims × Dict Dims}
    (hst : Records (PodRecord L dims) st.1 ∧ Records (PodRecord L dims) st.2) (pod : Pod) :
    Emits (WellTagged L dims) (k.processPod L dims st pod)
      fun st' => Records (PodRecord L dims) st'.1 ∧ Records (PodRecord L dims) st'.2 := by
  have hp := podRecord_podDimsOf k L dims pod.metadata
  unfold processPod
  split
  · refine emits_bind (emits_ofExcept fun _ _ => trivial) fun _ _ => ?_
    refine emits_bind (emits_foldlM (fun _ cs _ h => processContainerStatus_tagged k hp h cs) hst.1) ?_
    rintro ⟨M, name2id, podRetryCount⟩ hM
    dsimp only
    refine emits_ite (fun _ => emits_bind (reportContainerLimits_tagged k _ hM name2id) fun _ _ => ?_)
      fun _ => emits_pure_bind ?_
    all_goals exact emits_bind (emits_gauge (wellTagged_suppress hp _ _ _)) fun _ _ =>
      emits_bind (emits_gauge (wellTagged_suppress hp _ _ _)) fun _ _ =>
        emits_pure ⟨hM, hst.2.insert hp⟩
  · exact emits_pure hst

theorem processPods_tagged (k : Kubernetes) (pods : List Pod) (L : List String) (dims : Dims) :
    Emits (WellTagged L dims) (k.processPods pods L dims Dict.empty Dict.empty)
      fun st => Records (PodRecord L dims) st.1 ∧ Records (PodRecord L dims) st.2 :=
  emits_foldlM (fun _ pod _ h => processPod_tagged k h pod) ⟨records_empty _, records_empty _⟩

/-! ## The cycle -/

/-- Every sample a cycle emits extends the instance dimensions and is marked `SUPPRESS` exactly
when its dimensions name a pod, for every outcome of the four fetches and whether or not the cycle
raises. It carries every instance dimension, with its value unless the cycle writes that key (a
pod's name, namespace and owner, a configured label, or `containerKeys`). The health gauge and the
samples of containers correlated to no pod stay tied to the host, all the others do not. The
instance dimensions must not themselves hold `pod_name`. -/
theorem check_wellTagged (k : Kubernetes) (e : Endpoints) (kubernetesLabels : Option (List String))
    {setDimensions dims : Dims} (hd : setDimensions.delItem "hostname" = .ok dims)
    (hpn : "pod_name" ∉ dims.keys) (out : List Sample) :
    ∃ new, (exec (k.check e kubernetesLabels setDimensions) out).2 = out ++ new ∧
      ∀ s ∈ new, WellTagged (kubernetesLabels.getD ["app"]) dims s := by
  have hc : Emits (WellTagged (kubernetesLabels.getD ["app"]) dims)
      (k.check e kubernetesLabels setDimensions) fun _ => True := by
    unfold check
    refine emits_bind (emits_ofExcept fun d hd' => Except.ok.inj (hd.symm.trans hd')) ?_
    rintro _ rfl
    refine emits_bind (emits_gauge ⟨extends_refl _ dims, iff_of_false (by simp) hpn⟩) fun _ _ => ?_
    split
    · exact emits_pure trivial
    · refine emits_bind (processPods_tagged k _ _ dims) ?_
      rintro ⟨M, D⟩ ⟨hM, hD⟩
      exact processContainers_tagged k _ _ (fun c r h => (hM c r h).base) fun c r h => (hD c r h).base
  exact hc.exec out

/-- Instance dimensions from `_set_dimensions`: the host and a cluster. -/
def siteDims : Dims := ⟨[("hostname", "node1"), ("cluster", "east")], by decide⟩

def clusterDims : Dims := ⟨[("cluster", "east")], by decide⟩

/-- Every sample of a cycle over `startedPod` carries `cluster = east`. -/
theorem check_wellTagged_started :
    siteDims.delItem "hostname" = .ok clusterDims ∧ "pod_name" ∉ clusterDims.keys ∧
      ∃ new, (exec (reportingCheck.check startedCycle none siteDims) []).2 = [] ++ new ∧
        ∀ s ∈ new, WellTagged ["app"] clusterDims s ∧ s.dimensions.get? "cluster" = some "east" := by
  have hd : siteDims.delItem "hostname" = .ok clusterDims := rfl
  have hpn : "pod_name" ∉ clusterDims.keys := by decide
  obtain ⟨new, hnew, hw⟩ := check_wellTagged reportingCheck startedCycle none hd hpn []
  exact ⟨hd, hpn, new, hnew, fun s hs => ⟨hw s hs, (hw s hs).1.values "cluster" (by decide) "east" rfl⟩⟩

end Kubernetes
end MonascaAgent
