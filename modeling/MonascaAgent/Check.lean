import MonascaAgent.Containers

/-!
# MonascaAgent.Check

`check`: one polling cycle. The kubelet health gauge is emitted first; the pod list is fetched in
a `try` whose `else` branch runs `_process_pods` and then `_process_containers`. A failed pod-list
fetch therefore ends the cycle after the health gauge: the cAdvisor documents are not fetched.

The `/healthz` body is read with `iter_lines`, which yields bytes on Python 3, and each line is
compared with the `str` `'ok'`: the probe is never healthy (`getApiHealth_eq_false`).

* `check_exec` — the cycle as a sequence of its phases, for every outcome of the four fetches.
* `check_reportOff` — without container metrics a cycle on well-formed documents never raises,
  and emits the health gauge, the pod gauges and the two flushes, in that order.
-/

namespace MonascaAgent
namespace Kubernetes

open CheckM

/-- A line of a response body as `iter_lines` yields it: bytes. -/
abbrev Bytes := List UInt8

/-- The outcome of each `_get_result` call of one cycle: the `/healthz` body's lines, the
`/pods` document, then the cAdvisor spec and stats documents. -/
structure Endpoints where
  healthz : Except Err (List Bytes)
  pods : Except Err PodList
  spec : Except Err (Dict ContainerSpec)
  stats : Except Err (Dict (List ContainerStats))

/-- Python 3 `line == s` for a bytes `line` and a `str` `s`: never equal. -/
def bytesEqStr (_ : Bytes) (_ : String) : Bool := false

/-- `_get_api_health`: a failed request is unhealthy; otherwise healthy iff a line `== 'ok'`. -/
def getApiHealth (healthz : Except Err (List Bytes)) : Bool :=
  match healthz with
  | .ok lines => lines.any (bytesEqStr · "ok")
  | .error _ => false

/-- `check(instance)`. `kubernetesLabels` is `instance.get('kubernetes_labels')`, and
`setDimensions` what `self._set_dimensions(None, instance)` returns. -/
def check (k : Kubernetes) (e : Endpoints) (kubernetesLabels : Option (List String))
    (setDimensions : Dims) : CheckM Unit := do
  let kubernetesLabels := kubernetesLabels.getD ["app"]
  let dimensions ← MonadExcept.ofExcept (setDimensions.delItem "hostname")
  let kubeletHealthStatus := getApiHealth e.healthz
  gauge "kubelet.health_status" (some (if kubeletHealthStatus then 0 else 1)) dimensions none
  match e.pods with
  | .error _ => pure ()
  | .ok pods => do
    let (containerDimensionMap, podDimensionsMap) ←
      k.processPods pods.items kubernetesLabels dimensions Dict.empty Dict.empty
    k.processContainers e.spec e.stats dimensions containerDimensionMap podDimensionsMap

theorem getApiHealth_eq_false (healthz : Except Err (List Bytes)) : getApiHealth healthz = false := by
  cases healthz <;> simp [getApiHealth, bytesEqStr]

/-- One cycle: the health gauge, then `_process_pods` when the pod list was fetched, then
`_process_containers` when that returns. -/
theorem check_exec (k : Kubernetes) (e : Endpoints) (kubernetesLabels : Option (List String))
    {setDimensions dims : Dims} (hd : setDimensions.delItem "hostname" = .ok dims) (out : List Sample) :
    exec (k.check e kubernetesLabels setDimensions) out =
      let out₁ := out ++ [⟨.gauge, "kubelet.health_status",
        some (if getApiHealth e.healthz then 0 else 1), dims, none⟩]
      match e.pods with
      | .error _ => (.ok (), out₁)
      | .ok pods =>
        match exec (k.processPods pods.items (kubernetesLabels.getD ["app"]) dims Dict.empty
            Dict.empty) out₁ with
        | (.ok (M, D), o) => exec (k.processContainers e.spec e.stats dims M D) o
        | (.error err, o) => (.error err, o) := by
  rw [check, exec_bind_of_ok (show exec (MonadExcept.ofExcept (setDimensions.delItem "hostname") :
    CheckM Dims) out = (.ok dims, out) by rw [exec_ofExcept, hd])]
  simp only [exec_bind, exec_gauge]
  cases e.pods with
  | error => rfl
  | ok pods =>
    dsimp only
    rw [exec_bind]
    rcases exec (k.processPods pods.items (kubernetesLabels.getD ["app"]) dims Dict.empty Dict.empty) _
      with ⟨_ | ⟨M, D⟩, o⟩ <;> rfl

/-- One cycle, for every outcome of the four fetches: the health gauge on the instance dimensions
without `hostname`; then, only when the pod
list was fetched, `_process_pods` from empty maps and, when it returns, `_process_containers`
with the maps it built, which runs the loop over every stats entry and both flushes when the two
cAdvisor documents were fetched, and emits nothing when either fetch failed. -/
theorem check_phases (k : Kubernetes) (e : Endpoints) (kubernetesLabels : Option (List String))
    {setDimensions dims : Dims} (hd : setDimensions.delItem "hostname" = .ok dims) (out : List Sample) :
    exec (k.check e kubernetesLabels setDimensions) out =
      let out₁ := out ++ [⟨.gauge, "kubelet.health_status",
        some (if getApiHealth e.healthz then 0 else 1), dims, none⟩]
      match e.pods with
      | .error _ => (.ok (), out₁)
      | .ok pods =>
        match exec (k.processPods pods.items (kubernetesLabels.getD ["app"]) dims Dict.empty
            Dict.empty) out₁ with
        | (.ok (M, D), o) =>
          match e.spec, e.stats with
          | .ok S, .ok T => exec (do
              let (_, podMetrics, podNetworkMetrics) ←
                T.items.foldlM (k.processContainer S dims D) (M, Dict.empty, Dict.empty)
              let D ← sendPodMetrics podMetrics D
              sendNetworkPodMetrics podNetworkMetrics D) o
          | _, _ => (.ok (), o)
        | (.error err, o) => (.error err, o) := by
  rw [check_exec k e kubernetesLabels hd out]
  cases e.pods with
  | error => rfl
  | ok pods =>
    dsimp only
    rcases exec (k.processPods pods.items (kubernetesLabels.getD ["app"]) dims Dict.empty Dict.empty) _
      with ⟨_ | ⟨M, D⟩, o⟩
    · rfl
    · cases e.spec <;> cases e.stats <;> rfl

def hostDims : Dims := ⟨[("hostname", "node1")], by decide⟩

/-- `b"ok"`, the body of a healthy kubelet. -/
def okLine : Bytes := [0x6f, 0x6b]

/-- A cycle whose pod-list fetch fails while the kubelet answers `ok` and cAdvisor answers with
`startedStats`. -/
def podsDown : Endpoints := ⟨.ok [okLine], .error .transport, .ok startedSpecs, .ok startedStats⟩

theorem check_phases_podsDown :
    hostDims.delItem "hostname" = .ok Dict.empty ∧
      exec (reportingCheck.check podsDown none hostDims) [] =
        (.ok (), [⟨.gauge, "kubelet.health_status", some 1, Dict.empty, none⟩]) :=
  have hd : hostDims.delItem "hostname" = .ok Dict.empty := rfl
  ⟨hd, check_phases reportingCheck podsDown none hd []⟩

/-- With the pod list unreachable, a cycle reporting container metrics emits the health gauge
only: the container entry of `startedStats` gives no `container.mem.rss_bytes` sample, while the
same documents with an empty pod list give it, unaffiliated. -/
theorem check_podsUnreachable :
    exec (reportingCheck.check podsDown none hostDims) [] =
        (.ok (), [⟨.gauge, "kubelet.health_status", some 1, Dict.empty, none⟩]) ∧
      (exec (reportingCheck.check { podsDown with pods := .ok ⟨[]⟩ } none hostDims) []).2.map
        (·.name) = ["kubelet.health_status", "container.mem.rss_bytes"] :=
  ⟨rfl, rfl⟩

/-- With container metrics not reported (the default), a cycle on well-formed cAdvisor documents
never raises. It emits the health gauge; then, when the pod list was fetched, each walked pod's
restart count and phase; then, when both cAdvisor documents were fetched, only the two flushes of
the pod accumulators, on the pod records `_process_pods` built. -/
theorem check_reportOff {k : Kubernetes} (hr : k.reportContainerMetrics = false) (e : Endpoints)
    (kubernetesLabels : Option (List String)) {setDimensions dims : Dims}
    (hd : setDimensions.delItem "hostname" = .ok dims)
    (hT : ∀ S T, e.spec = .ok S → e.stats = .ok T → ∀ x ∈ T.items, EntryWF S x) (out : List Sample) :
    ∃ podMetrics podNetworkMetrics,
      exec (k.check e kubernetesLabels setDimensions) out =
        (.ok (), out ++ [⟨.gauge, "kubelet.health_status", some 1, dims, none⟩] ++
          match e.pods with
          | .error _ => []
          | .ok pods =>
            let L := kubernetesLabels.getD ["app"]
            let D := Dict.empty.insertAll (pods.items.flatMap (k.podRecords L dims))
            (pods.items.flatMap fun pod =>
              if walkedStatuses pod = [] then [] else k.podSamples L dims pod) ++
            match e.spec, e.stats with
            | .ok _, .ok _ => podFlushSamples podMetrics D ++
                podNetFlushSamples podNetworkMetrics (flushedPodDims podMetrics D)
            | _, _ => []) := by
  rw [check_exec k e kubernetesLabels hd out, getApiHealth_eq_false]
  simp only [Bool.false_eq_true, ↓reduceIte]
  cases e.pods with
  | error => exact ⟨Dict.empty, Dict.empty, by simp⟩
  | ok pods =>
    have hP := processPods_reportOff hr pods.items (kubernetesLabels.getD ["app"]) dims Dict.empty
      Dict.empty (out ++ [⟨.gauge, "kubelet.health_status", some 1, dims, none⟩])
    dsimp only
    rw [hP]
    dsimp only
    cases hs : e.spec with
    | error => exact ⟨Dict.empty, Dict.empty, by simp [processContainers]⟩
    | ok S =>
      cases ht : e.stats with
      | error => exact ⟨Dict.empty, Dict.empty, by simp [processContainers]⟩
      | ok T =>
        obtain ⟨st, samples, hloop⟩ := processContainers_loop_ok k (hT S T hs ht) (loopInv_init hP) _
        have hnil : samples = [] := List.append_right_eq_self.mp (loop_reportOff hr _ hloop)
        subst hnil
        refine ⟨st.2.1, st.2.2, ?_⟩
        rw [processContainers_exec_of_loop k hloop (processContainers_loopInv (loopInv_init hP) hloop)]
        simp only [List.append_nil, List.append_assoc]

/-- A healthy cycle in which every fetch succeeds: `startedPod`, then `startedStats`. -/
def startedCycle : Endpoints := ⟨.ok [okLine], .ok ⟨[startedPod]⟩, .ok startedSpecs, .ok startedStats⟩

theorem check_reportOff_started :
    plainCheck.reportContainerMetrics = false ∧ hostDims.delItem "hostname" = .ok Dict.empty ∧
      (∀ S T, startedCycle.spec = .ok S → startedCycle.stats = .ok T →
        ∀ x ∈ T.items, EntryWF S x) ∧
      ∃ podMetrics podNetworkMetrics,
        exec (plainCheck.check startedCycle none hostDims) [] =
          (.ok (), [] ++ [⟨.gauge, "kubelet.health_status", some 1, Dict.empty, none⟩] ++
            match startedCycle.pods with
            | .error _ => []
            | .ok pods =>
              let L := (none : Option (List String)).getD ["app"]
              let D := Dict.empty.insertAll (pods.items.flatMap (plainCheck.podRecords L Dict.empty))
              (pods.items.flatMap fun pod =>
                if walkedStatuses pod = [] then [] else plainCheck.podSamples L Dict.empty pod) ++
              match startedCycle.spec, startedCycle.stats with
              | .ok _, .ok _ => podFlushSamples podMetrics D ++
                  podNetFlushSamples podNetworkMetrics (flushedPodDims podMetrics D)
              | _, _ => []) := by
  have hT : ∀ S T, startedCycle.spec = .ok S → startedCycle.stats = .ok T →
      ∀ x ∈ T.items, EntryWF S x := by
    intro S T hs ht
    cases hs
    cases ht
    exact startedStats_entryWF
  have hd : hostDims.delItem "hostname" = .ok Dict.empty := rfl
  exact ⟨rfl, hd, hT, check_reportOff rfl startedCycle none hd hT []⟩

end Kubernetes
end MonascaAgent
