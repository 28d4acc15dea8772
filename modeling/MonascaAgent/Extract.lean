import MonascaAgent.Correlate

/-!
# MonascaAgent.Extract

The metric extractor: `_parse_memory`, `_parse_filesystem`, `_parse_network`, `_parse_cpu` and
the accumulation into the pod maps (`_add_pod_metric`, and its per-interface copy inside
`_parse_network`).

The four parsers walk a field table the same way (`parseFields`): each field the data holds is
converted, emitted through `_send_metrics` when container metrics are reported, and passed to an
accumulator. They differ in what they walk and on which dimensions: memory and CPU emit on the
container's own dimensions (and so change their `unit` in place), filesystem and network on a
copy with `device` or `interface` added; filesystem returns at once when container metrics are
not reported, and accumulates nothing.
-/

namespace MonascaAgent
namespace Kubernetes

open CheckM

/-- `metrics[metric_name] = metric_value` when the name is absent, `+=` when present. -/
def addMetric (metrics : Dict Rat) (metricName : String) (metricValue : Rat) : Dict Rat :=
  metrics.insert metricName
    (match metrics.get? metricName with
     | some v => v + metricValue
     | none => metricValue)

def addPodMetric (podKey : Option String) (metricName : String) (metricValue : Rat)
    (podMetrics : Dict (Dict Rat)) : Dict (Dict Rat) :=
  if pyTruthy podKey then
    let key := podKey.getD ""
    podMetrics.insert key (addMetric (podMetrics.getD key Dict.empty) metricName metricValue)
  else podMetrics

/-- The accumulation block of `_parse_network`: per pod key, per interface. -/
def addPodNetMetric (podKey : Option String) (networkInterface metricName : String)
    (metricValue : Rat) (podNetMetrics : Dict (Dict (Dict Rat))) : Dict (Dict (Dict Rat)) :=
  if pyTruthy podKey then
    let key := podKey.getD ""
    let interfaces := podNetMetrics.getD key Dict.empty
    podNetMetrics.insert key (interfaces.insert networkInterface
      (addMetric (interfaces.getD networkInterface Dict.empty) metricName metricValue))
  else podNetMetrics

/-- The walk over a field table shared by the four parsers: for each
`(cadvisor_key, metric_name)` whose key is in `data`, the value is converted, sent as
`container.<metric_name>` when container metrics are reported, and accumulated. Returns the
dimensions as the `unit` updates leave them. -/
def parseFields (k : Kubernetes) {σ : Type} (accumulate : String → Rat → σ → σ) (convert : Rat → Rat)
    (data : Dict Rat) : List (String × String) → Dims → σ → CheckM (Dims × σ)
  | [], dims, acc => pure (dims, acc)
  | (cadvisorKey, metricName) :: rest, dims, acc =>
    match data.get? cadvisorKey with
    | none => k.parseFields accumulate convert data rest dims acc
    | some raw => do
      let metricValue := convert raw
      let dims ← if k.reportContainerMetrics then sendCatalog "container." metricName metricValue dims
        else pure dims
      k.parseFields accumulate convert data rest dims (accumulate metricName metricValue acc)

def parseMemory (k : Kubernetes) (memoryData : Dict Rat) (containerDims : Dims)
    (podKey : Option String) (podMetrics : Dict (Dict Rat)) : CheckM (Dims × Dict (Dict Rat)) :=
  k.parseFields (addPodMetric podKey) id memoryData memoryMetrics.items containerDims podMetrics

def parseFilesystem (k : Kubernetes) (filesystemData : List FilesystemStats) (containerDims : Dims) :
    CheckM Unit :=
  if !k.reportContainerMetrics then pure ()
  else filesystemData.forM fun filesystem => do
    let _ ← k.parseFields (fun _ _ acc => acc) id filesystem.stats filesystemMetrics.items
      (containerDims.insert "device" filesystem.device) ()

def parseNetwork (k : Kubernetes) (networkData : NetworkStats) (containerDims : Dims)
    (podKey : Option String) (podNetMetrics : Dict (Dict (Dict Rat))) :
    CheckM (Dict (Dict (Dict Rat))) :=
  networkData.interfaces.foldlM (fun podNetMetrics interface => do
    let (_, podNetMetrics) ← k.parseFields (addPodNetMetric podKey interface.name) id interface.stats
      networkMetrics.items (containerDims.insert "interface" interface.name) podNetMetrics
    pure podNetMetrics) podNetMetrics

/-- `_parse_cpu`: nanoseconds to seconds. -/
def parseCpu (k : Kubernetes) (cpuData : CpuStats) (containerDims : Dims) (podKey : Option String)
    (podMetrics : Dict (Dict Rat)) : CheckM (Dims × Dict (Dict Rat)) :=
  k.parseFields (addPodMetric podKey) (· / 1000000000) cpuData.usage cpuMetrics.items containerDims
    podMetrics

/-! ## The walk -/

def presentFields (convert : Rat → Rat) (data : Dict Rat) (fields : List (String × String)) :
    List (String × Rat) :=
  fields.filterMap fun p => (data.get? p.1).map fun raw => (p.2, convert raw)

def fieldSamples (convert : Rat → Rat) (data : Dict Rat) (fields : List (String × String))
    (dims : Dims) : List Sample :=
  (presentFields convert data fields).flatMap fun p => catalogSamples "container." p.1 p.2 dims

def accumulateFields {σ : Type} (accumulate : String → Rat → σ → σ) (convert : Rat → Rat)
    (data : Dict Rat) (fields : List (String × String)) (acc : σ) : σ :=
  (presentFields convert data fields).foldl (fun s p => accumulate p.1 p.2 s) acc

def fieldsUnit (convert : Rat → Rat) (data : Dict Rat) (fields : List (String × String)) :
    Option String :=
  ((presentFields convert data fields).map fun p => catalogUnit p.1).getLast?

theorem fieldsUnit_cons_none {convert : Rat → Rat} {data : Dict Rat} {ck : String}
    (h : data.get? ck = none) (mn : String) (rest : List (String × String)) :
    fieldsUnit convert data ((ck, mn) :: rest) = fieldsUnit convert data rest := by
  simp [fieldsUnit, presentFields, h]

theorem fieldsUnit_cons_some {convert : Rat → Rat} {data : Dict Rat} {ck : String} {raw : Rat}
    (h : data.get? ck = some raw) (mn : String) (rest : List (String × String)) :
    fieldsUnit convert data ((ck, mn) :: rest) = (fieldsUnit convert data rest).or (some (catalogUnit mn)) := by
  simp only [fieldsUnit, presentFields, List.filterMap_cons, h, Option.map_some', List.map_cons]
  rw [← List.singleton_append, List.getLast?_append]
  rfl

/-- The walk never raises on a table whose canonical names are in the catalog: it emits the
catalog's samples of every present field on the dimensions it was given (when container metrics
are reported), accumulates every present field, and changes the dimensions only at `unit`. -/
theorem parseFields_exec (k : Kubernetes) {σ : Type} (accumulate : String → Rat → σ → σ)
    (convert : Rat → Rat) (data : Dict Rat) {fields : List (String × String)}
    (hf : ∀ p ∈ fields, p.2 ∈ metricTypesUnits.keys) (dims : Dims) (acc : σ) (out : List Sample) :
    exec (k.parseFields accumulate convert data fields dims acc) out =
      (.ok (withUnit dims (if k.reportContainerMetrics then fieldsUnit convert data fields else none),
          accumulateFields accumulate convert data fields acc),
        out ++ if k.reportContainerMetrics then fieldSamples convert data fields dims else []) := by
  induction fields generalizing dims acc out with
  | nil => simp [parseFields, withUnit, fieldsUnit, accumulateFields, fieldSamples, presentFields]
  | cons p rest ih =>
    have hrest := fun q hq => hf q (List.mem_cons_of_mem p hq)
    obtain ⟨ck, mn⟩ := p
    cases hd : data.get? ck with
    | none =>
      simpa [parseFields, hd, fieldsUnit_cons_none hd, accumulateFields, fieldSamples, presentFields]
        using ih hrest dims acc out
    | some raw =>
      cases hr : k.reportContainerMetrics with
      | false =>
        simpa [parseFields, hd, hr, accumulateFields, presentFields]
          using ih hrest dims (accumulate mn (convert raw) acc) out
      | true =>
        have hs := sendCatalog_exec (hf _ (List.mem_cons_self _ _)) "container." (convert raw) dims out
        have ho := ih hrest (dims.insert "unit" (catalogUnit mn)) (accumulate mn (convert raw) acc)
          (out ++ catalogSamples "container." mn (convert raw) dims)
        simp only [parseFields, hd, hr, if_true, exec_bind_of_ok hs]
        rw [ho, hr, if_pos rfl, if_pos rfl, show dims.insert "unit" (catalogUnit mn) =
          withUnit dims (some (catalogUnit mn)) from rfl, withUnit_withUnit]
        simp [fieldsUnit_cons_some hd, accumulateFields, fieldSamples, presentFields, hd]

theorem accumulateFields_inv {σ : Type} (P : σ → Prop) {accumulate : String → Rat → σ → σ}
    {fields : List (String × String)}
    (step : ∀ n v acc, n ∈ fields.map Prod.snd → P acc → P (accumulate n v acc))
    (convert : Rat → Rat) (data : Dict Rat) {acc : σ} (h : P acc) :
    P (accumulateFields accumulate convert data fields acc) := by
  induction fields generalizing acc with
  | nil => exact h
  | cons p rest ih =>
    have hrest := fun n v acc hn => step n v acc (List.mem_cons_of_mem _ hn)
    cases hd : data.get? p.1 with
    | none => simpa [accumulateFields, presentFields, hd] using ih hrest h
    | some raw =>
      simpa [accumulateFields, presentFields, hd] using
        ih hrest (step p.2 (convert raw) acc (List.mem_cons_self _ _) h)

theorem accumulateFields_fixed {σ : Type} {accumulate : String → Rat → σ → σ} {acc : σ}
    (h : ∀ n v, accumulate n v acc = acc) (convert : Rat → Rat) (data : Dict Rat)
    (fields : List (String × String)) : accumulateFields accumulate convert data fields acc = acc :=
  List.foldl_fixed' (fun p => h p.1 p.2) _

@[simp] theorem accumulateFields_addPodMetric_none (convert : Rat → Rat) (data : Dict Rat)
    (fields : List (String × String)) (podMetrics : Dict (Dict Rat)) :
    accumulateFields (addPodMetric none) convert data fields podMetrics = podMetrics :=
  accumulateFields_fixed (fun _ _ => rfl) _ _ _

@[simp] theorem accumulateFields_addPodNetMetric_none (networkInterface : String)
    (convert : Rat → Rat) (data : Dict Rat) (fields : List (String × String))
    (podNetMetrics : Dict (Dict (Dict Rat))) :
    accumulateFields (addPodNetMetric none networkInterface) convert data fields podNetMetrics =
      podNetMetrics :=
  accumulateFields_fixed (fun _ _ => rfl) _ _ _

theorem mem_keys_addMetric (metrics : Dict Rat) (metricName : String) (metricValue : Rat)
    (n : String) : n ∈ (addMetric metrics metricName metricValue).keys ↔ n = metricName ∨ n ∈ metrics.keys :=
  Dict.mem_keys_insert _ _ _ _

/-- What the pod-metric accumulator holds: keys of the pod-dimension map `D`, catalog names. -/
def AccOk (D : Dict Dims) (podMetrics : Dict (Dict Rat)) : Prop :=
  ∀ key m, podMetrics.get? key = some m → key ∈ D.keys ∧ ∀ n ∈ m.keys, n ∈ metricTypesUnits.keys

/-- What the network accumulator holds: keys of the pod-dimension map `D`, catalog names. -/
def NetAccOk (D : Dict Dims) (podNetMetrics : Dict (Dict (Dict Rat))) : Prop :=
  ∀ key m, podNetMetrics.get? key = some m → key ∈ D.keys ∧
    ∀ i mi, m.get? i = some mi → ∀ n ∈ mi.keys, n ∈ metricTypesUnits.keys

theorem addPodMetric_accOk {D : Dict Dims} {podMetrics : Dict (Dict Rat)} (h : AccOk D podMetrics)
    {podKey : Option String} (hk : ∀ key, podKey = some key → key ∈ D.keys) {metricName : String}
    (hn : metricName ∈ metricTypesUnits.keys) (metricValue : Rat) :
    AccOk D (addPodMetric podKey metricName metricValue podMetrics) := by
  unfold addPodMetric
  split
  · intro key m hm
    rw [Dict.get?_insert] at hm
    split at hm
    · subst key; cases hm
      rcases podKey with _ | key
      · cases ‹pyTruthy none = true›
      refine ⟨hk key rfl, fun n hn' => ?_⟩
      rcases (mem_keys_addMetric _ _ _ _).mp hn' with rfl | hn'
      · exact hn
      · cases hg : podMetrics.get? key with
        | none => simp [Dict.getD_eq, hg, Dict.keys, Dict.empty] at hn'
        | some m' => exact (h key m' hg).2 n (by simpa [Dict.getD_eq, hg] using hn')
    · exact h key m hm
  · exact h

theorem addPodNetMetric_netAccOk {D : Dict Dims} {podNetMetrics : Dict (Dict (Dict Rat))}
    (h : NetAccOk D podNetMetrics) {podKey : Option String}
    (hk : ∀ key, podKey = some key → key ∈ D.keys) (networkInterface : String) {metricName : String}
    (hn : metricName ∈ metricTypesUnits.keys) (metricValue : Rat) :
    NetAccOk D (addPodNetMetric podKey networkInterface metricName metricValue podNetMetrics) := by
  unfold addPodNetMetric
  split
  · intro key m hm
    rw [Dict.get?_insert] at hm
    split at hm
    · subst key; cases hm
      rcases podKey with _ | key
      · cases ‹pyTruthy none = true›
      have hold : ∀ i mi, (podNetMetrics.getD key Dict.empty).get? i = some mi →
          ∀ n ∈ mi.keys, n ∈ metricTypesUnits.keys := by
        cases hg : podNetMetrics.get? key with
        | none => simp [Dict.getD_eq, hg]
        | some m' => simpa [Dict.getD_eq, hg] using (h key m' hg).2
      refine ⟨hk key rfl, fun i mi hi n hn' => ?_⟩
      rw [Dict.get?_insert] at hi
      split at hi
      · subst i; cases hi
        rcases (mem_keys_addMetric _ _ _ _).mp hn' with rfl | hn'
        · exact hn
        · rw [Option.getD_some, Dict.getD_eq (podNetMetrics.getD key Dict.empty)] at hn'
          cases hg : (podNetMetrics.getD key Dict.empty).get? networkInterface with
          | none => rw [hg, Option.getD_none] at hn'; simp [Dict.keys, Dict.empty] at hn'
          | some m' => rw [hg, Option.getD_some] at hn'; exact hold _ m' hg n hn'
      · exact hold i mi hi n hn'
    · exact h key m hm
  · exact h

/-! ## The four parsers -/

theorem memoryMetrics_names : ∀ p ∈ memoryMetrics.items, p.2 ∈ metricTypesUnits.keys :=
  fun _ hp => mem_metricTypesUnits (.inr (.inl (List.mem_map_of_mem _ hp)))

theorem cpuMetrics_names : ∀ p ∈ cpuMetrics.items, p.2 ∈ metricTypesUnits.keys :=
  fun _ hp => mem_metricTypesUnits (.inl (List.mem_map_of_mem _ hp))

theorem filesystemMetrics_names : ∀ p ∈ filesystemMetrics.items, p.2 ∈ metricTypesUnits.keys :=
  fun _ hp => mem_metricTypesUnits (.inr (.inr (.inl (List.mem_map_of_mem _ hp))))

theorem networkMetrics_names : ∀ p ∈ networkMetrics.items, p.2 ∈ metricTypesUnits.keys :=
  fun _ hp => mem_metricTypesUnits (.inr (.inr (.inr (List.mem_map_of_mem _ hp))))

theorem parseMemory_exec (k : Kubernetes) (memoryData : Dict Rat) (dims : Dims)
    (podKey : Option String) (podMetrics : Dict (Dict Rat)) (out : List Sample) :
    exec (k.parseMemory memoryData dims podKey podMetrics) out =
      (.ok (withUnit dims (if k.reportContainerMetrics then
            fieldsUnit id memoryData memoryMetrics.items else none),
          accumulateFields (addPodMetric podKey) id memoryData memoryMetrics.items podMetrics),
        out ++ if k.reportContainerMetrics then fieldSamples id memoryData memoryMetrics.items dims
          else []) :=
  k.parseFields_exec _ id memoryData memoryMetrics_names dims podMetrics out

theorem parseCpu_exec (k : Kubernetes) (cpuData : CpuStats) (dims : Dims)
    (podKey : Option String) (podMetrics : Dict (Dict Rat)) (out : List Sample) :
    exec (k.parseCpu cpuData dims podKey podMetrics) out =
      (.ok (withUnit dims (if k.reportContainerMetrics then
            fieldsUnit (· / 1000000000) cpuData.usage cpuMetrics.items else none),
          accumulateFields (addPodMetric podKey) (· / 1000000000) cpuData.usage cpuMetrics.items
            podMetrics),
        out ++ if k.reportContainerMetrics then
          fieldSamples (· / 1000000000) cpuData.usage cpuMetrics.items dims else []) :=
  k.parseFields_exec _ _ cpuData.usage cpuMetrics_names dims podMetrics out

theorem parseFilesystem_exec (k : Kubernetes) (filesystemData : List FilesystemStats) (dims : Dims)
    (out : List Sample) :
    exec (k.parseFilesystem filesystemData dims) out =
      (.ok (), out ++ if k.reportContainerMetrics then
          filesystemData.flatMap fun fs =>
            fieldSamples id fs.stats filesystemMetrics.items (dims.insert "device" fs.device)
        else []) := by
  cases hr : k.reportContainerMetrics with
  | false =>
    simp only [parseFilesystem, hr, Bool.not_false, if_true, exec_pure, Bool.false_eq_true,
      if_false, List.append_nil]
  | true =>
    simp only [parseFilesystem, hr, Bool.not_true, Bool.false_eq_true, if_false, if_true]
    induction filesystemData generalizing out with
    | nil => simp only [List.forM_nil', exec_pure, List.flatMap_nil, List.append_nil]
    | cons fs rest ih =>
      have ho := k.parseFields_exec (fun _ _ acc => acc) id fs.stats filesystemMetrics_names
        (dims.insert "device" fs.device) () out
      simp only [hr, ↓reduceIte] at ho
      rw [List.forM_cons', exec_bind, exec_bind_of_ok ho, exec_pure]
      dsimp only
      rw [ih, List.flatMap_cons, List.append_assoc]

theorem parseNetwork_exec (k : Kubernetes) (networkData : NetworkStats) (dims : Dims)
    (podKey : Option String) (podNetMetrics : Dict (Dict (Dict Rat))) (out : List Sample) :
    exec (k.parseNetwork networkData dims podKey podNetMetrics) out =
      (.ok (networkData.interfaces.foldl (fun acc i =>
          accumulateFields (addPodNetMetric podKey i.name) id i.stats networkMetrics.items acc)
          podNetMetrics),
        out ++ if k.reportContainerMetrics then
          networkData.interfaces.flatMap fun i =>
            fieldSamples id i.stats networkMetrics.items (dims.insert "interface" i.name)
        else []) := by
  obtain ⟨interfaces⟩ := networkData
  simp only [parseNetwork]
  induction interfaces generalizing podNetMetrics out with
  | nil =>
    simp only [List.foldlM_nil, exec_pure, List.foldl_nil, List.flatMap_nil, ite_self, List.append_nil]
  | cons i rest ih =>
    have ho := k.parseFields_exec (addPodNetMetric podKey i.name) id i.stats
      networkMetrics_names (dims.insert "interface" i.name) podNetMetrics out
    rw [List.foldlM_cons, exec_bind, exec_bind_of_ok ho, exec_pure]
    dsimp only
    rw [ih, List.foldl_cons]
    cases k.reportContainerMetrics <;>
      simp only [Bool.false_eq_true, if_false, if_true, List.append_nil, List.flatMap_cons,
        List.append_assoc]

/-- cAdvisor's filesystem field for completed reads is "reads_completed"; the table's key
"reads_completes" never matches it, so a filesystem reporting only that field gives no sample. -/
theorem parseFilesystem_readsCompleted :
    exec (reportingCheck.parseFilesystem [⟨"sda1", ⟨[("reads_completed", 7)], by decide⟩⟩]
      Dict.empty) [] = (.ok (), []) := by
  rw [parseFilesystem_exec]
  rfl

end Kubernetes
end MonascaAgent
