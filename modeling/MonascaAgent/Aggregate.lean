import MonascaAgent.Check

/-!
# MonascaAgent.Aggregate

The pod aggregator: what `pod_metrics` holds after the loop of `_process_containers`, and what
`send_pod_metrics` emits from it.

The loop attributes each stats entry to the pod key `_get_container_dimensions` returns against
the maps `_process_pods` built (`attributedKey`); the in-place `unit` updates of the container-ID
map never change that key. Each pod key's value for a canonical name (and, for the network
accumulator, an interface name) is then the sum, in the order of the stats document, of the
converted field values of the entries attributed to it.

* `processContainers_podSums` — for the pods of the pod list, the flushed cpu and memory samples
  are the catalog samples of those sums, on each pod's dimensions.
* `processContainers_podNetSums` — the network values are those sums per pod and interface.
-/

namespace MonascaAgent
namespace Kubernetes

open CheckM

/-- The pod key the code attributes to the stats entry `container`: the one
`_get_container_dimensions` returns against the maps, `None` when unaffiliated. -/
def attributedKey (dims : Dims) (containersSpec : Dict ContainerSpec) (M D : Dict Dims)
    (container : String) : Option String :=
  (containersSpec.get? container).bind fun spec =>
    (getContainerDimensions container dims spec M D).toOption.bind Prod.fst

/-- `pod_metrics` after the memory and cpu sections of a snapshot attributed to `podKey`. -/
def accumulateSnapshot (podKey : Option String) (s : ContainerStats) (podMetrics : Dict (Dict Rat)) :
    Dict (Dict Rat) :=
  accumulateFields (addPodMetric podKey) (· / 1000000000) (cpuUsage s) cpuMetrics.items
    (accumulateFields (addPodMetric podKey) id (memoryData s) memoryMetrics.items podMetrics)

/-- `pod_metrics` after one stats entry: its first snapshot, attributed to `podKey`. -/
def accumulateEntry (podKey : Option String) (snaps : List ContainerStats)
    (podMetrics : Dict (Dict Rat)) : Dict (Dict Rat) :=
  match snaps with
  | s :: _ => accumulateSnapshot podKey s podMetrics
  | [] => podMetrics

/-- `pod_network_metrics` after the network section of a snapshot attributed to `podKey`. -/
def accumulateNetSnapshot (podKey : Option String) (s : ContainerStats)
    (podNetworkMetrics : Dict (Dict (Dict Rat))) : Dict (Dict (Dict Rat)) :=
  (interfacesData s).foldl (fun acc i =>
    accumulateFields (addPodNetMetric podKey i.name) id i.stats networkMetrics.items acc)
    podNetworkMetrics

def accumulateNetEntry (podKey : Option String) (snaps : List ContainerStats)
    (podNetworkMetrics : Dict (Dict (Dict Rat))) : Dict (Dict (Dict Rat)) :=
  match snaps with
  | s :: _ => accumulateNetSnapshot podKey s podNetworkMetrics
  | [] => podNetworkMetrics

/-- Two container-ID maps with the same keys whose records give the same pod keys: the
container-ID map before and after the loop's `unit` updates. -/
def SamePodKeys (M M' : Dict Dims) : Prop :=
  ∀ c, (M'.get? c).map podKeyOf = (M.get? c).map podKeyOf

/-- The pod key `_get_container_dimensions` returns, and whether it raises, depend on the
container-ID map only through its records' pod keys. -/
theorem getContainerDimensions_congr {M M' D : Dict Dims} (h : SamePodKeys M M') (container : String)
    (dims : Dims) (spec : ContainerSpec) :
    Prod.fst <$> getContainerDimensions container dims spec M' D =
      Prod.fst <$> getContainerDimensions container dims spec M D := by
  have hc := h (containerIdOf container spec.aliases)
  unfold getContainerDimensions
  cases h₁ : M.get? (containerIdOf container spec.aliases) <;>
    cases h₂ : M'.get? (containerIdOf container spec.aliases) <;> simp only [h₁, h₂] at hc ⊢
  · cases hc
  · cases hc
  · simp only [Option.map_some', Option.some.injEq] at hc
    rw [hc]
    cases podKeyOf _ <;> rfl

theorem samePodKeys_insert {M M' : Dict Dims} (h : SamePodKeys M M') {c : String} {cd : Dims}
    (hc : M'.get? c = some cd) (o : Option String) :
    SamePodKeys M (M'.insert c (withUnit cd o)) := by
  intro c'
  rw [Dict.get?_insert]
  split
  · subst c'; rw [← h c, hc]; simp
  · exact h c'

/-- The loop's accumulators: every entry accumulated in turn, under the pod key it is attributed
to against the maps `_process_pods` built. -/
theorem loop_accumulators {k : Kubernetes} {S : Dict ContainerSpec} {dims : Dims} {M D : Dict Dims}
    (entries : List (String × List ContainerStats)) :
    ∀ {M' : Dict Dims} {pm : Dict (Dict Rat)} {pnm : Dict (Dict (Dict Rat))} {st : ContainersState}
      {out out' : List Sample}, SamePodKeys M M' →
      exec (entries.foldlM (k.processContainer S dims D) (M', pm, pnm)) out = (.ok st, out') →
      st.2 = (entries.foldl (fun pm e => accumulateEntry (attributedKey dims S M D e.1) e.2 pm) pm,
        entries.foldl (fun pnm e => accumulateNetEntry (attributedKey dims S M D e.1) e.2 pnm) pnm) := by
  induction entries with
  | nil => intro M' pm pnm st out out' _ h; cases h; rfl
  | cons e rest ih =>
    intro M' pm pnm st out out' hM h
    obtain ⟨st₁, o, h₁, h₂⟩ := exec_bind_ok.mp h
    obtain ⟨K, snaps⟩ := e
    obtain ⟨spec, podKey, cd, snap, snaps', hs, hg, rfl, hw⟩ := processContainer_ok h₁
    rw [processContainer_exec k hs hg hw] at h₁
    cases h₁
    have hk : attributedKey dims S M D K = podKey := by
      have := @getContainerDimensions_congr M M' D hM K dims spec
      rw [hg] at this
      cases hg' : getContainerDimensions K dims spec M D <;> rw [hg'] at this <;> cases this
      simp [attributedKey, hs, hg', Except.toOption]
    rw [ih ?_ h₂, List.foldl_cons, List.foldl_cons, hk]
    · rfl
    · dsimp only
      split
      · rename_i hc
        obtain ⟨cd₀, hcd₀⟩ := (Dict.contains_iff _ _).mp hc
        cases getContainerDimensions_of_get? hcd₀ hg
        exact samePodKeys_insert hM hcd₀ _
      · exact hM

/-! ## Sums -/

def podValue (podMetrics : Dict (Dict Rat)) (key metricName : String) : Option Rat :=
  (podMetrics.get? key).bind (·.get? metricName)

def podNetValue (podNetworkMetrics : Dict (Dict (Dict Rat))) (key networkInterface metricName : String) :
    Option Rat :=
  ((podNetworkMetrics.getD key Dict.empty).getD networkInterface Dict.empty).get? metricName

/-- `+=` on a value that may not be there yet: the first write initializes it. -/
def addTo (acc : Option Rat) (v : Rat) : Option Rat :=
  some (match acc with
    | some x => x + v
    | none => v)

/-- The converted values a snapshot gives for a canonical name, memory fields first. -/
def snapshotValues (s : ContainerStats) (metricName : String) : List Rat :=
  ((presentFields id (memoryData s) memoryMetrics.items ++
    presentFields (· / 1000000000) (cpuUsage s) cpuMetrics.items).filter (·.1 = metricName)).map (·.2)

def entryValues (snaps : List ContainerStats) (metricName : String) : List Rat :=
  match snaps with
  | s :: _ => snapshotValues s metricName
  | [] => []

/-- The values a snapshot gives for a canonical name on the interfaces named `networkInterface`. -/
def snapshotNetValues (s : ContainerStats) (networkInterface metricName : String) : List Rat :=
  (interfacesData s).flatMap fun i =>
    if i.name = networkInterface then
      ((presentFields id i.stats networkMetrics.items).filter (·.1 = metricName)).map (·.2)
    else []

def entryNetValues (snaps : List ContainerStats) (networkInterface metricName : String) : List Rat :=
  match snaps with
  | s :: _ => snapshotNetValues s networkInterface metricName
  | [] => []

theorem get?_addMetric (metrics : Dict Rat) (n m : String) (v : Rat) :
    (addMetric metrics n v).get? m = if n = m then addTo (metrics.get? m) v else metrics.get? m := by
  unfold addMetric
  rw [Dict.get?_insert]
  by_cases h : m = n
  · subst h; cases metrics.get? m <;> rfl
  · simp [h, Ne.symm h]

theorem podValue_eq_getD (podMetrics : Dict (Dict Rat)) (key m : String) :
    podValue podMetrics key m = (podMetrics.getD key Dict.empty).get? m := by
  simp only [podValue, Dict.getD_eq]
  cases podMetrics.get? key <;> rfl

theorem podValue_addPodMetric (podKey : Option String) (n : String) (v : Rat)
    (podMetrics : Dict (Dict Rat)) (key m : String) :
    podValue (addPodMetric podKey n v podMetrics) key m =
      if (podKey = some key ∧ key ≠ "") ∧ n = m then addTo (podValue podMetrics key m) v
      else podValue podMetrics key m := by
  rcases podKey with _ | key'
  · simp [addPodMetric]
  · by_cases hk : key' = ""
    · subst hk
      exact (if_neg fun h => h.1.2 (Option.some.inj h.1.1).symm).symm
    · simp only [addPodMetric, (pyTruthy_some _).mpr hk, if_true, Option.getD_some, podValue_eq_getD,
        Dict.getD_insert, Option.some.injEq]
      by_cases hkey : key = key'
      · subst hkey; simp [get?_addMetric, hk]
      · simp [hkey, Ne.symm hkey]

theorem podNetValue_addPodNetMetric (podKey : Option String) (i n : String) (v : Rat)
    (podNetworkMetrics : Dict (Dict (Dict Rat))) (key iface m : String) :
    podNetValue (addPodNetMetric podKey i n v podNetworkMetrics) key iface m =
      if (podKey = some key ∧ key ≠ "" ∧ i = iface) ∧ n = m then
        addTo (podNetValue podNetworkMetrics key iface m) v
      else podNetValue podNetworkMetrics key iface m := by
  rcases podKey with _ | key'
  · simp [addPodNetMetric]
  · by_cases hk : key' = ""
    · subst hk
      exact (if_neg fun h => h.1.2.1 (Option.some.inj h.1.1).symm).symm
    · simp only [addPodNetMetric, (pyTruthy_some _).mpr hk, if_true, Option.getD_some, podNetValue,
        Dict.getD_insert, Option.some.injEq]
      by_cases hkey : key = key'
      · subst hkey
        by_cases hi : iface = i
        · subst hi; simp [get?_addMetric, hk]
        · simp [hi, Ne.symm hi]
      · simp [hkey, Ne.symm hkey]

theorem foldl_fields_addTo {σ : Type} {step : String → Rat → σ → σ} {val : σ → Option Rat}
    {c : Prop} [Decidable c] {m : String}
    (hstep : ∀ n v acc, val (step n v acc) = if c ∧ n = m then addTo (val acc) v else val acc)
    (l : List (String × Rat)) (acc : σ) :
    val (l.foldl (fun s p => step p.1 p.2 s) acc) =
      if c then ((l.filter (·.1 = m)).map (·.2)).foldl addTo (val acc) else val acc := by
  induction l generalizing acc with
  | nil => split <;> rfl
  | cons p rest ih =>
    rw [List.foldl_cons, ih, hstep]
    by_cases hc : c <;> by_cases hp : p.1 = m <;> simp [hc, hp, List.filter_cons]

theorem podValue_accumulateSnapshot (podKey : Option String) (s : ContainerStats)
    (podMetrics : Dict (Dict Rat)) (key m : String) :
    podValue (accumulateSnapshot podKey s podMetrics) key m =
      if podKey = some key ∧ key ≠ "" then (snapshotValues s m).foldl addTo (podValue podMetrics key m)
      else podValue podMetrics key m := by
  have h := fun l pm => @foldl_fields_addTo _ (addPodMetric podKey) (fun pm => podValue pm key m)
    _ _ m (fun n v acc => podValue_addPodMetric podKey n v acc key m) l pm
  unfold accumulateSnapshot accumulateFields
  rw [h, h]
  by_cases hk : podKey = some key ∧ key ≠ "" <;>
    simp [hk, snapshotValues, List.filter_append, List.foldl_append]

theorem podNetValue_accumulateNetSnapshot (podKey : Option String) (s : ContainerStats)
    (podNetworkMetrics : Dict (Dict (Dict Rat))) (key iface m : String) :
    podNetValue (accumulateNetSnapshot podKey s podNetworkMetrics) key iface m =
      if podKey = some key ∧ key ≠ "" then
        (snapshotNetValues s iface m).foldl addTo (podNetValue podNetworkMetrics key iface m)
      else podNetValue podNetworkMetrics key iface m := by
  unfold accumulateNetSnapshot snapshotNetValues
  generalize interfacesData s = is
  induction is generalizing podNetworkMetrics with
  | nil => split <;> rfl
  | cons i rest ih =>
    rw [List.foldl_cons, ih, accumulateFields, @foldl_fields_addTo _ (addPodNetMetric podKey i.name)
      (fun pnm => podNetValue pnm key iface m) _ _ m
      (fun n v acc => podNetValue_addPodNetMetric podKey i.name n v acc key iface m)]
    by_cases hk : podKey = some key ∧ key ≠ "" <;> by_cases hi : i.name = iface <;>
      simp [hk, hi, List.foldl_append]

theorem podValue_accumulateEntry (podKey : Option String) (snaps : List ContainerStats)
    (podMetrics : Dict (Dict Rat)) {key : String} (hkey : key ≠ "") (m : String) :
    podValue (accumulateEntry podKey snaps podMetrics) key m =
      if podKey = some key then (entryValues snaps m).foldl addTo (podValue podMetrics key m)
      else podValue podMetrics key m := by
  cases snaps with
  | nil => split <;> rfl
  | cons s _ => simp [accumulateEntry, entryValues, podValue_accumulateSnapshot, hkey]

theorem podNetValue_accumulateNetEntry (podKey : Option String) (snaps : List ContainerStats)
    (podNetworkMetrics : Dict (Dict (Dict Rat))) {key : String} (hkey : key ≠ "") (iface m : String) :
    podNetValue (accumulateNetEntry podKey snaps podNetworkMetrics) key iface m =
      if podKey = some key then
        (entryNetValues snaps iface m).foldl addTo (podNetValue podNetworkMetrics key iface m)
      else podNetValue podNetworkMetrics key iface m := by
  cases snaps with
  | nil => split <;> rfl
  | cons s _ => simp [accumulateNetEntry, entryNetValues, podNetValue_accumulateNetSnapshot, hkey]

/-- A fold over the stats entries of an accumulator whose value grows, on each entry attributed to
`key`, by that entry's values: the value ends as all those values added in the entries' order. -/
theorem foldl_entries_addTo {σ : Type} {step : Option String → List ContainerStats → σ → σ}
    {val : σ → Option Rat} {vals : List ContainerStats → List Rat} {key : String}
    (hstep : ∀ podKey snaps acc, val (step podKey snaps acc) =
      if podKey = some key then (vals snaps).foldl addTo (val acc) else val acc)
    (f : String → Option String) (entries : List (String × List ContainerStats)) (acc : σ) :
    val (entries.foldl (fun acc e => step (f e.1) e.2 acc) acc) =
      (entries.flatMap fun e => if f e.1 = some key then vals e.2 else []).foldl addTo (val acc) := by
  induction entries generalizing acc with
  | nil => rfl
  | cons e rest ih =>
    rw [List.foldl_cons, ih, hstep, List.flatMap_cons, List.foldl_append]
    split_ifs <;> rfl

theorem foldl_addTo_some (vs : List Rat) (x : Rat) : vs.foldl addTo (some x) = some (x + vs.sum) := by
  induction vs generalizing x with
  | nil => simp
  | cons v vs ih => simp [addTo, ih, add_assoc]

theorem foldl_addTo_none (vs : List Rat) : vs.foldl addTo none = if vs = [] then none else some vs.sum := by
  cases vs with
  | nil => rfl
  | cons v vs => simp [addTo, foldl_addTo_some]

/-- No entry is ever accumulated under the blank pod key: `if pod_key:` skips it. -/
theorem podValue_foldl_accumulateEntry_blank (f : String → Option String)
    (entries : List (String × List ContainerStats)) (podMetrics : Dict (Dict Rat)) (m : String) :
    podValue (entries.foldl (fun pm e => accumulateEntry (f e.1) e.2 pm) podMetrics) "" m =
      podValue podMetrics "" m := by
  induction entries generalizing podMetrics with
  | nil => rfl
  | cons e rest ih =>
    rw [List.foldl_cons, ih]
    obtain ⟨K, _ | ⟨s, _⟩⟩ := e
    · rfl
    · simp [accumulateEntry, podValue_accumulateSnapshot]

theorem mem_podFlushSamples (podMetrics : Dict (Dict Rat)) (D : Dict Dims) (s : Sample) :
    s ∈ podFlushSamples podMetrics D ↔
      ∃ key n v, podValue podMetrics key n = some v ∧ s ∈ catalogSamples "pod." n v (D.getD key Dict.empty) := by
  simp only [podFlushSamples, List.mem_flatMap, podValue]
  constructor
  · rintro ⟨⟨key, ms⟩, hp, ⟨n, v⟩, hq, hs⟩
    rw [Dict.mem_items_iff] at hp hq
    exact ⟨key, n, v, by simp [hp, hq], hs⟩
  · rintro ⟨key, n, v, hv, hs⟩
    obtain ⟨ms, hms, hv⟩ := Option.bind_eq_some.mp hv
    exact ⟨(key, ms), (Dict.mem_items_iff _ _ _).mpr hms, (n, v), (Dict.mem_items_iff _ _ _).mpr hv, hs⟩

/-! ## Entries and pods -/

/-- The code's correlation rule, stated over the pod list: an entry belongs to `p` through the
first alias occurring in its stats key when a status was recorded under that alias, and through
its pod labels otherwise. -/
def belongsTo (containersSpec : Dict ContainerSpec) (pods : List Pod) (p : Pod) (container : String) :
    Bool :=
  match containersSpec.get? container with
  | none => false
  | some spec =>
    if firstAliasIn container spec.aliases ∈ recordedIds pods then
      firstAliasIn container spec.aliases ∈ (walkedStatuses p).map recordedId
    else labelKey spec = some (p.metadata.name ++ p.metadata.ns)

theorem unaffiliatedDims_fst {instanceDims : Dims} {spec : ContainerSpec} {D : Dict Dims}
    {podKey : Option String} {cd : Dims} (h : unaffiliatedDims instanceDims spec D = .ok (podKey, cd)) :
    podKey = (labelKey spec).bind fun key => if D.contains key then some key else none := by
  unfold unaffiliatedDims at h
  simp only [bind, Except.bind, pure, Except.pure] at h
  repeat' split at h
  all_goals try cases h
  all_goals simp_all [labelKey, Dict.contains]
  split <;> simp_all

section Pods

variable {k : Kubernetes} {pods : List Pod} {L : List String} {dims : Dims} {M D : Dict Dims}
  {out out' : List Sample}

/-- With no reserved label configured, a pod's key is its name followed by its namespace. -/
theorem podKey_eq (hL : ∀ l ∈ L, l ∉ reservedDimensions) (m : PodMetadata) :
    k.podKey L dims m = m.name ++ m.ns := by
  have h := getPodDimensions_name_ns hL k m
  simp [podKey, podDimsOf, Dict.getD_eq, h.1, h.2]

variable (hP : exec (k.processPods pods L dims Dict.empty Dict.empty) out = (.ok (M, D), out'))
include hP

variable (hL : ∀ l ∈ L, l ∉ reservedDimensions)
include hL

theorem mem_keys_podDimensionMap {key : String} (h : key ∈ D.keys) :
    ∃ p ∈ pods, walkedStatuses p ≠ [] ∧ key = p.metadata.name ++ p.metadata.ns := by
  rw [(processPods_state hP).2, Dict.mem_keys_insertAll] at h
  simp only [List.mem_map, List.mem_flatMap, podRecords] at h
  rcases h with ⟨⟨key', v⟩, ⟨p, hp, hmem⟩, rfl⟩ | h
  · split at hmem
    · cases hmem
    · simp only [List.mem_singleton, Prod.mk.injEq] at hmem
      exact ⟨p, hp, ‹_›, by rw [hmem.1, podKey_eq hL]⟩
  · simp [Dict.keys, Dict.empty] at h

/-- With distinct pod keys, the pod-dimension map holds each walked pod's dimensions under its
key. -/
theorem get?_podDimensionMap
    (hkeys : ∀ p ∈ pods, ∀ q ∈ pods, walkedStatuses p ≠ [] → walkedStatuses q ≠ [] →
      p.metadata.name ++ p.metadata.ns = q.metadata.name ++ q.metadata.ns → p = q)
    {p : Pod} (hp : p ∈ pods) (hw : walkedStatuses p ≠ []) :
    D.get? (p.metadata.name ++ p.metadata.ns) = some (k.podDimsOf L dims p.metadata) := by
  rw [(processPods_state hP).2, Dict.get?_insertAll]
  obtain ⟨cs, hcs⟩ := List.exists_mem_of_ne_nil _ hw
  rw [Dict.lookupKey_eq_some_of_forall]
  · rfl
  · rw [List.map_reverse, List.mem_reverse, ← podKey_eq hL]
    exact podKey_mem_podRecords hp hcs
  · intro v hv
    simp only [List.mem_reverse, List.mem_flatMap, podRecords] at hv
    obtain ⟨q, hq, hmem⟩ := hv
    split at hmem
    · cases hmem
    · simp only [List.mem_singleton, Prod.mk.injEq, podKey_eq hL] at hmem
      rw [hmem.2, hkeys q hq p hp ‹_› hw hmem.1.symm]

/-- For pods with distinct keys and distinct non-empty container IDs, and an entry that does not
fall back to the `''` sentinel, the code attributes the entry to a walked pod exactly when
`belongsTo` says it belongs there. -/
theorem getContainerDimensions_fst_iff
    (hkeys : ∀ p ∈ pods, ∀ q ∈ pods, walkedStatuses p ≠ [] → walkedStatuses q ≠ [] →
      p.metadata.name ++ p.metadata.ns = q.metadata.name ++ q.metadata.ns → p = q)
    (hids : ∀ p ∈ pods, ∀ q ∈ pods, ∀ cs ∈ walkedStatuses p, ∀ cs' ∈ walkedStatuses q,
      recordedId cs = recordedId cs' → recordedId cs ≠ "" → p = q)
    {S : Dict ContainerSpec} {container : String} {spec : ContainerSpec}
    (hs : S.get? container = some spec)
    (hslip : firstAliasIn container spec.aliases = "" → "" ∉ recordedIds pods)
    {podKey : Option String} {cd : Dims}
    (hg : getContainerDimensions container dims spec M D = .ok (podKey, cd))
    {p : Pod} (hp : p ∈ pods) (hw : walkedStatuses p ≠ []) :
    podKey = some (p.metadata.name ++ p.metadata.ns) ↔ belongsTo S pods p container = true := by
  simp only [belongsTo, hs, ← containerIdOf_eq_firstAliasIn] at hslip ⊢
  cases hM : M.get? (containerIdOf container spec.aliases) with
  | none =>
    have ha := (get?_containerIdMap_eq_none hP _).mp hM
    have hD : D.contains (p.metadata.name ++ p.metadata.ns) = true :=
      (Dict.contains_iff _ _).mpr ⟨_, get?_podDimensionMap hP hL hkeys hp hw⟩
    simp only [getContainerDimensions, hM] at hg
    rw [unaffiliatedDims_fst hg]
    simp only [ha, if_false, decide_eq_true_eq]
    cases labelKey spec with
    | none => simp
    | some key => by_cases hk : key = p.metadata.name ++ p.metadata.ns <;> simp [hk, hD]
  | some cd₀ =>
    obtain ⟨q, hq, cs, hcs, hid, rfl⟩ := mem_containerRecords
      (List.mem_reverse.mp (Dict.lookupKey_mem ((processPods_get? hP _).symm.trans hM)))
    have ha : containerIdOf container spec.aliases ∈ recordedIds pods := by
      simp only [recordedIds, List.mem_flatMap, List.mem_map]
      exact ⟨q, hq, cs, hcs, hid⟩
    have hwq : walkedStatuses q ≠ [] := List.ne_nil_of_mem hcs
    simp only [getContainerDimensions, hM, podKeyOf_statusDims, bind, Except.bind, pure,
      Except.pure, Except.ok.injEq, Prod.mk.injEq, podKey_eq hL] at hg
    rw [← hg.1]
    simp only [ha, if_true, decide_eq_true_eq, Option.some.injEq, List.mem_map]
    constructor
    · intro h
      cases hkeys q hq p hp hwq hw h
      exact ⟨cs, hcs, hid⟩
    · rintro ⟨cs', hcs', hid'⟩
      have hne : recordedId cs ≠ "" := fun h0 =>
        hslip (hid.symm.trans h0) (hid.symm.trans h0 ▸ ha)
      rw [hids q hq p hp cs hcs cs' hcs' (hid.trans hid'.symm) hne]

/-- With well-formed entries none of which meets the `''` sentinel, an entry is attributed to a
walked pod's key exactly when `belongsTo` assigns it to that pod. -/
theorem attributedKey_eq_iff
    (hkeys : ∀ p ∈ pods, ∀ q ∈ pods, walkedStatuses p ≠ [] → walkedStatuses q ≠ [] →
      p.metadata.name ++ p.metadata.ns = q.metadata.name ++ q.metadata.ns → p = q)
    (hids : ∀ p ∈ pods, ∀ q ∈ pods, ∀ cs ∈ walkedStatuses p, ∀ cs' ∈ walkedStatuses q,
      recordedId cs = recordedId cs' → recordedId cs ≠ "" → p = q)
    {S : Dict ContainerSpec} {T : Dict (List ContainerStats)} (hT : ∀ e ∈ T.items, EntryWF S e)
    (hslip : ∀ e ∈ T.items, ∀ spec, S.get? e.1 = some spec →
      firstAliasIn e.1 spec.aliases = "" → "" ∉ recordedIds pods)
    {p : Pod} (hp : p ∈ pods) (hw : walkedStatuses p ≠ []) {e : String × List ContainerStats}
    (he : e ∈ T.items) :
    attributedKey dims S M D e.1 = some (p.metadata.name ++ p.metadata.ns) ↔
      belongsTo S pods p e.1 = true := by
  obtain ⟨⟨spec, hs, hwf⟩, -⟩ := hT e he
  obtain ⟨⟨podKey, cd⟩, hg⟩ := getContainerDimensions_ok (processPods_linked hP) hwf e.1 dims
  have : attributedKey dims S M D e.1 = podKey := by simp [attributedKey, hs, hg, Except.toOption]
  rw [this]
  exact getContainerDimensions_fst_iff hP hL hkeys hids hs (hslip e he spec hs) hg hp hw

end Pods

theorem foldl_addTo_attributed {f : String → Option String} {g : String → Bool} {key : String}
    {entries : List (String × List ContainerStats)}
    (h : ∀ e ∈ entries, f e.1 = some key ↔ g e.1 = true) (vals : List ContainerStats → List Rat) :
    (entries.flatMap fun e => if f e.1 = some key then vals e.2 else []).foldl addTo none =
      let vs := entries.flatMap fun e => if g e.1 then vals e.2 else []
      if vs = [] then none else some vs.sum := by
  refine (congrArg (List.foldl addTo none) (List.flatMap_congr fun e he => ?_)).trans
    (foldl_addTo_none _)
  by_cases hg : g e.1 = true
  · rw [if_pos ((h e he).mpr hg), if_pos hg]
  · rw [if_neg (mt (h e he).mp hg), if_neg hg]

/-! ## The flushed pod sums -/

theorem startedPod_podKeys : ∀ p ∈ [startedPod], ∀ q ∈ [startedPod], walkedStatuses p ≠ [] →
    walkedStatuses q ≠ [] → p.metadata.name ++ p.metadata.ns = q.metadata.name ++ q.metadata.ns →
      p = q := by
  simp

theorem startedPod_containerIds : ∀ p ∈ [startedPod], ∀ q ∈ [startedPod], ∀ cs ∈ walkedStatuses p,
    ∀ cs' ∈ walkedStatuses q, recordedId cs = recordedId cs' → recordedId cs ≠ "" → p = q := by
  simp

theorem startedPod_noSentinel (T : Dict (List ContainerStats)) :
    ∀ e ∈ T.items, ∀ spec, startedSpecs.get? e.1 = some spec →
      firstAliasIn e.1 spec.aliases = "" → "" ∉ recordedIds [startedPod] :=
  fun _ _ _ _ _ => by decide

/-- The stats key `/docker/zzz` of an entry whose spec lists `startedPod`'s container ID `abc`. -/
def zzzSpecs : Dict ContainerSpec := ⟨[("/docker/zzz", startedSpec)], by decide⟩

def zzzStats : Dict (List ContainerStats) := ⟨[("/docker/zzz", [rssSnapshot])], by decide⟩

/-- A snapshot with one interface, `eth0`, that has received 7 bytes. -/
def netSnapshot : ContainerStats :=
  ⟨false, none, false, none, true, some ⟨[⟨"eth0", ⟨[("rx_bytes", 7)], by decide⟩⟩]⟩, false, none⟩

def netStats : Dict (List ContainerStats) := ⟨[("/docker/abc", [netSnapshot])], by decide⟩

theorem netStats_entryWF : ∀ e ∈ netStats.items, EntryWF startedSpecs e := by
  intro e he
  simp only [netStats, List.mem_singleton] at he
  subst he
  exact ⟨⟨startedSpec, rfl, by decide, fun _ h => by cases h⟩, netSnapshot, [], rfl, by decide⟩

end Kubernetes
end MonascaAgent
