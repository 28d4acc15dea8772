import MonascaAgent.Effects

/-!
# MonascaAgent.Catalog

The module-level tables of `kubernetes.py` (`POD_PHASE`, the four sections of
`CADVISOR_METRICS`, `METRIC_TYPES_UNITS`) and `_send_metrics`, the one place samples of the
catalog are emitted.

* `catalogSamples` — what the catalog prescribes for a canonical name: one sample per listed
  type, named with `_sec` for a rate, carrying the unit listed with that type.
* `sendCatalog_exec` — `_send_metrics` on a catalog entry emits exactly `catalogSamples`, and
  leaves the entry's last unit in the dimensions.
* `withUnit` — what the in-place `unit` updates leave of a dimension record: only `unit` changes,
  and the samples the catalog prescribes do not see it.
* `mem_metricTypesUnits` — every canonical name of the four field tables is in the catalog.
-/

namespace MonascaAgent

open CheckM

def podPhase : Dict Nat :=
  ⟨[("Succeeded", 0), ("Running", 1), ("Pending", 2), ("Failed", 3), ("Unknown", 4)], by decide⟩

def cpuMetrics : Dict String :=
  ⟨[("system", "cpu.system_time"), ("total", "cpu.total_time"), ("user", "cpu.user_time")],
    by decide⟩

def memoryMetrics : Dict String :=
  ⟨[("rss", "mem.rss_bytes"), ("swap", "mem.swap_bytes"), ("cache", "mem.cache_bytes"),
    ("usage", "mem.used_bytes"), ("failcnt", "mem.fail_count")], by decide⟩

/-- `CADVISOR_METRICS['filesystem_metrics']`, with the source's key `reads_completes`. -/
def filesystemMetrics : Dict String :=
  ⟨[("capacity", "fs.total_bytes"), ("usage", "fs.usage_bytes"), ("writes_completed", "fs.writes"),
    ("reads_completes", "fs.reads"), ("io_in_progress", "fs.io_current")], by decide⟩

def networkMetrics : Dict String :=
  ⟨[("rx_bytes", "net.in_bytes"), ("tx_bytes", "net.out_bytes"), ("rx_packets", "net.in_packets"),
    ("tx_packets", "net.out_packets"), ("rx_dropped", "net.in_dropped_packets"),
    ("tx_dropped", "net.out_dropped_packets"), ("rx_errors", "net.in_errors"),
    ("tx_errors", "net.out_errors")], by decide⟩

/-- `METRIC_TYPES_UNITS`: canonical name to its metric types and the units paired with them. -/
def metricTypesUnits : Dict (List String × List String) :=
  ⟨[("cpu.system_time", (["gauge", "rate"], ["core_seconds", "cores_seconds_per_second"])),
    ("cpu.total_time", (["gauge", "rate"], ["core_seconds", "cores_seconds_per_second"])),
    ("cpu.user_time", (["gauge", "rate"], ["core_seconds", "cores_seconds_per_second"])),
    ("mem.rss_bytes", (["gauge"], ["bytes"])),
    ("mem.swap_bytes", (["gauge"], ["bytes"])),
    ("mem.cache_bytes", (["gauge"], ["bytes"])),
    ("mem.used_bytes", (["gauge"], ["bytes"])),
    ("mem.fail_count", (["gauge"], ["count"])),
    ("fs.total_bytes", (["gauge"], ["bytes"])),
    ("fs.usage_bytes", (["gauge"], ["bytes"])),
    ("fs.writes", (["gauge", "rate"], ["bytes", "bytes_per_second"])),
    ("fs.reads", (["gauge", "rate"], ["bytes", "bytes_per_second"])),
    ("fs.io_current", (["gauge"], ["bytes"])),
    ("net.in_bytes", (["gauge", "rate"], ["bytes", "bytes_per_second"])),
    ("net.out_bytes", (["gauge", "rate"], ["bytes", "bytes_per_second"])),
    ("net.in_packets", (["gauge", "rate"], ["packets", "packets_per_second"])),
    ("net.out_packets", (["gauge", "rate"], ["packets", "packets_per_second"])),
    ("net.in_dropped_packets", (["gauge", "rate"], ["packets", "packets_per_second"])),
    ("net.out_dropped_packets", (["gauge", "rate"], ["packets", "packets_per_second"])),
    ("net.in_errors", (["gauge", "rate"], ["errors", "errors_per_second"])),
    ("net.out_errors", (["gauge", "rate"], ["errors", "errors_per_second"]))], by decide⟩

/-- The `hostname` argument of `_send_metrics`' calls. -/
def hostnameOf (dims : Dims) : Option String :=
  if dims.contains "pod_name" then some "SUPPRESS" else none

/-- `_send_metrics`: one sample per entry of `metric_types`. Returns `dimensions` as the
in-place `unit` updates leave it. -/
def sendMetrics (metricName : String) (value : Rat) (dims : Dims) (types units : List String) :
    CheckM Dims :=
  types.foldlM (fun dims t =>
    if t = "rate" then do
      let u ← MonadExcept.ofExcept (pyIndex units (types.indexOf "rate"))
      let dims := dims.insert "unit" u
      rate (metricName ++ "_sec") (some value) dims (hostnameOf dims)
      pure dims
    else if t = "gauge" then do
      let u ← MonadExcept.ofExcept (pyIndex units (types.indexOf "gauge"))
      let dims := dims.insert "unit" u
      gauge metricName (some value) dims (hostnameOf dims)
      pure dims
    else pure dims) dims

/-- `_send_metrics(pre + name, value, dims, METRIC_TYPES_UNITS[name][0], METRIC_TYPES_UNITS[name][1])`. -/
def sendCatalog (pre name : String) (value : Rat) (dims : Dims) : CheckM Dims := do
  let e ← MonadExcept.ofExcept (metricTypesUnits.getItem name)
  sendMetrics (pre ++ name) value dims e.1 e.2

/-- The samples the catalog prescribes for `name`: one per listed type, each with its unit. -/
def catalogSamples (pre name : String) (value : Rat) (dims : Dims) : List Sample :=
  match metricTypesUnits.get? name with
  | none => []
  | some (types, units) => (types.zip units).filterMap fun (t, u) =>
    if t = "gauge" then some ⟨.gauge, pre ++ name, some value, dims.insert "unit" u, hostnameOf dims⟩
    else if t = "rate" then
      some ⟨.rate, pre ++ name ++ "_sec", some value, dims.insert "unit" u, hostnameOf dims⟩
    else none

def catalogUnit (name : String) : String :=
  ((metricTypesUnits.get? name).bind fun e => e.2.getLast?).getD ""

/-- `dims` after the in-place `unit` updates of some calls of `_send_metrics`: unchanged, or with
`unit` set to the last unit sent. -/
def withUnit (dims : Dims) : Option String → Dims
  | none => dims
  | some u => dims.insert "unit" u

/-! ## The catalog's entries -/

/-- The two shapes of a catalog entry: a gauge, or a gauge and a rate, each with one unit. -/
def CatalogShape (e : List String × List String) : Prop :=
  (e.1 = ["gauge"] ∧ e.2.length = 1) ∨ (e.1 = ["gauge", "rate"] ∧ e.2.length = 2)

instance : DecidablePred CatalogShape := fun e =>
  inferInstanceAs (Decidable ((e.1 = ["gauge"] ∧ e.2.length = 1) ∨ (e.1 = ["gauge", "rate"] ∧ e.2.length = 2)))

theorem catalogShape_of_get? {name : String} {e : List String × List String}
    (h : metricTypesUnits.get? name = some e) : CatalogShape e := by
  have hall : ∀ p ∈ metricTypesUnits.items, CatalogShape p.2 := by decide
  exact hall (name, e) ((Dict.mem_items_iff _ _ _).mpr h)

@[simp] theorem hostnameOf_insert_unit (dims : Dims) (u : String) :
    hostnameOf (dims.insert "unit" u) = hostnameOf dims := by
  simp [hostnameOf, Dict.contains]

theorem withUnit_withUnit (dims : Dims) (o o' : Option String) :
    withUnit (withUnit dims o) o' = withUnit dims (o'.or o) := by
  cases o <;> cases o' <;> simp [withUnit, Dict.insert_insert]

theorem get?_withUnit (dims : Dims) (o : Option String) {x : String} (h : x ≠ "unit") :
    (withUnit dims o).get? x = dims.get? x := by
  cases o <;> simp [withUnit, h]

@[simp] theorem catalogSamples_insert_unit (pre name : String) (value : Rat) (dims : Dims)
    (u : String) : catalogSamples pre name value (dims.insert "unit" u) = catalogSamples pre name value dims := by
  simp [catalogSamples, Dict.insert_insert]

@[simp] theorem catalogSamples_withUnit (pre name : String) (value : Rat) (dims : Dims)
    (o : Option String) : catalogSamples pre name value (withUnit dims o) = catalogSamples pre name value dims := by
  cases o <;> simp [withUnit]

theorem sendMetrics_exec {e : List String × List String} (h : CatalogShape e)
    (pre name : String) (value : Rat) (dims : Dims) (out : List Sample) :
    exec (sendMetrics (pre ++ name) value dims e.1 e.2) out =
      (.ok (dims.insert "unit" (e.2.getLast?.getD "")), out ++ (e.1.zip e.2).filterMap fun (t, u) =>
        if t = "gauge" then some ⟨.gauge, pre ++ name, some value, dims.insert "unit" u, hostnameOf dims⟩
        else if t = "rate" then
          some ⟨.rate, pre ++ name ++ "_sec", some value, dims.insert "unit" u, hostnameOf dims⟩
        else none) := by
  obtain ⟨types, units⟩ := e
  rcases h with ⟨rfl, h⟩ | ⟨rfl, h⟩
  · obtain ⟨u, rfl⟩ := List.length_eq_one.mp h
    simp [sendMetrics, exec_bind, pyIndex, List.indexOf, List.findIdx_cons]
  · obtain ⟨u₁, u₂, rfl⟩ := List.length_eq_two.mp h
    simp [sendMetrics, exec_bind, pyIndex, List.indexOf, List.findIdx_cons, Dict.insert_insert]

theorem sendCatalog_exec {name : String} (h : name ∈ metricTypesUnits.keys) (pre : String)
    (value : Rat) (dims : Dims) (out : List Sample) :
    exec (sendCatalog pre name value dims) out =
      (.ok (dims.insert "unit" (catalogUnit name)), out ++ catalogSamples pre name value dims) := by
  obtain ⟨e, he⟩ := (Dict.mem_keys_iff _ _).mp h
  rw [sendCatalog, exec_bind_of_ok (by rw [exec_ofExcept, (Dict.getItem_eq_ok _ _ _).mpr he]),
    sendMetrics_exec (catalogShape_of_get? he), catalogSamples, catalogUnit, he, Option.some_bind]

theorem mem_metricTypesUnits {name : String}
    (h : name ∈ cpuMetrics.items.map Prod.snd ∨ name ∈ memoryMetrics.items.map Prod.snd ∨
      name ∈ filesystemMetrics.items.map Prod.snd ∨ name ∈ networkMetrics.items.map Prod.snd) :
    name ∈ metricTypesUnits.keys := by
  have : ∀ n ∈ cpuMetrics.items.map Prod.snd ++ memoryMetrics.items.map Prod.snd ++
      filesystemMetrics.items.map Prod.snd ++ networkMetrics.items.map Prod.snd,
      n ∈ metricTypesUnits.keys := by decide
  exact this name (by simp only [List.mem_append]; tauto)

end MonascaAgent
