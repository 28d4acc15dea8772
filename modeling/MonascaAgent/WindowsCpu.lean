import MonascaAgent.Schema

/-!
# MonascaAgent.WindowsCpu

`windows_cpu.py`, the `WindowsCpu` check. One cycle reads the CPU times, their percentages, the
CPU percentage and the maximum frequency from psutil into the `data` dictionary, gauges each entry
psutil gave a value for, in the dictionary's order (with `cpu_idle_only`, only `cpu.idle_perc`),
then, with `send_rollup_stats`, the number of logical CPUs.

`check` guards a missing instance for `send_rollup_stats` only: the loop's test calls
`instance.get` on the first entry with a value, which raises `AttributeError` without an instance.

* `check_some` — with an instance a cycle never raises and gauges exactly the entries it selects.
* `check_none` — without one it gauges nothing, and raises as soon as one entry has a value.
* `check_idleOnly` — with `cpu_idle_only` only the idle percentage and the core count are gauged.
-/

namespace MonascaAgent

namespace WindowsCpu

/-- The fields of a psutil `scputimes` the check reads. -/
structure CpuTimes where
  user : Option Rat
  system : Option Rat
  interrupt : Option Rat
  idle : Option Rat
  dpc : Option Rat

/-- What one cycle reads from psutil; `none` is a value psutil gives as `None`. -/
structure Readings where
  /-- `psutil.cpu_times_percent(interval=None, percpu=False)`. -/
  cpuStats : CpuTimes
  /-- `psutil.cpu_times(percpu=False)`. -/
  cpuTimes : CpuTimes
  /-- `psutil.cpu_percent(interval=None, percpu=False)`. -/
  cpuPerc : Option Rat
  /-- `psutil.cpu_freq(percpu=False).max`. -/
  cpuFreqMax : Option Rat
  /-- `psutil.cpu_count(logical=True)`. -/
  cpuCount : Option Rat

/-- The options of a configured instance; `none` is a missing key. -/
structure Instance where
  sendRollupStats : Option Bool
  cpuIdleOnly : Option Bool

/-- The exception a cycle raises itself. -/
inductive CpuErr where
  /-- `instance.get` on `None`. -/
  | attributeError
  deriving DecidableEq

/-- The `data` dictionary of `check`, before `_add_cpu_freq`. -/
def data (r : Readings) : Dict (Option Rat) :=
  ⟨[("cpu.user_perc", r.cpuStats.user), ("cpu.system_perc", r.cpuStats.system),
    ("cpu.interrupt_perc", r.cpuStats.interrupt), ("cpu.idle_perc", r.cpuStats.idle),
    ("cpu.dpc_perc", r.cpuStats.dpc), ("cpu.percent", r.cpuPerc),
    ("cpu.idle_time", r.cpuTimes.idle), ("cpu.interrupt_time", r.cpuTimes.interrupt),
    ("cpu.user_time", r.cpuTimes.user), ("cpu.system_time", r.cpuTimes.system),
    ("cpu.dpc_time", r.cpuTimes.dpc)], by simp⟩

def addCpuFreq (r : Readings) (data : Dict (Option Rat)) : Dict (Option Rat) :=
  data.insert "cpu.frequency_mhz" r.cpuFreqMax

/-- The test of the loop, `data[key] is None or instance.get('cpu_idle_only') and 'idle_perc' not
in key`: `true` skips the entry. -/
def skips (inst : Option Instance) (key : String) (value : Option Rat) : Except CpuErr Bool :=
  if value.isNone then .ok true
  else
    match inst with
    | none => .error .attributeError
    | some i => .ok (i.cpuIdleOnly.getD false && !pyContains "idle_perc" key)

/-- The loop over `data.items()`: how it ends, and the samples it emits. -/
def gaugeItems (inst : Option Instance) (dimensions : Dims) :
    List (String × Option Rat) → Except CpuErr Unit × List Sample
  | [] => (.ok (), [])
  | (key, value) :: rest =>
    match skips inst key value with
    | .error e => (.error e, [])
    | .ok true => gaugeItems inst dimensions rest
    | .ok false =>
      let (r, samples) := gaugeItems inst dimensions rest
      (r, ⟨.gauge, key, value, dimensions, none⟩ :: samples)

/-- `check`: one cycle, from the dimensions `_set_dimensions` returns. -/
def check (inst : Option Instance) (setDimensions : Dims) (r : Readings) :
    Except CpuErr Unit × List Sample :=
  let dimensions := setDimensions
  let sendRollupStats := match inst with
    | some i => i.sendRollupStats.getD false
    | none => false
  match gaugeItems inst dimensions (addCpuFreq r (data r)).items with
  | (.error e, samples) => (.error e, samples)
  | (.ok (), samples) =>
    (.ok (), samples ++ if sendRollupStats then
      [⟨.gauge, "cpu.total_logical_cores", r.cpuCount, dimensions, none⟩] else [])

/-! ## The loop -/

/-- Whether the loop gauges an entry, with an instance: it has a value, and it is the idle
percentage or `cpu_idle_only` is not set. -/
def selected (i : Instance) (entry : String × Option Rat) : Bool :=
  entry.2.isSome && !(i.cpuIdleOnly.getD false && !pyContains "idle_perc" entry.1)

def entrySample (dimensions : Dims) (entry : String × Option Rat) : Sample :=
  ⟨.gauge, entry.1, entry.2, dimensions, none⟩

theorem gaugeItems_some (i : Instance) (dimensions : Dims) (entries : List (String × Option Rat)) :
    gaugeItems (some i) dimensions entries =
      (.ok (), (entries.filter (selected i)).map (entrySample dimensions)) := by
  induction entries with
  | nil => rfl
  | cons e rest ih =>
    obtain ⟨key, value⟩ := e
    cases value with
    | none => simp [gaugeItems, skips, selected, ih]
    | some v =>
      cases hs : (i.cpuIdleOnly.getD false && !pyContains "idle_perc" key) <;>
        simp [gaugeItems, skips, selected, entrySample, hs, ih]

theorem gaugeItems_none (dimensions : Dims) (entries : List (String × Option Rat)) :
    gaugeItems none dimensions entries =
      (if entries.all (·.2.isNone) then .ok () else .error .attributeError, []) := by
  induction entries with
  | nil => rfl
  | cons e rest ih =>
    obtain ⟨key, value⟩ := e
    cases value with
    | none => simp only [gaugeItems, skips, Option.isNone_none, if_true, ih, List.all_cons, Bool.true_and]
    | some v => simp [gaugeItems, skips]

theorem keys_addCpuFreq (r : Readings) :
    (addCpuFreq r (data r)).keys =
      ["cpu.user_perc", "cpu.system_perc", "cpu.interrupt_perc", "cpu.idle_perc", "cpu.dpc_perc",
        "cpu.percent", "cpu.idle_time", "cpu.interrupt_time", "cpu.user_time", "cpu.system_time",
        "cpu.dpc_time", "cpu.frequency_mhz"] := rfl

theorem eq_idlePerc_of_pyContains {r : Readings} {key : String}
    (hk : key ∈ (addCpuFreq r (data r)).keys) (hc : pyContains "idle_perc" key = true) :
    key = "cpu.idle_perc" := by
  simp only [keys_addCpuFreq, List.mem_cons, List.not_mem_nil, or_false] at hk
  rcases hk with rfl | rfl | rfl | rfl | rfl | rfl | rfl | rfl | rfl | rfl | rfl | rfl <;>
    first | rfl | exact absurd hc (by decide)

/-! ## Whole cycles -/

/-- With an instance a cycle never raises: it gauges, in the order of `data`, each entry with a
value (only `cpu.idle_perc` with `cpu_idle_only`), then the logical core count with
`send_rollup_stats`. -/
theorem check_some (i : Instance) (setDimensions : Dims) (r : Readings) :
    check (some i) setDimensions r =
      (.ok (), ((addCpuFreq r (data r)).items.filter (selected i)).map (entrySample setDimensions) ++
        if i.sendRollupStats.getD false then
          [⟨.gauge, "cpu.total_logical_cores", r.cpuCount, setDimensions, none⟩] else []) := by
  simp only [check, gaugeItems_some]

/-- Without an instance a cycle gauges nothing: it completes when psutil gave no value at all,
and raises `AttributeError` otherwise. -/
theorem check_none (setDimensions : Dims) (r : Readings) :
    check none setDimensions r =
      (if (addCpuFreq r (data r)).items.all (·.2.isNone) then .ok () else .error .attributeError,
        []) := by
  by_cases h : (addCpuFreq r (data r)).items.all (·.2.isNone) <;> simp [check, gaugeItems_none, h]

/-- With `cpu_idle_only` set, a cycle gauges nothing but the idle percentage and the logical core
count: the other times, the CPU percentage and the frequency are dropped, whatever psutil gives. -/
theorem check_idleOnly (i : Instance) (hi : i.cpuIdleOnly = some true) (setDimensions : Dims)
    (r : Readings) :
    ∀ s ∈ (check (some i) setDimensions r).2,
      s.name = "cpu.idle_perc" ∨ s.name = "cpu.total_logical_cores" := by
  intro s hs
  simp only [check, gaugeItems_some, List.mem_append, List.mem_map, List.mem_filter] at hs
  rcases hs with ⟨⟨key, value⟩, ⟨hk, hsel⟩, rfl⟩ | hs
  · have hc : pyContains "idle_perc" key = true := by
      simp only [selected, hi, Option.getD_some, Bool.true_and, Bool.not_not, Bool.and_eq_true] at hsel
      exact hsel.2
    exact .inl (eq_idlePerc_of_pyContains (List.mem_map_of_mem Prod.fst hk) hc)
  · split at hs
    · rw [List.mem_singleton.mp hs]
      exact .inr rfl
    · cases hs

def busyCpu : Readings :=
  ⟨⟨some 5, some 3, some 1, some 90, some 1⟩, ⟨some 50, some 30, some 10, some 900, some 10⟩,
    some 10, some 2400, some 8⟩

example : (check (some ⟨some true, some true⟩) Dict.empty busyCpu).2.map (·.name) =
    ["cpu.idle_perc", "cpu.total_logical_cores"] := by
  rfl

end WindowsCpu

end MonascaAgent
