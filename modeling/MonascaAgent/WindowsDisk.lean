import Mathlib.Algebra.BigOperators.Group.List
import Mathlib.Algebra.Ring.Rat
import MonascaAgent.Schema

/-!
# MonascaAgent.WindowsDisk

`windows_disk.py`, the `Disk` check. One cycle reads the partitions, the usage of each one and the
per-disk I/O counters from psutil, and emits

* `disk.space_used_perc` for each partition that passes the two filters (its file-system type is
  not ignored, its device does not match `device_blacklist_re`) and whose usage can be read;
* six `io.*` rates per disk, when `send_io_stats`;
* the two rolled-up totals, when `send_rollup_stats`, on a copy of the instance dimensions taken
  before the loop.

The partition loop writes `mount_point` into the one `dimensions` dictionary of the cycle, and the
`io.*` rates are emitted after the loop on that same dictionary.

* `loopSpec` — the loop's state described by the partitions read so far; `partitionLoop_eq`: the
  loop computes it.
* `check_samples` — a whole cycle described by the partitions it reads.
* `check_ioMountPoint` — every `io.*` rate carries the mount point of the last partition read.
* `check_skipUnread` — a partition filtered out, or whose usage raises, changes nothing.
-/

namespace MonascaAgent

/-- A `self.gauge` or `self.rate` call with its `device_name` argument. -/
structure DeviceSample where
  sample : Sample
  deviceName : Option String
  deriving DecidableEq

/-! ## Strings -/

/-- Python `str.isspace` on one character. -/
def pyIsSpace (c : Char) : Bool :=
  let n := c.toNat
  (9 ≤ n && n ≤ 13) || (28 ≤ n && n ≤ 32) || n == 0x85 || n == 0xA0 || n == 0x1680 ||
    (0x2000 ≤ n && n ≤ 0x200A) || n == 0x2028 || n == 0x2029 || n == 0x202F || n == 0x205F ||
    n == 0x3000

def pyStrip (s : String) : String :=
  String.mk ((s.toList.dropWhile pyIsSpace).reverse.dropWhile pyIsSpace).reverse

/-- Python `s.partition(sep)[2]` for a one-character `sep`: what follows its first occurrence. -/
def pyPartitionTail (s : String) (sep : Char) : String :=
  String.mk ((s.toList.dropWhile (· != sep)).drop 1)

def pyStartswith (s p : String) : Bool := decide (p.toList <+: s.toList)

/-- `re.sub("\\\\", "/", s)`: every backslash becomes a slash. -/
def subBackslashes (s : String) : String :=
  String.mk (s.toList.map fun c => if c = '\\' then '/' else c)

/-! ## The check -/

namespace Disk

/-- A psutil `sdiskpart`: the fields the check reads. -/
structure Partition where
  device : String
  mountpoint : String
  fstype : String
  deriving DecidableEq

/-- A psutil `sdiskusage`. -/
structure DiskUsage where
  total : Rat
  used : Rat
  percent : Rat
  deriving DecidableEq

/-- A psutil `sdiskio`: the counters the check reads. -/
structure DiskIo where
  readCount : Nat
  writeCount : Nat
  readBytes : Nat
  writeBytes : Nat
  readTime : Nat
  writeTime : Nat
  deriving DecidableEq

/-- What one cycle reads from the system. -/
structure Readings where
  /-- `psutil.disk_partitions(all=True)`. -/
  diskPartitions : List Partition
  /-- `psutil.disk_usage(mountpoint)`; `none` when it raises. -/
  diskUsage : String → Option DiskUsage
  /-- `psutil.disk_io_counters(perdisk=True)`. -/
  diskIoCounters : Dict DiskIo
  /-- The lines of `/proc/filesystems`; `none` when `open` raises `IOError`. -/
  procFilesystems : Option (List String)

/-- The options of a configured instance; `none` is a missing key. -/
structure Instance where
  useMount : Option Bool
  sendIoStats : Option Bool
  sendRollupStats : Option Bool
  deviceBlacklistRe : Option String
  ignoreFilesystemTypes : Option String

end Disk

open Disk in
/-- The library functions the check calls. -/
structure Disk where
  /-- `re.compile(p)`, as the test `.match(s)` makes of it; `none` when it raises `re.error`. -/
  reCompile : String → Option (String → Bool)
  /-- `round(x, 2)`. -/
  round2 : Rat → Rat

namespace Disk

def getReExclusions (d : Disk) (inst : Instance) : Option (String → Bool) :=
  match inst.deviceBlacklistRe with
  | some filterDeviceRe => if filterDeviceRe ≠ "" then d.reCompile filterDeviceRe else none
  | none => none

/-- `_get_fs_exclusions`: the `nodev` entries of `/proc/filesystems`, then the comma-separated
`ignore_filesystem_types`. A set in the source, of which only membership is read. -/
def getFsExclusions (inst : Instance) (procFilesystems : Option (List String)) : List String :=
  let fileSystemList := ((procFilesystems.getD []).filter (pyStartswith · "nodev\t")).map
    fun nodevfs => pyStrip (pyPartitionTail nodevfs '\t')
  match inst.ignoreFilesystemTypes with
  | some fileSystems =>
    if fileSystems ≠ "" then fileSystemList ++ (pySplit fileSystems ",").map pyStrip
    else fileSystemList
  | none => fileSystemList

def getDeviceName (partition : Partition) : String := subBackslashes partition.device

def getMountpoint (partition : Partition) : String := subBackslashes partition.mountpoint

/-- What `check` reads from its instance, with the defaults it uses without one. -/
structure Options where
  useMount : Bool
  sendIoStats : Bool
  sendRollupStats : Bool
  deviceBlacklistRe : Option (String → Bool)
  fsTypesToIgnore : List String

/-- The first branch of `check`: the instance's options, or the defaults. -/
def options (d : Disk) (inst : Option Instance) (procFilesystems : Option (List String)) :
    Options :=
  match inst with
  | some i => ⟨i.useMount.getD true, i.sendIoStats.getD true, i.sendRollupStats.getD false,
      d.getReExclusions i, getFsExclusions i procFilesystems⟩
  | none => ⟨true, true, false, none, []⟩

/-- The test of the partition loop. -/
def selected (o : Options) (partition : Partition) : Bool :=
  decide (partition.fstype ∉ o.fsTypesToIgnore) &&
    match o.deviceBlacklistRe with
    | none => true
    | some m => !m partition.device

def spaceSample (dimensions : Dims) (deviceName : String) (diskUsage : DiskUsage) : DeviceSample :=
  ⟨⟨.gauge, "disk.space_used_perc", some diskUsage.percent, dimensions, none⟩, some deviceName⟩

/-- The variables the partition loop updates: `dimensions` (changed in place), `total_capacity`,
`total_used`, and the samples emitted so far. -/
structure LoopState where
  dimensions : Dims
  totalCapacity : Rat
  totalUsed : Rat
  samples : List DeviceSample

/-- One iteration of the partition loop; a partition whose usage raises is skipped. -/
def partitionStep (r : Readings) (o : Options) (st : LoopState) (partition : Partition) :
    LoopState :=
  if selected o partition then
    let mountpoint := getMountpoint partition
    let deviceName := getDeviceName partition
    match r.diskUsage mountpoint with
    | none => st
    | some diskUsage =>
      let dimensions := if o.useMount then st.dimensions.insert "mount_point" mountpoint
        else st.dimensions
      ⟨dimensions, st.totalCapacity + diskUsage.total, st.totalUsed + diskUsage.used,
        st.samples ++ [spaceSample dimensions deviceName diskUsage]⟩
  else st

/-- The six rates of one disk of `disk_io_counters`. -/
def ioSamples (d : Disk) (dimensions : Dims) (deviceName : String) (stats : DiskIo) :
    List DeviceSample :=
  [("io.read_req_sec", d.round2 stats.readCount), ("io.write_req_sec", d.round2 stats.writeCount),
    ("io.read_kbytes_sec", d.round2 ((stats.readBytes : Rat) / 1024)),
    ("io.write_kbytes_sec", d.round2 ((stats.writeBytes : Rat) / 1024)),
    ("io.read_time_sec", d.round2 ((stats.readTime : Rat) / 1000)),
    ("io.write_time_sec", d.round2 ((stats.writeTime : Rat) / 1000))].map
    fun (name, value) => ⟨⟨.rate, name, some value, dimensions, none⟩, some deviceName⟩

def rollupSamples (rollupDimensions : Dims) (totalCapacity totalUsed : Rat) : List DeviceSample :=
  [⟨⟨.gauge, "disk.total_space_mb", some (totalCapacity / 1048576), rollupDimensions, none⟩, none⟩,
    ⟨⟨.gauge, "disk.total_used_space_mb", some (totalUsed / 1048576), rollupDimensions, none⟩, none⟩]

/-- `check`: one cycle, from the dimensions `_set_dimensions` returns. -/
def check (d : Disk) (inst : Option Instance) (setDimensions : Dims) (r : Readings) :
    List DeviceSample :=
  let dimensions := setDimensions
  let rollupDimensions := dimensions
  let o := d.options inst r.procFilesystems
  let st := r.diskPartitions.foldl (partitionStep r o) ⟨dimensions, 0, 0, []⟩
  st.samples ++
    (if o.sendIoStats then
      r.diskIoCounters.items.flatMap fun (deviceName, stats) => d.ioSamples st.dimensions deviceName stats
    else []) ++
    if o.sendRollupStats then rollupSamples rollupDimensions st.totalCapacity st.totalUsed else []

/-! ## The partition loop -/

/-- The partitions the loop reads: those selected whose usage can be read, with their usage. -/
def readPartitions (r : Readings) (o : Options) (ps : List Partition) :
    List (Partition × DiskUsage) :=
  ps.filterMap fun p => if selected o p then (r.diskUsage (getMountpoint p)).map (p, ·) else none

def partitionDims (useMount : Bool) (dims : Dims) (p : Partition) : Dims :=
  if useMount then dims.insert "mount_point" (getMountpoint p) else dims

/-- `dimensions` after the loop has read `read`: the last mount point written, if any. -/
def loopDims (useMount : Bool) (dims : Dims) (read : List (Partition × DiskUsage)) : Dims :=
  match read.getLast? with
  | some (p, _) => partitionDims useMount dims p
  | none => dims

/-- The loop's state after reading `read`, from the dimensions `dims`. -/
def loopSpec (useMount : Bool) (dims : Dims) (read : List (Partition × DiskUsage)) : LoopState :=
  ⟨loopDims useMount dims read, (read.map (·.2.total)).sum, (read.map (·.2.used)).sum,
    read.map fun (p, u) => spaceSample (partitionDims useMount dims p) (getDeviceName p) u⟩

theorem partitionDims_loopDims (useMount : Bool) (dims : Dims) (read : List (Partition × DiskUsage))
    (p : Partition) :
    (if useMount then (loopDims useMount dims read).insert "mount_point" (getMountpoint p)
      else loopDims useMount dims read) = partitionDims useMount dims p := by
  cases useMount with
  | false => simp only [loopDims, partitionDims, Bool.false_eq_true, if_false]; split <;> rfl
  | true =>
    simp only [loopDims, partitionDims, if_true]
    split
    · exact Dict.insert_insert _ _ _ _
    · rfl

theorem readPartitions_cons (r : Readings) (o : Options) (p : Partition) (ps : List Partition) :
    readPartitions r o (p :: ps) = readPartitions r o [p] ++ readPartitions r o ps := by
  simp only [readPartitions, List.filterMap_cons, List.filterMap_nil]
  split <;> rfl

/-- The step lemma: one iteration extends the description by the partition, when it is read. -/
theorem partitionStep_loopSpec (r : Readings) (o : Options) (dims : Dims)
    (read : List (Partition × DiskUsage)) (p : Partition) :
    partitionStep r o (loopSpec o.useMount dims read) p =
      loopSpec o.useMount dims (read ++ readPartitions r o [p]) := by
  unfold partitionStep
  by_cases hs : selected o p
  · cases hu : r.diskUsage (getMountpoint p) with
    | none => simp [readPartitions, hs, hu]
    | some u =>
      simp only [hs, hu, if_true, loopSpec, partitionDims_loopDims]
      simp [readPartitions, hs, hu, loopDims, List.sum_append]
  · simp [readPartitions, hs]

/-- The run lemma: the loop from any described state reads exactly `readPartitions`. -/
theorem partitionLoop_eq (r : Readings) (o : Options) (dims : Dims) (ps : List Partition) :
    ∀ read, ps.foldl (partitionStep r o) (loopSpec o.useMount dims read) =
      loopSpec o.useMount dims (read ++ readPartitions r o ps) := by
  induction ps with
  | nil => simp [readPartitions]
  | cons p ps ih =>
    intro read
    rw [List.foldl_cons, partitionStep_loopSpec, ih, readPartitions_cons r o p ps, List.append_assoc]

theorem foldl_partitionStep (r : Readings) (o : Options) (dims : Dims) (ps : List Partition) :
    ps.foldl (partitionStep r o) ⟨dims, 0, 0, []⟩ = loopSpec o.useMount dims (readPartitions r o ps) :=
  partitionLoop_eq r o dims ps []

theorem readPartitions_append (r : Readings) (o : Options) (ps₁ ps₂ : List Partition) :
    readPartitions r o (ps₁ ++ ps₂) = readPartitions r o ps₁ ++ readPartitions r o ps₂ :=
  List.filterMap_append _ _ _

/-! ## Whole cycles -/

theorem ioSamples_rate {d : Disk} {dims : Dims} {deviceName : String} {stats : DiskIo}
    {s : DeviceSample} (hs : s ∈ d.ioSamples dims deviceName stats) :
    s.sample.type = .rate ∧ s.sample.dimensions = dims := by
  simp only [ioSamples, List.map_cons, List.map_nil, List.mem_cons, List.not_mem_nil, or_false] at hs
  rcases hs with rfl | rfl | rfl | rfl | rfl | rfl <;> exact ⟨rfl, rfl⟩

/-- The `io.*` rates are emitted after the partition loop, on the dictionary the loop wrote
`mount_point` into: with `use_mount`, every rate of the cycle, whichever disk it is for, carries
the mount point of the last partition read. -/
theorem check_ioMountPoint (d : Disk) (inst : Option Instance) (setDimensions : Dims)
    (r : Readings) {p : Partition} {u : DiskUsage}
    (hlast : (readPartitions r (d.options inst r.procFilesystems) r.diskPartitions).getLast? =
      some (p, u))
    (hm : (d.options inst r.procFilesystems).useMount = true) :
    ∀ s ∈ d.check inst setDimensions r, s.sample.type = .rate →
      s.sample.dimensions = setDimensions.insert "mount_point" (getMountpoint p) := by
  intro s hs ht
  simp only [check, foldl_partitionStep, loopSpec, List.mem_append] at hs
  rcases hs with (hs | hs) | hs
  · obtain ⟨_, -, rfl⟩ := List.mem_map.mp hs
    cases ht
  · split at hs
    · obtain ⟨_, -, hs⟩ := List.mem_flatMap.mp hs
      rw [(ioSamples_rate hs).2, loopDims, hlast]
      exact if_pos hm
    · cases hs
  · split at hs
    · simp only [rollupSamples, List.mem_cons, List.not_mem_nil, or_false] at hs
      rcases hs with rfl | rfl <;> cases ht
    · cases hs

/-- Two drives, both readable, and one disk of I/O counters. -/
def twoDrives : Readings :=
  ⟨[⟨"C:\\", "C:\\", "NTFS"⟩, ⟨"D:\\", "D:\\", "NTFS"⟩], fun _ => some ⟨100, 40, 40⟩,
    ⟨[("PhysicalDrive0", ⟨1, 2, 3, 4, 5, 6⟩)], by decide⟩, none⟩

/-- The rates of `PhysicalDrive0` carry `mount_point = D:/`, the drive read last. -/
theorem check_ioMountPoint_twoDrives :
    (readPartitions twoDrives ((⟨fun _ => none, id⟩ : Disk).options none twoDrives.procFilesystems)
        twoDrives.diskPartitions).getLast? = some (⟨"D:\\", "D:\\", "NTFS"⟩, ⟨100, 40, 40⟩) ∧
      ((⟨fun _ => none, id⟩ : Disk).options none twoDrives.procFilesystems).useMount = true ∧
      ∀ s ∈ (⟨fun _ => none, id⟩ : Disk).check none Dict.empty twoDrives, s.sample.type = .rate →
        s.sample.dimensions = Dict.empty.insert "mount_point" (getMountpoint ⟨"D:\\", "D:\\", "NTFS"⟩) :=
  have hlast : (readPartitions twoDrives ((⟨fun _ => none, id⟩ : Disk).options none
      twoDrives.procFilesystems) twoDrives.diskPartitions).getLast? =
      some (⟨"D:\\", "D:\\", "NTFS"⟩, ⟨100, 40, 40⟩) := rfl
  ⟨hlast, rfl, check_ioMountPoint ⟨fun _ => none, id⟩ none Dict.empty twoDrives hlast rfl⟩

/-- A partition that is filtered out, or whose usage raises, leaves no trace on a cycle: wherever
it stands among the partitions, the cycle emits exactly what it emits without it. -/
theorem check_skipUnread (d : Disk) (inst : Option Instance) (setDimensions : Dims) (r : Readings)
    (ps₁ ps₂ : List Partition) {p : Partition}
    (hp : readPartitions r (d.options inst r.procFilesystems) [p] = []) :
    d.check inst setDimensions { r with diskPartitions := ps₁ ++ p :: ps₂ } =
      d.check inst setDimensions { r with diskPartitions := ps₁ ++ ps₂ } := by
  have hr : ∀ ps l, readPartitions { r with diskPartitions := ps }
      (d.options inst r.procFilesystems) l = readPartitions r (d.options inst r.procFilesystems) l :=
    fun _ _ => rfl
  simp only [check, foldl_partitionStep, hr, readPartitions_append, readPartitions_cons r _ p ps₂,
    hp, List.nil_append]

/-- Three drives; the usage of `E:` (an empty optical drive) cannot be read. -/
def withCdrom : Readings :=
  ⟨[⟨"C:\\", "C:\\", "NTFS"⟩, ⟨"E:\\", "E:\\", "CDFS"⟩, ⟨"D:\\", "D:\\", "NTFS"⟩],
    fun m => if m = "E:/" then none else some ⟨100, 40, 40⟩,
    ⟨[("PhysicalDrive0", ⟨1, 2, 3, 4, 5, 6⟩)], by decide⟩, none⟩

theorem check_skipUnread_withCdrom :
    readPartitions withCdrom ((⟨fun _ => none, id⟩ : Disk).options none withCdrom.procFilesystems)
        [⟨"E:\\", "E:\\", "CDFS"⟩] = [] ∧
      (⟨fun _ => none, id⟩ : Disk).check none Dict.empty
          { withCdrom with diskPartitions := [⟨"C:\\", "C:\\", "NTFS"⟩] ++
            ⟨"E:\\", "E:\\", "CDFS"⟩ :: [⟨"D:\\", "D:\\", "NTFS"⟩] } =
        (⟨fun _ => none, id⟩ : Disk).check none Dict.empty
          { withCdrom with diskPartitions := [⟨"C:\\", "C:\\", "NTFS"⟩] ++
            [⟨"D:\\", "D:\\", "NTFS"⟩] } :=
  have hp : readPartitions withCdrom ((⟨fun _ => none, id⟩ : Disk).options none
      withCdrom.procFilesystems) [⟨"E:\\", "E:\\", "CDFS"⟩] = [] := rfl
  ⟨hp, check_skipUnread ⟨fun _ => none, id⟩ none Dict.empty withCdrom _ _ hp⟩

end Disk

end MonascaAgent
