import MonascaAgent.Python
import Mathlib.Data.Rat.Defs

/-!
# MonascaAgent.Schema

The data the Kubernetes check reads and writes, as the interfaces of the kubelet and of cAdvisor
give it. A key the code reads with `d[k]` is a field; a key it reads with `d.get(k)` or tests with
`k in d` is an `Option` field. Maps with arbitrary keys (labels, annotations, resource limits,
the numeric fields of a stats section) stay `Dict`s.

JSON numbers, and the Python floats computed from them, are exact rationals: no rounding is
modelled.
-/

namespace MonascaAgent

/-- Dimensions of a sample: tag name to value. -/
abbrev Dims := Dict String

/-- The aggregator call that received a sample: `self.gauge` or `self.rate`. -/
inductive MetricType where
  | gauge
  | rate
  deriving DecidableEq, Repr

/-- One call of `self.gauge` or `self.rate`, with the dimensions as they were at the call. -/
structure Sample where
  type : MetricType
  name : String
  value : Option Rat
  dimensions : Dims
  hostname : Option String
  deriving DecidableEq

/-! ## Kubelet `/pods` -/

structure OwnerReference where
  kind : String
  name : String
  deriving DecidableEq

/-- The `reference` object of the `kubernetes.io/created-by` annotation. -/
structure ObjectReference where
  kind : Option String
  name : Option String
  deriving DecidableEq

/-- The decoded `kubernetes.io/created-by` annotation. -/
structure CreatedBy where
  reference : Option ObjectReference
  deriving DecidableEq

/-- Pod `metadata`; `ns` is the `namespace` key. -/
structure PodMetadata where
  name : String
  ns : String
  labels : Option (Dict String)
  ownerReferences : Option (List OwnerReference)
  annotations : Option (Dict String)
  deriving DecidableEq

structure ContainerStatus where
  name : String
  image : String
  containerID : Option String
  restartCount : Nat
  ready : Bool
  deriving DecidableEq

structure Resources where
  limits : Option (Dict String)
  requests : Option (Dict String)
  deriving DecidableEq

/-- An entry of `spec.containers`. -/
structure Container where
  name : String
  resources : Option Resources
  deriving DecidableEq

structure PodStatus where
  phase : String
  containerStatuses : Option (List ContainerStatus)
  deriving DecidableEq

structure PodSpec where
  containers : Option (List Container)
  deriving DecidableEq

structure Pod where
  metadata : PodMetadata
  status : PodStatus
  spec : PodSpec
  deriving DecidableEq

/-- The `/pods` response. -/
structure PodList where
  items : List Pod
  deriving DecidableEq

/-! ## The ReplicaSet object of the API server -/

structure ObjectMeta where
  annotations : Option (Dict String)

structure ReplicaSet where
  metadata : Option ObjectMeta

/-! ## cAdvisor -/

/-- An entry of the spec document. -/
structure ContainerSpec where
  aliases : List String
  image : String
  labels : Option (Dict String)
  deriving DecidableEq

/-- An entry of `filesystem`: its `device` and its numeric fields. -/
structure FilesystemStats where
  device : String
  stats : Dict Rat
  deriving DecidableEq

/-- An entry of `network.interfaces`: its `name` and its numeric fields. -/
structure InterfaceStats where
  name : String
  stats : Dict Rat
  deriving DecidableEq

structure NetworkStats where
  interfaces : List InterfaceStats
  deriving DecidableEq

structure CpuStats where
  usage : Dict Rat
  deriving DecidableEq

/-- One snapshot of the stats document. -/
structure ContainerStats where
  hasMemory : Bool
  memory : Option (Dict Rat)
  hasFilesystem : Bool
  filesystem : Option (List FilesystemStats)
  hasNetwork : Bool
  network : Option NetworkStats
  hasCpu : Bool
  cpu : Option CpuStats
  deriving DecidableEq

/-! ## The check object -/

/-- What the methods of a `Kubernetes` check read besides their arguments: two attributes of
`self`, and three library functions whose code is not in the repository. -/
structure Kubernetes where
  /-- `self.report_container_metrics`. -/
  reportContainerMetrics : Bool
  /-- `self.kubernetes_connector.get_request`, when a connector is set. -/
  kubernetesConnector : Option (String → Except Err ReplicaSet)
  /-- `json.loads` of a `kubernetes.io/created-by` annotation. -/
  loadsCreatedBy : String → Except Err CreatedBy
  /-- Python `float(s)`. -/
  pyFloat : String → Except Err Rat
  /-- `utils.convert_memory_string_to_bytes`. -/
  convertMemoryStringToBytes : String → Except Err Rat

end MonascaAgent
