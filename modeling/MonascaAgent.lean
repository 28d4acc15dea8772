import MonascaAgent.Python
import MonascaAgent.Schema
import MonascaAgent.Effects
import MonascaAgent.Catalog
import MonascaAgent.Owner
import MonascaAgent.Pods
import MonascaAgent.Correlate
import MonascaAgent.Extract
import MonascaAgent.Containers
import MonascaAgent.Check
import MonascaAgent.Tagging
import MonascaAgent.Gating
import MonascaAgent.Aggregate
import MonascaAgent.WindowsCpu
import MonascaAgent.WindowsDisk
