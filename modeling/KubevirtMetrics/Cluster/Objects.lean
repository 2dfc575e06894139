import KubevirtMetrics.Data.Table

namespace KubevirtMetrics.Cluster

open Data

/-! The parts of the Kubernetes objects that the exporter reads. -/

inductive PodPhase
  | pending
  | running
  | succeeded
  | failed
  | unknown
  deriving DecidableEq

structure Pod where
  name : String
  namespace_ : String
  uid : String
  phase : PodPhase
  labels : Table String String

structure PersistentVolumeClaim where
  name : String
  namespace_ : String
  volumeName : String

end KubevirtMetrics.Cluster
