import IgaScheduler.RelationalDatabase
import IgaScheduler.Values

namespace IgaScheduler

/-!
# The `job_instances` table
-/

/-- The `state` column of an instance. -/
inductive InstanceState where
  | active
  | paused
  | deleted
  deriving DecidableEq, Repr

/-- The columns of `job_instances` beside `instance_id`. -/
structure JobInstance where
  tenantId : Option String
  definitionId : String
  definitionVersion : Int
  definitionParameterSchema : List JobParameter
  enabled : Bool
  state : InstanceState
  schedule : Schedule
  nextFireAt : Option Timestamp
  lastFireAt : Option Timestamp
  parameters : Parameters
  createdAt : Timestamp
  updatedAt : Timestamp
  deriving DecidableEq, Repr

/-- An instance as the services read and write it. -/
structure InstanceDocument extends JobInstance where
  instanceId : String
  deriving DecidableEq, Repr

/-- The `job_instances` table. -/
abbrev JobInstances := Relational.Table String JobInstance

end IgaScheduler
