import TopologyHooks.Feature.Basic

/-!
# Region and machine types on AWS
-/

set_option autoImplicit false

namespace TopologyHooks

namespace Feature

/-- Sets the region of a cluster. -/
def setRegion (region : String) (spec : Aws.ClusterSpec) : Aws.ClusterSpec :=
  { spec with region := some region }

/-- Sets the type of a machine; errors are reported under a name. -/
def setInstanceType (name type : String) (spec : Aws.MachineSpec) :
    Except Error Aws.MachineSpec :=
  if type == "" then .error (.mutation name (.emptySetting "instanceType"))
  else .ok { spec with instanceType := type }

/-- The region and the machine types of clusters on AWS. -/
def awsMachines : List Mutator :=
  let controlPlane := "aws-instance-type-control-plane"
  let workers := "aws-instance-type-workers"
  [mutator "aws-region" (clusterConfig ["aws", "region"]) .awsCluster .infrastructureCluster .text
      fun region spec => .ok (setRegion region spec),
    mutator controlPlane (clusterConfig ["controlPlane", "aws", "instanceType"]) .awsMachine
      .controlPlane .text (setInstanceType controlPlane),
    mutator workers (workerConfig ["aws", "instanceType"]) .awsMachine .allWorkers .text
      (setInstanceType workers)]

end Feature

end TopologyHooks
