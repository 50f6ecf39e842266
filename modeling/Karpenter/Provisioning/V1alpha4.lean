import Karpenter.Core.V1

/-! The `v1alpha4` provisioning API as far as the code here reads it: the group's label key,
the well-known labels of `register.go`, and provisioner constraints. -/

namespace Karpenter.V1alpha4

open V1

def group : String := "karpenter.sh"

def provisionerNameLabelKey : String := group ++ "/provisioner-name"

/-- `WellKnownLabels`: the labels karpenter supports and their allowable values. The source
declares every list empty; the variable is package-level, so a caller may hold other values. -/
def wellKnownLabels : AList fun _ : String => List String :=
  List.toAList [⟨labelArchStable, []⟩, ⟨labelOSStable, []⟩, ⟨labelTopologyZone, []⟩,
    ⟨labelInstanceTypeStable, []⟩]

/-- Provisioner constraints. The `Constraints` type is not part of this source; its fields are
those the spec lists. The code here reads only the labels and taints; every field feeds the
grouping hash. -/
structure Constraints where
  labels : StringMap
  taints : List Taint
  zones : List String
  instanceTypes : List String
  architectures : List String
  operatingSystems : List String
  deriving DecidableEq

end Karpenter.V1alpha4
