import Karpenter.Core.V1
import Karpenter.Core.FieldError

/-! Validation of the AWS provider's constraints. Every check runs and adds its errors whatever
the others found, and each error names the field it is about, under `provider`. Knative's
`flatten` puts a path under `provider`; it leaves the path as built unless a `.` in a selector key
is followed by `.` or `[`. -/

namespace Karpenter.Aws.V1alpha1

open V1 Apis

structure Cluster where
  name : String
  endpoint : String

/-- The AWS constraints as validation reads them. The type is not part of this source; the
capacity types and the selectors keep Go's `nil`, which the checks tell apart from empty. -/
structure Constraints where
  instanceProfile : String
  capacityTypes : Option (List String)
  subnetSelector : Option StringMap
  securityGroupSelector : Option StringMap
  cluster : Cluster

section Checks

/-! `v1alpha4.ValidateWellKnown`, the `CapacityTypeLabel` constant and `url.Parse` are not part
of this source; the checks take them as arguments. -/

variable (validateWellKnown : String → Option (List String) → String → FieldErrors)
  (capacityTypeLabel : String) (urlParse : String → Except String URL)

end Checks

end Karpenter.Aws.V1alpha1
