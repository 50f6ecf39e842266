import Karpenter.Core.V1
import Karpenter.Core.FieldError
import Karpenter.Provisioning.V1alpha4
import Karpenter.Provisioning.NodeAffinity
import Karpenter.Provisioning.Scheduler
import Karpenter.Provisioning.Grouping
import Karpenter.Provisioning.Solve
import Karpenter.Provisioning.Regroup
import Karpenter.CloudProvider.Aws.Validation
import Karpenter.CloudProvider.Fake.InstanceType
import Karpenter.Metrics.NodeCounter
import Karpenter.Metrics.Registry
