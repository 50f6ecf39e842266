import Mathlib.Data.List.Basic

/-! The fake cloud provider's instance types: options with defaults for every field a test
leaves empty, and the accessors the scheduler reads. -/

namespace Karpenter.Fake

/-- `resource.Quantity`, by its value in thousandths of the unit (`MilliValue`). -/
structure Quantity where
  milliValue : Int
  deriving DecidableEq, Repr

def Quantity.isZero (quantity : Quantity) : Bool := quantity.milliValue == 0

/-- A whole number of units: `resource.MustParse` of a plain or binary-suffixed integer. -/
def Quantity.ofUnits (units : Nat) : Quantity := ⟨units * 1000⟩

structure InstanceTypeOptions where
  name : String
  zones : List String
  architecture : String
  operatingSystems : List String
  cpu : Quantity
  memory : Quantity
  pods : Quantity
  nvidiaGPUs : Quantity
  amdGPUs : Quantity
  awsNeurons : Quantity
  deriving DecidableEq, Repr

structure InstanceType where
  options : InstanceTypeOptions
  deriving DecidableEq, Repr

/-- One defaulting step of `NewInstanceType`: an option the check finds empty gets the
default. The checks are `len(...) == 0` for slices and strings and `IsZero` for quantities. -/
def withDefault {α : Type} (isEmpty : α → Bool) (default value : α) : α :=
  if isEmpty value then default else value

/-- `NewInstanceType`: every empty option gets its default, the rest are copied. -/
def newInstanceType (options : InstanceTypeOptions) : InstanceType :=
  ⟨{ name := options.name
     zones := withDefault List.isEmpty ["test-zone-1", "test-zone-2", "test-zone-3"]
       options.zones
     architecture := withDefault String.isEmpty "amd64" options.architecture
     operatingSystems := withDefault List.isEmpty ["linux"] options.operatingSystems
     -- resource.MustParse("4")
     cpu := withDefault Quantity.isZero (.ofUnits 4) options.cpu
     -- resource.MustParse("4Gi"), four binary gigabytes
     memory := withDefault Quantity.isZero (.ofUnits 4294967296) options.memory
     -- resource.MustParse("5")
     pods := withDefault Quantity.isZero (.ofUnits 5) options.pods
     nvidiaGPUs := options.nvidiaGPUs
     amdGPUs := options.amdGPUs
     awsNeurons := options.awsNeurons }⟩

def InstanceType.name (i : InstanceType) : String := i.options.name
def InstanceType.zones (i : InstanceType) : List String := i.options.zones
def InstanceType.architecture (i : InstanceType) : String := i.options.architecture
def InstanceType.operatingSystems (i : InstanceType) : List String := i.options.operatingSystems
def InstanceType.cpu (i : InstanceType) : Quantity := i.options.cpu
def InstanceType.memory (i : InstanceType) : Quantity := i.options.memory
def InstanceType.pods (i : InstanceType) : Quantity := i.options.pods
def InstanceType.nvidiaGPUs (i : InstanceType) : Quantity := i.options.nvidiaGPUs
def InstanceType.amdGPUs (i : InstanceType) : Quantity := i.options.amdGPUs
def InstanceType.awsNeurons (i : InstanceType) : Quantity := i.options.awsNeurons

/-- `Overhead`: the fake reserves nothing, as an empty resource list. -/
def InstanceType.overhead (_ : InstanceType) : List (String × Quantity) := []

section WithDefault

variable {α : Type} {isEmpty : α → Bool} {default value : α}

/-- A default the check accepts makes every result pass the check. -/
theorem withDefault_not_isEmpty (hDefault : isEmpty default = false) :
    isEmpty (withDefault isEmpty default value) = false := by
  unfold withDefault
  split <;> simp_all

theorem withDefault_of_not_isEmpty (hValue : isEmpty value = false) :
    withDefault isEmpty default value = value := by
  simp [withDefault, hValue]

theorem withDefault_withDefault (hDefault : isEmpty default = false) :
    withDefault isEmpty default (withDefault isEmpty default value) =
      withDefault isEmpty default value :=
  withDefault_of_not_isEmpty (withDefault_not_isEmpty hDefault)

end WithDefault

/-- Every option `NewInstanceType` checks is set in what it builds, an empty one to a default
that passes the check; an option that was set is kept, and the name and accelerator counts are
copied. -/
structure Completes (options : InstanceTypeOptions) (instanceType : InstanceType) : Prop where
  zones_set : instanceType.zones.isEmpty = false
  architecture_set : instanceType.architecture.isEmpty = false
  operatingSystems_set : instanceType.operatingSystems.isEmpty = false
  cpu_set : instanceType.cpu.isZero = false
  memory_set : instanceType.memory.isZero = false
  pods_set : instanceType.pods.isZero = false
  zones_kept : options.zones.isEmpty = false → instanceType.zones = options.zones
  architecture_kept : options.architecture.isEmpty = false →
    instanceType.architecture = options.architecture
  operatingSystems_kept : options.operatingSystems.isEmpty = false →
    instanceType.operatingSystems = options.operatingSystems
  cpu_kept : options.cpu.isZero = false → instanceType.cpu = options.cpu
  memory_kept : options.memory.isZero = false → instanceType.memory = options.memory
  pods_kept : options.pods.isZero = false → instanceType.pods = options.pods
  name_eq : instanceType.name = options.name
  nvidiaGPUs_eq : instanceType.nvidiaGPUs = options.nvidiaGPUs
  amdGPUs_eq : instanceType.amdGPUs = options.amdGPUs
  awsNeurons_eq : instanceType.awsNeurons = options.awsNeurons

theorem newInstanceType_completes (options : InstanceTypeOptions) :
    Completes options (newInstanceType options) :=
  ⟨withDefault_not_isEmpty rfl, withDefault_not_isEmpty rfl, withDefault_not_isEmpty rfl,
    withDefault_not_isEmpty rfl, withDefault_not_isEmpty rfl, withDefault_not_isEmpty rfl,
    withDefault_of_not_isEmpty, withDefault_of_not_isEmpty, withDefault_of_not_isEmpty,
    withDefault_of_not_isEmpty, withDefault_of_not_isEmpty, withDefault_of_not_isEmpty,
    rfl, rfl, rfl, rfl⟩

/-- Building an instance type from the options of one built before changes nothing: every
default passes its own check. -/
theorem newInstanceType_idempotent (options : InstanceTypeOptions) :
    newInstanceType (newInstanceType options).options = newInstanceType options := by
  simp only [newInstanceType, InstanceType.mk.injEq, InstanceTypeOptions.mk.injEq, true_and,
    and_true]
  exact ⟨withDefault_withDefault rfl, withDefault_withDefault rfl, withDefault_withDefault rfl,
    withDefault_withDefault rfl, withDefault_withDefault rfl, withDefault_withDefault rfl⟩

end Karpenter.Fake
