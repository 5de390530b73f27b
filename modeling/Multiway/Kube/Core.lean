import Multiway.Lib.Json

/-!
# Kubernetes objects

The built-in resources the control plane reads and writes, with the fields it
uses. A resource has `ObjectMeta`; the accessors of `kube::ResourceExt` are
stated once for all of them. Timestamps are opaque instants, and the texts a
ConfigMap holds are JSON texts (`Lib.Json`).
-/

namespace Multiway.Kube

open Multiway.Lib (Json)

abbrev Time := ℤ

/-- `BTreeMap<String, String>` and its like. -/
abbrev BTreeMap (V : Type) := Std.ExtTreeMap String V

structure OwnerReference where
  apiVersion : String
  kind : String
  name : String
  uid : String
  controller : Option Bool := none
  blockOwnerDeletion : Option Bool := none
deriving DecidableEq

structure ObjectMeta where
  name : Option String := none
  generateName : Option String := none
  «namespace» : Option String := none
  uid : Option String := none
  generation : Option ℤ := none
  resourceVersion : Option String := none
  creationTimestamp : Option Time := none
  labels : Option (BTreeMap String) := none
  ownerReferences : Option (List OwnerReference) := none

structure Condition where
  type : String
  status : String
  observedGeneration : Option ℤ := none
  lastTransitionTime : Time := 0
  reason : String := ""
  message : String := ""
deriving DecidableEq

/-- The status of the first condition of a type. -/
def conditionStatus (conditions : List Condition) (type : String) : Option String :=
  (conditions.find? fun c => c.type == type).map Condition.status

/-! ## Resources -/

class Resource (α : Type) where
  metadata : α → ObjectMeta

section
variable {α : Type} [Resource α]

/-- `ResourceExt::name_any`: the name, else the name it is generated from. -/
def nameAny (a : α) : String :=
  ((Resource.metadata a).name.or (Resource.metadata a).generateName).getD ""

/-- `namespace().unwrap_or_default()`. -/
def namespaceOf (a : α) : String := (Resource.metadata a).namespace.getD ""

/-- `ResourceExt::resource_version`. -/
def resourceVersion (a : α) : Option String := (Resource.metadata a).resourceVersion

/-- The key a namespaced resource is filed under. -/
def objectKey (a : α) : String × String := (namespaceOf a, nameAny a)

end

structure ConfigMap where
  metadata : ObjectMeta := {}
  data : Option (BTreeMap Json) := none

structure ServicePort where
  name : Option String := none
  port : ℤ
  targetPort : Option ℤ := none
  protocol : Option String := none
deriving DecidableEq

structure ServiceSpec where
  selector : Option (BTreeMap String) := none
  ports : Option (List ServicePort) := none
  type : Option String := none
  clusterIp : Option String := none

structure LoadBalancerIngress where
  ip : Option String := none
  hostname : Option String := none
deriving DecidableEq

structure LoadBalancerStatus where
  ingress : Option (List LoadBalancerIngress) := none
deriving DecidableEq

structure ServiceStatus where
  loadBalancer : Option LoadBalancerStatus := none
deriving DecidableEq

structure Service where
  metadata : ObjectMeta := {}
  spec : Option ServiceSpec := none
  status : Option ServiceStatus := none

structure Secret where
  metadata : ObjectMeta := {}
  data : Option (BTreeMap ByteArray) := none

structure NodeAddress where
  type : String
  address : String
deriving DecidableEq

structure NodeCondition where
  type : String
  status : String
deriving DecidableEq

structure NodeStatus where
  conditions : Option (List NodeCondition) := none
  addresses : Option (List NodeAddress) := none
deriving DecidableEq

structure Node where
  metadata : ObjectMeta := {}
  status : Option NodeStatus := none

structure ContainerPort where
  name : Option String := none
  containerPort : ℤ
  hostPort : Option ℤ := none
  protocol : Option String := none
deriving DecidableEq

structure EnvVar where
  name : String
  value : Option String := none
deriving DecidableEq

structure ResourceRequirements where
  requests : Option (BTreeMap String) := none
  limits : Option (BTreeMap String) := none

structure Container where
  name : String
  image : Option String := none
  imagePullPolicy : Option String := none
  ports : Option (List ContainerPort) := none
  env : Option (List EnvVar) := none
  resources : Option ResourceRequirements := none

structure PodSpec where
  serviceAccountName : Option String := none
  containers : List Container := []

structure PodTemplateSpec where
  metadata : Option ObjectMeta := none
  spec : Option PodSpec := none

structure LabelSelector where
  matchLabels : Option (BTreeMap String) := none

structure DeploymentSpec where
  replicas : Option ℤ := none
  selector : LabelSelector := {}
  template : PodTemplateSpec := {}

structure Deployment where
  metadata : ObjectMeta := {}
  spec : Option DeploymentSpec := none

structure ServiceAccount where
  metadata : ObjectMeta := {}

structure PolicyRule where
  apiGroups : Option (List String) := none
  resources : Option (List String) := none
  verbs : List String
  resourceNames : Option (List String) := none
deriving DecidableEq

structure Role where
  metadata : ObjectMeta := {}
  rules : Option (List PolicyRule) := none

structure RoleRef where
  apiGroup : String
  kind : String
  name : String
deriving DecidableEq

structure Subject where
  kind : String
  name : String
  «namespace» : Option String := none
deriving DecidableEq

structure RoleBinding where
  metadata : ObjectMeta := {}
  roleRef : RoleRef
  subjects : Option (List Subject) := none

instance : Resource ConfigMap := ⟨ConfigMap.metadata⟩
instance : Resource Service := ⟨Service.metadata⟩
instance : Resource Secret := ⟨Secret.metadata⟩
instance : Resource Node := ⟨Node.metadata⟩
instance : Resource Deployment := ⟨Deployment.metadata⟩
instance : Resource ServiceAccount := ⟨ServiceAccount.metadata⟩
instance : Resource Role := ⟨Role.metadata⟩
instance : Resource RoleBinding := ⟨RoleBinding.metadata⟩

end Multiway.Kube
