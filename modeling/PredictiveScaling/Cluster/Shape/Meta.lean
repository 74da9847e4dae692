import PredictiveScaling.Cluster.Shape

/-!
# Shapes that all API objects share

Metadata, selectors of labels and references to other objects.
-/
namespace PredictiveScaling.Kubernetes.Shape

/-- Amounts with units are texts whose form is not looked at. -/
def quantity : Shape := text

def managedFields : Shape :=
  object (each text ["apiVersion", "fieldsType", "manager", "operation", "subresource"] ++
    [("fieldsV1", any), ("time", time)])

def ownerReference : Shape :=
  object (each text ["apiVersion", "kind", "name", "uid"] ++
    each flag ["blockOwnerDeletion", "controller"])

def metadata : Shape :=
  object (each text ["generateName", "name", "namespace", "resourceVersion", "selfLink", "uid"] ++
    each (map text) ["annotations", "labels"] ++
    each time ["creationTimestamp", "deletionTimestamp"] ++
    each int64 ["deletionGracePeriodSeconds", "generation"] ++
    [("finalizers", list text), ("managedFields", list managedFields),
      ("ownerReferences", list ownerReference)])

/-- A condition on a label or on a node. -/
def requirement : Shape :=
  object (each text ["key", "operator"] ++ [("values", list text)])

def labelSelector : Shape :=
  object [("matchExpressions", list requirement), ("matchLabels", map text)]

/-- A reference by name alone. -/
def localReference : Shape := texts ["name"]

/-- A condition of an object, with the points in time at which it was looked at. -/
def condition (times : List String) : Shape :=
  object (each time times ++ each text ["message", "reason", "status", "type"])

/-- A field of an object of the surroundings. -/
def fieldReference : Shape := texts ["apiVersion", "fieldPath"]

/-- A resource of a container. -/
def resourceReference : Shape :=
  object (each text ["containerName", "resource"] ++ [("divisor", quantity)])

/-- What a container or a claim asks for and is limited to. -/
def resources : Shape :=
  object (each (map quantity) ["limits", "requests"] ++ [("claims", list localReference)])

end PredictiveScaling.Kubernetes.Shape
