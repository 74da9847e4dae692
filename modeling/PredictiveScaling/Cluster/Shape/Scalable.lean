import PredictiveScaling.Cluster.Shape.Pod

/-!
# Shapes of objects with replicas

Deployments and StatefulSets of the group `apps/v1`, as version 1.28 of the API has them.
-/
namespace PredictiveScaling.Kubernetes.Shape

/-- An object of the group `apps/v1`. -/
def appsObject (kind : String) (spec status : Shape) : Shape :=
  object [("apiVersion", word "apps/v1"), ("kind", word kind), ("metadata", metadata),
    ("spec", spec), ("status", status)]

/-- What specifications of both kinds hold. -/
def replicatedFields : List (String × Shape) :=
  each int32 ["minReadySeconds", "replicas", "revisionHistoryLimit"] ++
    [("selector", labelSelector), ("template", podTemplate)]

def deploymentSpec : Shape :=
  object (replicatedFields ++
    [("paused", flag), ("progressDeadlineSeconds", int32),
      ("strategy", object [("type", text),
        ("rollingUpdate", object (each intOrText ["maxSurge", "maxUnavailable"]))])])

def deploymentStatus : Shape :=
  object (each int32 ["availableReplicas", "collisionCount", "readyReplicas", "replicas",
      "unavailableReplicas", "updatedReplicas"] ++
    [("conditions", list (condition ["lastTransitionTime", "lastUpdateTime"])),
      ("observedGeneration", int64)])

def deployment : Shape := appsObject "Deployment" deploymentSpec deploymentStatus

def statefulSetSpec : Shape :=
  object (replicatedFields ++ each text ["podManagementPolicy", "serviceName"] ++
    [("ordinals", object [("start", int32)]),
      ("persistentVolumeClaimRetentionPolicy", texts ["whenDeleted", "whenScaled"]),
      ("updateStrategy", object [("type", text),
        ("rollingUpdate", object [("maxUnavailable", intOrText), ("partition", int32)])]),
      ("volumeClaimTemplates", list claim)])

def statefulSetStatus : Shape :=
  object (each int32 ["availableReplicas", "collisionCount", "currentReplicas",
      "readyReplicas", "replicas", "updatedReplicas"] ++
    each text ["currentRevision", "updateRevision"] ++
    [("conditions", list (condition ["lastTransitionTime"])), ("observedGeneration", int64)])

def statefulSet : Shape := appsObject "StatefulSet" statefulSetSpec statefulSetStatus

end PredictiveScaling.Kubernetes.Shape
