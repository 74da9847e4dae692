import PredictiveScaling.Cluster.Shape.Container
import PredictiveScaling.Cluster.Shape.Volume

/-!
# Shapes of pods

Where a pod runs, with which rights, and what it is made of.
-/
namespace PredictiveScaling.Kubernetes.Shape

/-! ## Placement -/

def nodeTerm : Shape := object (each (list requirement) ["matchExpressions", "matchFields"])

def nodeAffinity : Shape :=
  object [("preferredDuringSchedulingIgnoredDuringExecution",
      list (object [("preference", nodeTerm), ("weight", int32)])),
    ("requiredDuringSchedulingIgnoredDuringExecution",
      object [("nodeSelectorTerms", list nodeTerm)])]

def podTerm : Shape :=
  object (each labelSelector ["labelSelector", "namespaceSelector"] ++
    [("namespaces", list text), ("topologyKey", text)])

def podAffinity : Shape :=
  object [("preferredDuringSchedulingIgnoredDuringExecution",
      list (object [("podAffinityTerm", podTerm), ("weight", int32)])),
    ("requiredDuringSchedulingIgnoredDuringExecution", list podTerm)]

def affinity : Shape :=
  object (("nodeAffinity", nodeAffinity) :: each podAffinity ["podAffinity", "podAntiAffinity"])

def toleration : Shape :=
  object (each text ["effect", "key", "operator", "value"] ++ [("tolerationSeconds", int64)])

def spreadConstraint : Shape :=
  object (each text ["nodeAffinityPolicy", "nodeTaintsPolicy", "topologyKey",
      "whenUnsatisfiable"] ++
    each int32 ["maxSkew", "minDomains"] ++
    [("labelSelector", labelSelector), ("matchLabelKeys", list text)])

/-! ## Surroundings -/

def nameResolution : Shape :=
  object (each (list text) ["nameservers", "searches"] ++
    [("options", list (texts ["name", "value"]))])

def podSecurityContext : Shape :=
  object (each int64 ["fsGroup", "runAsGroup", "runAsUser"] ++
    [("fsGroupChangePolicy", text), ("runAsNonRoot", flag), ("seLinuxOptions", seLinuxOptions),
      ("seccompProfile", seccompProfile), ("supplementalGroups", list int64),
      ("sysctls", list (texts ["name", "value"])), ("windowsOptions", windowsOptions)])

def podResourceClaim : Shape :=
  object [("name", text), ("source", texts ["resourceClaimName", "resourceClaimTemplateName"])]

/-! ## Pods -/

def podSpec : Shape :=
  object (each text ["dnsPolicy", "hostname", "nodeName", "preemptionPolicy",
      "priorityClassName", "restartPolicy", "runtimeClassName", "schedulerName",
      "serviceAccount", "serviceAccountName", "subdomain"] ++
    each flag ["automountServiceAccountToken", "enableServiceLinks", "hostIPC", "hostNetwork",
      "hostPID", "hostUsers", "setHostnameAsFQDN", "shareProcessNamespace"] ++
    each int64 ["activeDeadlineSeconds", "terminationGracePeriodSeconds"] ++
    each (list container) ["containers", "initContainers"] ++
    [("affinity", affinity), ("dnsConfig", nameResolution),
      ("ephemeralContainers", list ephemeralContainer),
      ("hostAliases", list (object [("hostnames", list text), ("ip", text)])),
      ("imagePullSecrets", list localReference), ("nodeSelector", map text),
      ("os", texts ["name"]), ("overhead", map quantity), ("priority", int32),
      ("readinessGates", list (texts ["conditionType"])),
      ("resourceClaims", list podResourceClaim),
      ("schedulingGates", list (texts ["name"])), ("securityContext", podSecurityContext),
      ("tolerations", list toleration), ("topologySpreadConstraints", list spreadConstraint),
      ("volumes", list volume)])

def podTemplate : Shape := object [("metadata", metadata), ("spec", podSpec)]

end PredictiveScaling.Kubernetes.Shape
