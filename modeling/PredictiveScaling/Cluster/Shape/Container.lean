import PredictiveScaling.Cluster.Shape.Meta

/-!
# Shapes of containers

What runs in a pod: its environment, its ports, its mounts, the probes that watch it and
the rights that it has.
-/
namespace PredictiveScaling.Kubernetes.Shape

/-! ## Environment -/

/-- A key of a map of settings or of a secret. -/
def keyReference : Shape := object (each text ["key", "name"] ++ [("optional", flag)])

/-- A whole map of settings or a whole secret. -/
def bundleReference : Shape := object [("name", text), ("optional", flag)]

def entrySource : Shape :=
  object (each keyReference ["configMapKeyRef", "secretKeyRef"] ++
    [("fieldRef", fieldReference), ("resourceFieldRef", resourceReference)])

def environmentEntry : Shape := object (each text ["name", "value"] ++ [("valueFrom", entrySource)])

def entryBundle : Shape :=
  object (each bundleReference ["configMapRef", "secretRef"] ++ [("prefix", text)])

/-! ## Actions and probes -/

def execAction : Shape := object [("command", list text)]

def httpAction : Shape :=
  object (each text ["host", "path", "scheme"] ++
    [("httpHeaders", list (texts ["name", "value"])), ("port", intOrText)])

def tcpAction : Shape := object [("host", text), ("port", intOrText)]

def grpcAction : Shape := object [("port", int32), ("service", text)]

def handler : Shape :=
  object [("exec", execAction), ("httpGet", httpAction), ("tcpSocket", tcpAction)]

def lifecycle : Shape := object (each handler ["postStart", "preStop"])

def probe : Shape :=
  object (each int32 ["failureThreshold", "initialDelaySeconds", "periodSeconds",
      "successThreshold", "timeoutSeconds"] ++
    [("exec", execAction), ("grpc", grpcAction), ("httpGet", httpAction),
      ("tcpSocket", tcpAction), ("terminationGracePeriodSeconds", int64)])

/-! ## Rights -/

def seLinuxOptions : Shape := texts ["level", "role", "type", "user"]

def seccompProfile : Shape := texts ["localhostProfile", "type"]

def windowsOptions : Shape :=
  object (each text ["gmsaCredentialSpec", "gmsaCredentialSpecName", "runAsUserName"] ++
    [("hostProcess", flag)])

def securityContext : Shape :=
  object (each flag ["allowPrivilegeEscalation", "privileged", "readOnlyRootFilesystem",
      "runAsNonRoot"] ++
    each int64 ["runAsGroup", "runAsUser"] ++
    [("capabilities", object (each (list text) ["add", "drop"])), ("procMount", text),
      ("seLinuxOptions", seLinuxOptions), ("seccompProfile", seccompProfile),
      ("windowsOptions", windowsOptions)])

/-! ## Containers -/

def port : Shape :=
  object (each int32 ["containerPort", "hostPort"] ++ each text ["hostIP", "name", "protocol"])

def mount : Shape :=
  object (each text ["mountPath", "mountPropagation", "name", "subPath", "subPathExpr"] ++
    [("readOnly", flag)])

def containerFields : List (String × Shape) :=
  each text ["image", "imagePullPolicy", "name", "restartPolicy", "terminationMessagePath",
      "terminationMessagePolicy", "workingDir"] ++
    each (list text) ["args", "command"] ++
    each flag ["stdin", "stdinOnce", "tty"] ++
    each probe ["livenessProbe", "readinessProbe", "startupProbe"] ++
    [("env", list environmentEntry), ("envFrom", list entryBundle), ("lifecycle", lifecycle),
      ("ports", list port), ("resizePolicy", list (texts ["resourceName", "restartPolicy"])),
      ("resources", resources), ("securityContext", securityContext),
      ("volumeDevices", list (texts ["devicePath", "name"])), ("volumeMounts", list mount)]

def container : Shape := object containerFields

/-- A container that is put beside others for a while. -/
def ephemeralContainer : Shape := object (("targetContainerName", text) :: containerFields)

end PredictiveScaling.Kubernetes.Shape
