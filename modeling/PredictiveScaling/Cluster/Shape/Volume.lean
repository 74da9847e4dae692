import PredictiveScaling.Cluster.Shape.Meta

/-!
# Shapes of volumes

Claims to storage, and the volumes of a pod with all the sources that they may have.
-/
namespace PredictiveScaling.Kubernetes.Shape

/-! ## Claims -/

def claimSpec : Shape :=
  object (each text ["storageClassName", "volumeMode", "volumeName"] ++
    [("accessModes", list text), ("dataSource", texts ["apiGroup", "kind", "name"]),
      ("dataSourceRef", texts ["apiGroup", "kind", "name", "namespace"]),
      ("resources", resources), ("selector", labelSelector)])

def claimStatus : Shape :=
  object (each (map quantity) ["allocatedResources", "capacity"] ++
    [("accessModes", list text), ("allocatedResourceStatuses", map text), ("phase", text),
      ("conditions", list (condition ["lastProbeTime", "lastTransitionTime"]))])

/-- A claim to storage, an object of its own. -/
def claim : Shape :=
  object [("apiVersion", word "v1"), ("kind", word "PersistentVolumeClaim"),
    ("metadata", metadata), ("spec", claimSpec), ("status", claimStatus)]

/-! ## Files -/

/-- A file made of a key. -/
def keyFile : Shape := object (each text ["key", "path"] ++ [("mode", int32)])

/-- A file made of something the surroundings tell. -/
def downwardFile : Shape :=
  object [("fieldRef", fieldReference), ("mode", int32), ("path", text),
    ("resourceFieldRef", resourceReference)]

def projection : Shape :=
  object (each (object [("items", list keyFile), ("name", text), ("optional", flag)])
      ["configMap", "secret"] ++
    [("downwardAPI", object [("items", list downwardFile)]),
      ("serviceAccountToken",
        object (each text ["audience", "path"] ++ [("expirationSeconds", int64)]))])

/-! ## Sources -/

/-- A source whose fields are texts and whether it is only read. -/
def readable (names : List String) : List (String × Shape) :=
  ("readOnly", flag) :: each text names

/-- A source that needs a secret. -/
def guarded (names : List String) : List (String × Shape) :=
  ("secretRef", localReference) :: readable names

/-- Sources in the cluster. -/
def innerSources : List (String × Shape) :=
  [("configMap", object [("defaultMode", int32), ("items", list keyFile), ("name", text),
      ("optional", flag)]),
    ("downwardAPI", object [("defaultMode", int32), ("items", list downwardFile)]),
    ("emptyDir", object [("medium", text), ("sizeLimit", quantity)]),
    ("ephemeral", object [("volumeClaimTemplate",
      object [("metadata", metadata), ("spec", claimSpec)])]),
    ("hostPath", texts ["path", "type"]),
    ("persistentVolumeClaim", object (readable ["claimName"])),
    ("projected", object [("defaultMode", int32), ("sources", list projection)]),
    ("secret", object [("defaultMode", int32), ("items", list keyFile), ("optional", flag),
      ("secretName", text)])]

/-- Sources on disks and in stores of vendors. -/
def outerSources : List (String × Shape) :=
  [("awsElasticBlockStore", object (("partition", int32) :: readable ["fsType", "volumeID"])),
    ("azureDisk",
      object (readable ["cachingMode", "diskName", "diskURI", "fsType", "kind"])),
    ("azureFile", object (readable ["secretName", "shareName"])),
    ("cephfs", object (("monitors", list text) :: guarded ["path", "secretFile", "user"])),
    ("cinder", object (guarded ["fsType", "volumeID"])),
    ("csi", object (readable ["driver", "fsType"] ++
      [("nodePublishSecretRef", localReference), ("volumeAttributes", map text)])),
    ("fc", object (readable ["fsType"] ++ each (list text) ["targetWWNs", "wwids"] ++
      [("lun", int32)])),
    ("flexVolume", object (("options", map text) :: guarded ["driver", "fsType"])),
    ("flocker", texts ["datasetName", "datasetUUID"]),
    ("gcePersistentDisk", object (("partition", int32) :: readable ["fsType", "pdName"])),
    ("gitRepo", texts ["directory", "repository", "revision"]),
    ("glusterfs", object (readable ["endpoints", "path"])),
    ("iscsi", object (guarded ["fsType", "initiatorName", "iqn", "iscsiInterface",
        "targetPortal"] ++ each flag ["chapAuthDiscovery", "chapAuthSession"] ++
      [("lun", int32), ("portals", list text)])),
    ("nfs", object (readable ["path", "server"])),
    ("photonPersistentDisk", texts ["fsType", "pdID"]),
    ("portworxVolume", object (readable ["fsType", "volumeID"])),
    ("quobyte", object (readable ["group", "registry", "tenant", "user", "volume"])),
    ("rbd", object (("monitors", list text) ::
      guarded ["fsType", "image", "keyring", "pool", "user"])),
    ("scaleIO", object (("sslEnabled", flag) :: guarded ["fsType", "gateway",
      "protectionDomain", "storageMode", "storagePool", "system", "volumeName"])),
    ("storageos", object (guarded ["fsType", "volumeName", "volumeNamespace"])),
    ("vsphereVolume", texts ["fsType", "storagePolicyID", "storagePolicyName", "volumePath"])]

def volume : Shape := object (("name", text) :: (innerSources ++ outerSources))

end PredictiveScaling.Kubernetes.Shape
