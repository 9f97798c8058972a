import PodTelemetry.Kubernetes.EnvVar
import PodTelemetry.Kubernetes.Metadata

namespace PodTelemetry.Kubernetes

open PodTelemetry.Json (Fields Shape)

/-! ## Where volumes come from -/

/-! ### Files made from data of the cluster -/

def KeyToPath.shape : Shape :=
  .record "KeyToPath" [("key", .text), ("mode", .bit32), ("path", .text)]

def ConfigMapVolumeSource.shape : Shape :=
  .record "ConfigMapVolumeSource"
    [ ("defaultMode", .bit32), ("items", .listOf KeyToPath.shape),
      ("name", .text), ("optional", .flag) ]

def SecretVolumeSource.shape : Shape :=
  .record "SecretVolumeSource"
    [ ("defaultMode", .bit32), ("items", .listOf KeyToPath.shape),
      ("optional", .flag), ("secretName", .text) ]

def DownwardAPIVolumeFile.shape : Shape :=
  .record "DownwardAPIVolumeFile"
    [ ("fieldRef", .ofDecoder ObjectFieldSelector.ofJson), ("mode", .bit32),
      ("path", .text),
      ("resourceFieldRef", .ofDecoder ResourceFieldSelector.ofJson) ]

def DownwardAPIVolumeSource.shape : Shape :=
  .record "DownwardAPIVolumeSource"
    [ ("defaultMode", .bit32),
      ("items", .listOf DownwardAPIVolumeFile.shape) ]

/-! ### Several sources in one directory -/

def ClusterTrustBundleProjection.shape : Shape :=
  .record "ClusterTrustBundleProjection"
    [ ("labelSelector", LabelSelector.shape), ("name", .text),
      ("optional", .flag), ("path", .text), ("signerName", .text) ]

/-- Keys of a config map or of a secret. -/
def KeyProjection.shape (typeName : String) : Shape :=
  .record typeName
    [ ("items", .listOf KeyToPath.shape), ("name", .text),
      ("optional", .flag) ]

def DownwardAPIProjection.shape : Shape :=
  .record "DownwardAPIProjection"
    [("items", .listOf DownwardAPIVolumeFile.shape)]

def ServiceAccountTokenProjection.shape : Shape :=
  .record "ServiceAccountTokenProjection"
    [ ("audience", .text), ("expirationSeconds", .bit64), ("path", .text) ]

def VolumeProjection.shape : Shape :=
  .record "VolumeProjection"
    [ ("clusterTrustBundle", ClusterTrustBundleProjection.shape),
      ("configMap", KeyProjection.shape "ConfigMapProjection"),
      ("downwardAPI", DownwardAPIProjection.shape),
      ("secret", KeyProjection.shape "SecretProjection"),
      ("serviceAccountToken", ServiceAccountTokenProjection.shape) ]

def ProjectedVolumeSource.shape : Shape :=
  .record "ProjectedVolumeSource"
    [ ("defaultMode", .bit32),
      ("sources", .listOf VolumeProjection.shape) ]

/-! ### Claims -/

def TypedLocalObjectReference.shape : Shape :=
  .record "TypedLocalObjectReference"
    [("apiGroup", .text), ("kind", .text), ("name", .text)]

def TypedObjectReference.shape : Shape :=
  .record "TypedObjectReference"
    [ ("apiGroup", .text), ("kind", .text), ("name", .text),
      ("namespace", .text) ]

def VolumeResourceRequirements.shape : Shape :=
  .record "VolumeResourceRequirements"
    [("limits", quantities), ("requests", quantities)]

def PersistentVolumeClaimSpec.shape : Shape :=
  .record "PersistentVolumeClaimSpec"
    [ ("accessModes", .texts),
      ("dataSource", TypedLocalObjectReference.shape),
      ("dataSourceRef", TypedObjectReference.shape),
      ("resources", VolumeResourceRequirements.shape),
      ("selector", LabelSelector.shape), ("storageClassName", .text),
      ("volumeAttributesClassName", .text), ("volumeMode", .text),
      ("volumeName", .text) ]

def PersistentVolumeClaimTemplate.shape : Shape :=
  .record "PersistentVolumeClaimTemplate"
    [ ("metadata", .ofDecoder ObjectMeta.ofJson),
      ("spec", PersistentVolumeClaimSpec.shape) ]

def EphemeralVolumeSource.shape : Shape :=
  .record "EphemeralVolumeSource"
    [("volumeClaimTemplate", PersistentVolumeClaimTemplate.shape)]

def PersistentVolumeClaimVolumeSource.shape : Shape :=
  .record "PersistentVolumeClaimVolumeSource"
    [("claimName", .text), ("readOnly", .flag)]

/-! ### Places on the node and on the network -/

def CSIVolumeSource.shape : Shape :=
  .record "CSIVolumeSource"
    [ ("driver", .text), ("fsType", .text),
      ("nodePublishSecretRef", LocalObjectReference.shape),
      ("readOnly", .flag), ("volumeAttributes", .textMap) ]

def FCVolumeSource.shape : Shape :=
  .record "FCVolumeSource"
    [ ("fsType", .text), ("lun", .bit32), ("readOnly", .flag),
      ("targetWWNs", .texts), ("wwids", .texts) ]

def FlexVolumeSource.shape : Shape :=
  .record "FlexVolumeSource"
    [ ("driver", .text), ("fsType", .text), ("options", .textMap),
      ("readOnly", .flag), ("secretRef", LocalObjectReference.shape) ]

def HostPathVolumeSource.shape : Shape :=
  .record "HostPathVolumeSource" [("path", .text), ("type", .text)]

def ImageVolumeSource.shape : Shape :=
  .record "ImageVolumeSource" [("pullPolicy", .text), ("reference", .text)]

def ISCSIVolumeSource.shape : Shape :=
  .record "ISCSIVolumeSource"
    [ ("chapAuthDiscovery", .flag), ("chapAuthSession", .flag),
      ("fsType", .text), ("initiatorName", .text), ("iqn", .text),
      ("iscsiInterface", .text), ("lun", .bit32), ("portals", .texts),
      ("readOnly", .flag), ("secretRef", LocalObjectReference.shape),
      ("targetPortal", .text) ]

def NFSVolumeSource.shape : Shape :=
  .record "NFSVolumeSource"
    [("path", .text), ("readOnly", .flag), ("server", .text)]

def GitRepoVolumeSource.shape : Shape :=
  .record "GitRepoVolumeSource"
    [("directory", .text), ("repository", .text), ("revision", .text)]

/-! ### Storage of particular vendors -/

def AWSElasticBlockStoreVolumeSource.shape : Shape :=
  .record "AWSElasticBlockStoreVolumeSource"
    [ ("fsType", .text), ("partition", .bit32), ("readOnly", .flag),
      ("volumeID", .text) ]

def AzureDiskVolumeSource.shape : Shape :=
  .record "AzureDiskVolumeSource"
    [ ("cachingMode", .text), ("diskName", .text), ("diskURI", .text),
      ("fsType", .text), ("kind", .text), ("readOnly", .flag) ]

def AzureFileVolumeSource.shape : Shape :=
  .record "AzureFileVolumeSource"
    [("readOnly", .flag), ("secretName", .text), ("shareName", .text)]

def CephFSVolumeSource.shape : Shape :=
  .record "CephFSVolumeSource"
    [ ("monitors", .texts), ("path", .text), ("readOnly", .flag),
      ("secretFile", .text), ("secretRef", LocalObjectReference.shape),
      ("user", .text) ]

def CinderVolumeSource.shape : Shape :=
  .record "CinderVolumeSource"
    [ ("fsType", .text), ("readOnly", .flag),
      ("secretRef", LocalObjectReference.shape), ("volumeID", .text) ]

def FlockerVolumeSource.shape : Shape :=
  .record "FlockerVolumeSource"
    [("datasetName", .text), ("datasetUUID", .text)]

def GCEPersistentDiskVolumeSource.shape : Shape :=
  .record "GCEPersistentDiskVolumeSource"
    [ ("fsType", .text), ("partition", .bit32), ("pdName", .text),
      ("readOnly", .flag) ]

def GlusterfsVolumeSource.shape : Shape :=
  .record "GlusterfsVolumeSource"
    [("endpoints", .text), ("path", .text), ("readOnly", .flag)]

def PhotonPersistentDiskVolumeSource.shape : Shape :=
  .record "PhotonPersistentDiskVolumeSource"
    [("fsType", .text), ("pdID", .text)]

def PortworxVolumeSource.shape : Shape :=
  .record "PortworxVolumeSource"
    [("fsType", .text), ("readOnly", .flag), ("volumeID", .text)]

def QuobyteVolumeSource.shape : Shape :=
  .record "QuobyteVolumeSource"
    [ ("group", .text), ("readOnly", .flag), ("registry", .text),
      ("tenant", .text), ("user", .text), ("volume", .text) ]

def RBDVolumeSource.shape : Shape :=
  .record "RBDVolumeSource"
    [ ("fsType", .text), ("image", .text), ("keyring", .text),
      ("monitors", .texts), ("pool", .text), ("readOnly", .flag),
      ("secretRef", LocalObjectReference.shape), ("user", .text) ]

def ScaleIOVolumeSource.shape : Shape :=
  .record "ScaleIOVolumeSource"
    [ ("fsType", .text), ("gateway", .text), ("protectionDomain", .text),
      ("readOnly", .flag), ("secretRef", LocalObjectReference.shape),
      ("sslEnabled", .flag), ("storageMode", .text), ("storagePool", .text),
      ("system", .text), ("volumeName", .text) ]

def StorageOSVolumeSource.shape : Shape :=
  .record "StorageOSVolumeSource"
    [ ("fsType", .text), ("readOnly", .flag),
      ("secretRef", LocalObjectReference.shape), ("volumeName", .text),
      ("volumeNamespace", .text) ]

def VsphereVirtualDiskVolumeSource.shape : Shape :=
  .record "VsphereVirtualDiskVolumeSource"
    [ ("fsType", .text), ("storagePolicyID", .text),
      ("storagePolicyName", .text), ("volumePath", .text) ]

/-! ### The sources of a volume

An empty directory is read, and so is the volume's name; the other sources are
carried along, in the groups that stand between. -/

def Volume.fieldsBeforeEmptyDir : Fields :=
  [ ("awsElasticBlockStore", AWSElasticBlockStoreVolumeSource.shape),
    ("azureDisk", AzureDiskVolumeSource.shape),
    ("azureFile", AzureFileVolumeSource.shape),
    ("cephfs", CephFSVolumeSource.shape),
    ("cinder", CinderVolumeSource.shape),
    ("configMap", ConfigMapVolumeSource.shape),
    ("csi", CSIVolumeSource.shape),
    ("downwardAPI", DownwardAPIVolumeSource.shape) ]

def Volume.fieldsAfterEmptyDir : Fields :=
  [ ("ephemeral", EphemeralVolumeSource.shape), ("fc", FCVolumeSource.shape),
    ("flexVolume", FlexVolumeSource.shape),
    ("flocker", FlockerVolumeSource.shape),
    ("gcePersistentDisk", GCEPersistentDiskVolumeSource.shape),
    ("gitRepo", GitRepoVolumeSource.shape),
    ("glusterfs", GlusterfsVolumeSource.shape),
    ("hostPath", HostPathVolumeSource.shape),
    ("image", ImageVolumeSource.shape), ("iscsi", ISCSIVolumeSource.shape) ]

def Volume.fieldsAfterName : Fields :=
  [ ("nfs", NFSVolumeSource.shape),
    ("persistentVolumeClaim", PersistentVolumeClaimVolumeSource.shape),
    ("photonPersistentDisk", PhotonPersistentDiskVolumeSource.shape),
    ("portworxVolume", PortworxVolumeSource.shape),
    ("projected", ProjectedVolumeSource.shape),
    ("quobyte", QuobyteVolumeSource.shape), ("rbd", RBDVolumeSource.shape),
    ("scaleIO", ScaleIOVolumeSource.shape),
    ("secret", SecretVolumeSource.shape),
    ("storageos", StorageOSVolumeSource.shape),
    ("vsphereVolume", VsphereVirtualDiskVolumeSource.shape) ]

end PodTelemetry.Kubernetes
