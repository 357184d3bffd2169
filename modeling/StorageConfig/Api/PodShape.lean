import StorageConfig.Api.Shape

/-! The shapes of what a pod is meant to be and of what is known of it. -/

namespace StorageConfig

namespace Shape

/-- Members that all have one shape. -/
def each (shape : Shape) (names : List String) : List (String × Shape) := names.map (·, shape)

/-- Text members. -/
def texts : List String → List (String × Shape) := each text

/-- Members that are truth values. -/
def flags : List String → List (String × Shape) := each flag

/-- Members that are lists of texts. -/
def textLists : List String → List (String × Shape) := each (list text)

/-- Members that are maps of texts. -/
def textMaps : List String → List (String × Shape) := each (map text)

/-- Members that are integers of 32 bits. -/
def int32s : List String → List (String × Shape) := each int32

/-- Members that are integers of 64 bits. -/
def int64s : List String → List (String × Shape) := each int64

/-- Members that are instants. -/
def instants : List String → List (String × Shape) := each instant

/-- An object with text members alone. -/
def textRecord (names : List String) : Shape := record (texts names)

/-- A reference from an object to its owner. -/
def ownerReference : Shape :=
  record (texts ["apiVersion", "kind", "name", "uid"] ++ flags ["blockOwnerDeletion", "controller"])

/-- The metadata of an object. -/
def metadata : Shape :=
  record (textMaps ["annotations", "labels"]
    ++ instants ["creationTimestamp", "deletionTimestamp"]
    ++ int64s ["deletionGracePeriodSeconds", "generation"]
    ++ textLists ["finalizers"]
    ++ texts ["generateName", "name", "namespace", "resourceVersion", "selfLink", "uid"]
    ++ [("ownerReferences", list ownerReference),
      ("managedFields", list (record (texts ["apiVersion", "fieldsType", "manager", "operation", "subresource"]
        ++ [("fieldsV1", anything), ("time", instant)])))])

/-- A selector of labels. -/
def labelSelector : Shape :=
  record ([("matchExpressions", list (record (texts ["key", "operator"] ++ textLists ["values"])))]
    ++ textMaps ["matchLabels"])

/-- A reference to an object of the same namespace. -/
def localReference : Shape := textRecord ["name"]

/-- A reference to a key of an object that need not exist. -/
def keyReference : Shape := record (texts ["key", "name"] ++ flags ["optional"])

/-- A reference to a field of the pod. -/
def fieldReference : Shape := textRecord ["apiVersion", "fieldPath"]

/-- A reference to a resource of a container. -/
def resourceReference : Shape := textRecord ["containerName", "divisor", "resource"]

/-- A variable of the environment. -/
def environmentVariable : Shape :=
  record (texts ["name", "value"]
    ++ [("valueFrom", record
      [("configMapKeyRef", keyReference), ("fieldRef", fieldReference),
        ("resourceFieldRef", resourceReference), ("secretKeyRef", keyReference)])])

/-- Variables taken from another object. -/
def environmentSource : Shape :=
  let source := record (texts ["name"] ++ flags ["optional"])
  record (texts ["prefix"] ++ [("configMapRef", source), ("secretRef", source)])

/-- A command to run. -/
def execAction : Shape := record (textLists ["command"])

/-- A page to fetch. -/
def httpGetAction : Shape :=
  record (texts ["host", "path", "scheme"]
    ++ [("httpHeaders", list (textRecord ["name", "value"])), ("port", portNumber)])

/-- A socket to open. -/
def socketAction : Shape := record (texts ["host"] ++ [("port", portNumber)])

/-- What to do at a point of a container's life. -/
def lifecycleHandler : Shape :=
  record [("exec", execAction), ("httpGet", httpGetAction), ("sleep", record (int64s ["seconds"])),
    ("tcpSocket", socketAction)]

/-- How to find out about a container. -/
def probe : Shape :=
  record ([("exec", execAction), ("httpGet", httpGetAction), ("tcpSocket", socketAction),
      ("grpc", record (int32s ["port"] ++ texts ["service"]))]
    ++ int32s ["failureThreshold", "initialDelaySeconds", "periodSeconds", "successThreshold", "timeoutSeconds"]
    ++ int64s ["terminationGracePeriodSeconds"])

/-- What a container may and must use. -/
def resources : Shape :=
  record ([("claims", list (textRecord ["name"]))] ++ textMaps ["limits", "requests"])

/-- Labels of the security module. -/
def securityLabels : Shape := textRecord ["level", "role", "type", "user"]

/-- A profile of permitted system calls. -/
def callProfile : Shape := textRecord ["localhostProfile", "type"]

/-- Settings of another operating system. -/
def windowsOptions : Shape :=
  record (texts ["gmsaCredentialSpec", "gmsaCredentialSpecName", "runAsUserName"] ++ flags ["hostProcess"])

/-- The rights of a container. -/
def containerSecurity : Shape :=
  record (flags ["allowPrivilegeEscalation", "privileged", "readOnlyRootFilesystem", "runAsNonRoot"]
    ++ int64s ["runAsGroup", "runAsUser"] ++ texts ["procMount"]
    ++ [("capabilities", record (textLists ["add", "drop"])), ("seLinuxOptions", securityLabels),
      ("seccompProfile", callProfile), ("windowsOptions", windowsOptions)])

/-- The rights of a pod. -/
def podSecurity : Shape :=
  record (int64s ["fsGroup", "runAsGroup", "runAsUser"] ++ texts ["fsGroupChangePolicy"]
    ++ flags ["runAsNonRoot"] ++ each (list int64) ["supplementalGroups"]
    ++ [("seLinuxOptions", securityLabels), ("seccompProfile", callProfile),
      ("sysctls", list (textRecord ["name", "value"])), ("windowsOptions", windowsOptions)])

/-- The members of a container. -/
def containerMembers : List (String × Shape) :=
  textLists ["args", "command"]
    ++ texts ["image", "imagePullPolicy", "name", "restartPolicy", "terminationMessagePath",
      "terminationMessagePolicy", "workingDir"]
    ++ flags ["stdin", "stdinOnce", "tty"]
    ++ each probe ["livenessProbe", "readinessProbe", "startupProbe"]
    ++ [("env", list environmentVariable), ("envFrom", list environmentSource),
      ("lifecycle", record (each lifecycleHandler ["postStart", "preStop"])),
      ("ports", list (record (int32s ["containerPort", "hostPort"] ++ texts ["hostIP", "name", "protocol"]))),
      ("resizePolicy", list (textRecord ["resourceName", "restartPolicy"])),
      ("resources", resources), ("securityContext", containerSecurity),
      ("volumeDevices", list (textRecord ["devicePath", "name"])),
      ("volumeMounts", list (record
        (texts ["mountPath", "mountPropagation", "name", "subPath", "subPathExpr"] ++ flags ["readOnly"])))]

/-- A container. -/
def container : Shape := record containerMembers

/-- A container added to a running pod. -/
def ephemeralContainer : Shape := record (containerMembers ++ texts ["targetContainerName"])

/-- Files made from the keys of an object. -/
def keyPaths : Shape := list (record (texts ["key", "path"] ++ int32s ["mode"]))

/-- Files made from the fields of the pod. -/
def fieldPaths : Shape :=
  list (record (texts ["path"] ++ int32s ["mode"]
    ++ [("fieldRef", fieldReference), ("resourceFieldRef", resourceReference)]))

/-- A claim to storage. -/
def storageClaim : Shape :=
  record (textLists ["accessModes"]
    ++ texts ["storageClassName", "volumeAttributesClassName", "volumeMode", "volumeName"]
    ++ [("dataSource", textRecord ["apiGroup", "kind", "name"]),
      ("dataSourceRef", textRecord ["apiGroup", "kind", "name", "namespace"]),
      ("resources", record (textMaps ["limits", "requests"])), ("selector", labelSelector)])

/-- One of the sources that a volume brings together. -/
def projectedSource : Shape :=
  let keyed := record (texts ["name"] ++ flags ["optional"] ++ [("items", keyPaths)])
  record
    [("clusterTrustBundle", record (texts ["name", "path", "signerName"] ++ flags ["optional"]
        ++ [("labelSelector", labelSelector)])),
      ("configMap", keyed), ("secret", keyed), ("downwardAPI", record [("items", fieldPaths)]),
      ("serviceAccountToken", record (texts ["audience", "path"] ++ int64s ["expirationSeconds"]))]

/-- A volume whose source has text members, a switch for reading only, and a secret. -/
def secretSource (names : List String) : Shape :=
  record (texts names ++ flags ["readOnly"] ++ [("secretRef", localReference)])

/-- A volume whose source has text members and a switch for reading only. -/
def plainSource (names : List String) : Shape := record (texts names ++ flags ["readOnly"])

/-- A volume that is a partition of a disk. -/
def partitionSource (names : List String) : Shape :=
  record (texts names ++ flags ["readOnly"] ++ int32s ["partition"])

/-- A volume. -/
def volume : Shape :=
  record (texts ["name"] ++
    [("awsElasticBlockStore", partitionSource ["fsType", "volumeID"]),
      ("azureDisk", plainSource ["cachingMode", "diskName", "diskURI", "fsType", "kind"]),
      ("azureFile", plainSource ["secretName", "shareName"]),
      ("cephfs", record (textLists ["monitors"] ++ texts ["path", "secretFile", "user"] ++ flags ["readOnly"]
        ++ [("secretRef", localReference)])),
      ("cinder", secretSource ["fsType", "volumeID"]),
      ("configMap", record (int32s ["defaultMode"] ++ texts ["name"] ++ flags ["optional"]
        ++ [("items", keyPaths)])),
      ("csi", record (texts ["driver", "fsType"] ++ flags ["readOnly"] ++ textMaps ["volumeAttributes"]
        ++ [("nodePublishSecretRef", localReference)])),
      ("downwardAPI", record (int32s ["defaultMode"] ++ [("items", fieldPaths)])),
      ("emptyDir", textRecord ["medium", "sizeLimit"]),
      ("ephemeral", record
        [("volumeClaimTemplate", record [("metadata", metadata), ("spec", storageClaim)])]),
      ("fc", record (texts ["fsType"] ++ int32s ["lun"] ++ flags ["readOnly"] ++ textLists ["targetWWNs", "wwids"])),
      ("flexVolume", record (texts ["driver", "fsType"] ++ textMaps ["options"] ++ flags ["readOnly"]
        ++ [("secretRef", localReference)])),
      ("flocker", textRecord ["datasetName", "datasetUUID"]),
      ("gcePersistentDisk", partitionSource ["fsType", "pdName"]),
      ("gitRepo", textRecord ["directory", "repository", "revision"]),
      ("glusterfs", plainSource ["endpoints", "path"]),
      ("hostPath", textRecord ["path", "type"]),
      ("iscsi", record (flags ["chapAuthDiscovery", "chapAuthSession", "readOnly"]
        ++ texts ["fsType", "initiatorName", "iqn", "iscsiInterface", "targetPortal"] ++ int32s ["lun"]
        ++ textLists ["portals"] ++ [("secretRef", localReference)])),
      ("nfs", plainSource ["path", "server"]),
      ("persistentVolumeClaim", plainSource ["claimName"]),
      ("photonPersistentDisk", textRecord ["fsType", "pdID"]),
      ("portworxVolume", plainSource ["fsType", "volumeID"]),
      ("projected", record (int32s ["defaultMode"] ++ [("sources", list projectedSource)])),
      ("quobyte", plainSource ["group", "registry", "tenant", "user", "volume"]),
      ("rbd", record (texts ["fsType", "image", "keyring", "pool", "user"] ++ textLists ["monitors"]
        ++ flags ["readOnly"] ++ [("secretRef", localReference)])),
      ("scaleIO", record (texts ["fsType", "gateway", "protectionDomain", "storageMode", "storagePool", "system",
          "volumeName"] ++ flags ["readOnly", "sslEnabled"] ++ [("secretRef", localReference)])),
      ("secret", record (int32s ["defaultMode"] ++ texts ["secretName"] ++ flags ["optional"]
        ++ [("items", keyPaths)])),
      ("storageos", secretSource ["fsType", "volumeName", "volumeNamespace"]),
      ("vsphereVolume", textRecord ["fsType", "storagePolicyID", "storagePolicyName", "volumePath"])])

/-- A condition on the labels or fields of a node. -/
def nodeTerm : Shape :=
  record (each (list (record (texts ["key", "operator"] ++ textLists ["values"])))
    ["matchExpressions", "matchFields"])

/-- A condition on the pods that run close by. -/
def podTerm : Shape :=
  record (each labelSelector ["labelSelector", "namespaceSelector"]
    ++ textLists ["matchLabelKeys", "mismatchLabelKeys", "namespaces"] ++ texts ["topologyKey"])

/-- Conditions on the pods that run close by, wished for and required. -/
def podAffinity : Shape :=
  record
    [("preferredDuringSchedulingIgnoredDuringExecution",
        list (record (int32s ["weight"] ++ [("podAffinityTerm", podTerm)]))),
      ("requiredDuringSchedulingIgnoredDuringExecution", list podTerm)]

/-- Conditions on where a pod runs. -/
def affinity : Shape :=
  record
    [("nodeAffinity", record
        [("preferredDuringSchedulingIgnoredDuringExecution",
            list (record (int32s ["weight"] ++ [("preference", nodeTerm)]))),
          ("requiredDuringSchedulingIgnoredDuringExecution", record [("nodeSelectorTerms", list nodeTerm)])]),
      ("podAffinity", podAffinity), ("podAntiAffinity", podAffinity)]

/-- What a pod is meant to be. -/
def podSpec : Shape :=
  record (int64s ["activeDeadlineSeconds", "terminationGracePeriodSeconds"] ++ int32s ["priority"]
    ++ flags ["automountServiceAccountToken", "enableServiceLinks", "hostIPC", "hostNetwork", "hostPID",
      "hostUsers", "setHostnameAsFQDN", "shareProcessNamespace"]
    ++ texts ["dnsPolicy", "hostname", "nodeName", "preemptionPolicy", "priorityClassName", "restartPolicy",
      "runtimeClassName", "schedulerName", "serviceAccount", "serviceAccountName", "subdomain"]
    ++ textMaps ["nodeSelector", "overhead"]
    ++ [("affinity", affinity), ("containers", list container), ("initContainers", list container),
      ("ephemeralContainers", list ephemeralContainer),
      ("dnsConfig", record (textLists ["nameservers", "searches"]
        ++ [("options", list (textRecord ["name", "value"]))])),
      ("hostAliases", list (record (textLists ["hostnames"] ++ texts ["ip"]))),
      ("imagePullSecrets", list localReference), ("os", textRecord ["name"]),
      ("readinessGates", list (textRecord ["conditionType"])),
      ("resourceClaims", list (record (texts ["name"]
        ++ [("source", textRecord ["resourceClaimName", "resourceClaimTemplateName"])]))),
      ("schedulingGates", list (textRecord ["name"])), ("securityContext", podSecurity),
      ("tolerations", list (record (texts ["effect", "key", "operator", "value"] ++ int64s ["tolerationSeconds"]))),
      ("topologySpreadConstraints", list (record (int32s ["maxSkew", "minDomains"]
        ++ textLists ["matchLabelKeys"]
        ++ texts ["nodeAffinityPolicy", "nodeTaintsPolicy", "topologyKey", "whenUnsatisfiable"]
        ++ [("labelSelector", labelSelector)]))),
      ("volumes", list volume)])

/-- How a container fares. -/
def containerState : Shape :=
  record
    [("running", record (instants ["startedAt"])),
      ("terminated", record (texts ["containerID", "message", "reason"] ++ int32s ["exitCode", "signal"]
        ++ instants ["finishedAt", "startedAt"])),
      ("waiting", textRecord ["message", "reason"])]

/-- What is known of a container. -/
def containerStatus : Shape :=
  record (textMaps ["allocatedResources"] ++ texts ["containerID", "image", "imageID", "name"]
    ++ flags ["ready", "started"] ++ int32s ["restartCount"] ++ each containerState ["lastState", "state"]
    ++ [("resources", resources)])

/-- What is known of a pod. -/
def podStatus : Shape :=
  record (texts ["hostIP", "message", "nominatedNodeName", "phase", "podIP", "qosClass", "reason", "resize"]
    ++ instants ["startTime"]
    ++ each (list containerStatus)
      ["containerStatuses", "ephemeralContainerStatuses", "initContainerStatuses"]
    ++ each (list (textRecord ["ip"])) ["hostIPs", "podIPs"]
    ++ [("conditions", list (record (instants ["lastProbeTime", "lastTransitionTime"]
        ++ texts ["message", "reason", "status", "type"]))),
      ("resourceClaimStatuses", list (textRecord ["name", "resourceClaimName"]))])

end Shape

end StorageConfig
