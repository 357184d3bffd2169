import StorageConfig.StorageCluster

/-! The definition under which an API server serves storage clusters, with the schema of their documents. -/

namespace StorageConfig

namespace Schema

/-- A text member of a schema. -/
def textMember (name text : String) : String × Json := (name, .str text)

/-- The `description` of a schema, if it has one. -/
def described (description : Option String) : List (String × Json) :=
  Json.presentMember "description" .str description

/-- The mark of a schema that null fits too. -/
def nullable : String × Json := ("nullable", .bool true)

/-- The schema of a truth value that is false where it is missing. -/
def flag (description : Option String) : Json :=
  .obj ([("default", .bool false)] ++ described description ++ [textMember "type" "boolean"])

/-- The schema of a text that may be null. -/
def optionalText (description : String) : Json :=
  .obj [textMember "description" description, nullable, textMember "type" "string"]

/-- The schema of a record, with the members that stand between its description and its properties. -/
def record (front : List (String × Json)) (properties : List (String × Json)) : Json :=
  .obj (front ++ [("properties", .obj properties), textMember "type" "object"])

/-- The schema of a record with a default. -/
def defaultedRecord (value : Json) (description : String) (properties : List (String × Json)) : Json :=
  record [("default", value), textMember "description" description] properties

/-- The schema of a record that may be null. -/
def optionalRecord (description : String) (properties : List (String × Json)) : Json :=
  record [textMember "description" description, nullable] properties

/-- The schema of a feature toggle that may be null. -/
def toggle (description : String) : Json := optionalRecord description [("enabled", flag none)]

/-- The schema of the connection settings. -/
def connections : Json :=
  optionalRecord "Messenger connection settings"
    [("compression", toggle "On-wire compression"),
      ("encryption", toggle "On-wire encryption"),
      ("requireMsgr2", flag (some "Refuse msgr1 connections"))]

/-- The schema of the managed resources. -/
def managedResources : Json :=
  defaultedRecord (ManagedResources.toJson {}) "Resources managed on behalf of the cluster"
    [("cephNonResilientPools",
      defaultedRecord (NonResilientPools.toJson {})
        "Non-resilient (replica 1) pools, one per failure domain" [("enable", flag none)])]

/-- The schema of a cluster's spec. -/
def spec : Json :=
  record
    [textMember "description" "StorageCluster describes the desired shape of a Ceph-backed storage cluster."]
    [("allowRemoteStorageConsumers",
        flag (some "Whether remote storage consumers may attach to this cluster")),
      ("externalStorage",
        defaultedRecord (ExternalStorage.toJson {}) "External (consumer-mode) Ceph cluster settings"
          [("enable", flag none)]),
      ("managedResources", managedResources),
      ("network", optionalRecord "Wire-level network policy" [("connections", connections)])]

/-- The schema of a cluster's status. -/
def status : Json :=
  optionalRecord "Status of the StorageCluster, as far as this operator reads it"
    [("failureDomain", optionalText "Failure domain chosen for the cluster (host, zone, rack)"),
      ("failureDomainKey", optionalText "Node label key backing the failure domain")]

/-- The schema of a cluster. -/
def cluster : Json :=
  .obj
    [textMember "description" "Auto-generated derived type for StorageClusterSpec via `CustomResource`",
      ("properties", .obj [("spec", spec), ("status", status)]),
      ("required", .arr [.str "spec"]),
      textMember "title" StorageCluster.kind,
      textMember "type" "object"]

end Schema

namespace StorageCluster

/-- A column that lists of clusters show. -/
def column (path name type : String) : Json :=
  .obj [("jsonPath", .str path), ("name", .str name), ("type", .str type)]

/-- The one version that is served and stored. -/
def servedVersion : Json :=
  .obj
    [("additionalPrinterColumns",
        .arr [column ".spec.externalStorage.enable" "External" "boolean",
          column ".status.failureDomain" "FailureDomain" "string",
          column ".metadata.creationTimestamp" "Age" "date"]),
      ("name", .str "v1"),
      ("schema", .obj [("openAPIV3Schema", Schema.cluster)]),
      ("served", .bool true),
      ("storage", .bool true),
      ("subresources", .obj [("status", .obj [])])]

/-- The definition of the kind. -/
def definition : Json :=
  .obj
    [("apiVersion", .str "apiextensions.k8s.io/v1"),
      ("kind", .str "CustomResourceDefinition"),
      ("metadata", .obj [("name", .str "storageclusters.ocs.openshift.io")]),
      ("spec", .obj
        [("group", .str "ocs.openshift.io"),
          ("names", .obj
            [("categories", .arr []),
              ("kind", .str kind),
              ("plural", .str "storageclusters"),
              ("shortNames", .arr [.str "stcl"]),
              ("singular", .str "storagecluster")]),
          ("scope", .str "Namespaced"),
          ("versions", .arr [servedVersion])])]

end StorageCluster

end StorageConfig
