import StorageConfig.Settings

/-! The options of the command line: their names, their values, and what they are for. -/

namespace StorageConfig

namespace CommandLine

/-- An option with a value. -/
inductive Parameter where
  /-- The namespace whose clusters are watched. -/
  | watchedNamespace
  /-- The name of the managed config map. -/
  | configMapName
  /-- The namespace of clusters that have none. -/
  | defaultNamespace
  /-- The pods to restart. -/
  | dependents
  /-- The name of the object that holds the cluster identity. -/
  | identitySingleton
  /-- Seconds from one successful pass to the next. -/
  | resyncSeconds
  /-- Where the health server listens. -/
  | healthAddress
  /-- Where the metrics server listens. -/
  | metricsAddress
  /-- How important a log entry must be. -/
  | logLevel
  deriving DecidableEq, Repr

namespace Parameter

/-- All of them, in the order in which they are listed. -/
def all : List Parameter :=
  [watchedNamespace, configMapName, defaultNamespace, dependents, identitySingleton, resyncSeconds,
    healthAddress, metricsAddress, logLevel]

/-- What stands after the two dashes. -/
def name : Parameter → String
  | watchedNamespace => "namespace"
  | configMapName => "config-map-name"
  | defaultNamespace => "default-namespace"
  | dependents => "dependent-selector"
  | identitySingleton => "cluster-version-name"
  | resyncSeconds => "resync-interval-secs"
  | healthAddress => "health-addr"
  | metricsAddress => "metrics-addr"
  | logLevel => "log-level"

/-- The environment variable that speaks where the command line does not. -/
def variableName : Parameter → String
  | watchedNamespace => "WATCH_NAMESPACE"
  | configMapName => "OPERATOR_CONFIG_NAME"
  | defaultNamespace => "DEFAULT_NAMESPACE"
  | dependents => "DEPENDENT_SELECTOR"
  | identitySingleton => "CLUSTER_VERSION_NAME"
  | resyncSeconds => "RESYNC_INTERVAL"
  | healthAddress => "HEALTH_ADDR"
  | metricsAddress => "METRICS_ADDR"
  | logLevel => "LOG_LEVEL"

/-- The value that holds where nothing else is said. -/
def standard? : Parameter → Option String
  | watchedNamespace => none
  | configMapName => some Settings.standard.configMapName
  | defaultNamespace => some Settings.standard.defaultNamespace
  | dependents => some Settings.standard.dependents.render
  | identitySingleton => some Settings.standard.identitySingleton
  | resyncSeconds => some (toString Settings.standard.resyncSeconds)
  | healthAddress => some "0.0.0.0:8081"
  | metricsAddress => some "0.0.0.0:8080"
  | logLevel => some "info"

/-- What it is for. -/
def purpose : Parameter → String
  | watchedNamespace => "Namespace to watch (all namespaces if unset)"
  | configMapName => "Name of the managed operator config map"
  | defaultNamespace => "Namespace assumed for StorageClusters without one"
  | dependents => "Label selector of pods restarted when the config changes"
  | identitySingleton => "Name of the ClusterVersion singleton holding the cluster ID"
  | resyncSeconds => "Resync interval in seconds"
  | healthAddress => "Health server bind address"
  | metricsAddress => "Metrics server bind address"
  | logLevel => "Log level (trace, debug, info, warn, error)"

/-- The name in capitals, which stands for the value. -/
def placeholder (parameter : Parameter) : String :=
  parameter.name.map fun c => if c = '-' then '_' else c.toUpper

end Parameter

/-- An option that is either given or not. -/
inductive Toggle where
  /-- Log entries are written as documents. -/
  | logsJson
  /-- The definition of storage clusters is printed, and nothing else done. -/
  | printsDefinition
  deriving DecidableEq, Repr

namespace Toggle

/-- All of them, in the order in which they are listed. -/
def all : List Toggle := [logsJson, printsDefinition]

/-- What stands after the two dashes. -/
def name : Toggle → String
  | logsJson => "log-json"
  | printsDefinition => "print-crd"

/-- The environment variable that speaks where the command line does not, if there is one. -/
def variableName? : Toggle → Option String
  | logsJson => some "LOG_JSON"
  | printsDefinition => none

/-- What it is for. -/
def purpose : Toggle → String
  | logsJson => "Output logs as JSON"
  | printsDefinition => "Print the StorageCluster CRD as YAML and exit"

end Toggle

/-- A question about the program, answered in place of anything else. -/
inductive Inquiry where
  | help
  | version
  deriving DecidableEq, Repr

namespace Inquiry

/-- All of them, in the order in which they are listed. -/
def all : List Inquiry := [help, version]

/-- What stands after the two dashes. -/
def name : Inquiry → String
  | help => "help"
  | version => "version"

/-- What stands after a single dash. -/
def letter : Inquiry → Char
  | help => 'h'
  | version => 'V'

/-- What it is for. -/
def purpose : Inquiry → String
  | help => "Print help"
  | version => "Print version"

/-- The inquiry of a letter. -/
def ofLetter? (letter : Char) : Option Inquiry := all.find? (·.letter == letter)

end Inquiry

/-- Anything that stands after two dashes. -/
inductive Choice where
  | parameter (parameter : Parameter)
  | toggle (toggle : Toggle)
  | inquiry (inquiry : Inquiry)
  deriving DecidableEq, Repr

namespace Choice

/-- All of them, in the order in which they are listed. -/
def all : List Choice :=
  Parameter.all.map parameter ++ Toggle.all.map toggle ++ Inquiry.all.map inquiry

/-- What stands after the two dashes. -/
def name : Choice → String
  | parameter p => p.name
  | toggle t => t.name
  | inquiry i => i.name

/-- The choice of a name. -/
def ofName? (name : String) : Option Choice := all.find? (·.name == name)

/-- How it is written, with the placeholder of its value. -/
def usage : Choice → String
  | parameter p => "--" ++ p.name ++ " <" ++ p.placeholder ++ ">"
  | toggle t => "--" ++ t.name
  | inquiry i => "--" ++ i.name

end Choice

end CommandLine

end StorageConfig
