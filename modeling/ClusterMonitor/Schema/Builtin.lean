import ClusterMonitor.Schema.Basic

/-!
# The built-in schema

The options of the check as it is shipped: two toggles, defaults for all instances, and what one
instance needs to reach its server.
-/

namespace ClusterMonitor.Schema

/-- A text with one line feed after each line. -/
def paragraph (lines : List String) : String := "\n".intercalate lines ++ "\n"

/-- The bounds of durations in seconds: up to a day. -/
def duration (shown : Int) (default : Option Value) : ValueSpec :=
  { type := .number, «example» := some (.int shown), default
    minimum := some 0.0, maximum := some 86400.0 }

def toggle (default : Bool) : ValueSpec :=
  { type := .boolean, «example» := some (.bool default), default := some (.bool default) }

def textLike (shown : String) : ValueSpec :=
  { type := .string, «example» := some (.string shown) }

/-- The options that all instances share. -/
def builtinInitConfig : List OptionSpec :=
  [{ name := "collect_service_metrics"
     description := paragraph
      ["Whether to collect service and component metrics.",
        "Omit this option to collect all service metrics."]
     value := toggle true },
   { name := "collect_service_status"
     description := paragraph ["Whether to check the status of services and components."]
     value := toggle false },
   { name := "service"
     description := paragraph
      ["Attach the tag `service:<SERVICE>` to every metric, event, and service check emitted " ++
          "by this integration.",
        "",
        "Overridden by the `service` option of an instance."]
     value := textLike "<SERVICE>" },
   { name := "timeout"
     description := paragraph ["The timeout for connecting to Ambari servers, in seconds."]
     value := duration 10 (some (.int 10)) }]

/-- The whitelist that is shown as an example. -/
def exampleServices : Value :=
  .ofPairs [
    ("HDFS", .ofPairs [
      ("NAMENODE", .ofStrings
        ["cpu", "dfs", "disk", "jvm", "load", "memory", "network", "process", "rpc"]),
      ("DATANODE", .array [])]),
    ("YARN", .ofPairs [])]

/-- The options of an instance. -/
def builtinInstances : List OptionSpec :=
  [{ name := "url", required := true, displayPriority := 3
     description := paragraph
      ["The URL of the Ambari server, including the scheme (http or https) and port."]
     value := textLike "http://localhost:8080" },
   { name := "services", displayPriority := 2
     description := paragraph
      ["The services to check. List components per service and metric headers per component.",
        "",
        "- A service that is not listed is not checked.",
        "- A service listed with no components has its status checked, but no component is.",
        "- A component listed with an empty list of headers has its status checked, but no " ++
          "metrics are collected.",
        "- A component that is not listed is not checked at all.",
        "",
        "Omit this option to make every discovered service and component eligible."]
     value := { type := .object, «example» := some exampleServices } },
   { name := "username", displayPriority := 1
     description := paragraph ["The username to use if basic authentication is required."]
     value := textLike "<USERNAME>" },
   { name := "password", displayPriority := 1, secret := true
     description := paragraph ["The password to use if basic authentication is required."]
     value := textLike "<PASSWORD>" },
   { name := "auth_type"
     description := paragraph
      ["The type of HTTP authentication used with `username` and `password`."]
     value :=
      { type := .string, «example» := some (.string "basic"), default := some (.string "basic")
        allowed := ["basic", "digest"] } },
   { name := "tls_verify"
     description := paragraph ["Whether to verify the TLS certificate of an https URL."]
     value := toggle true },
   { name := "timeout"
     description := paragraph
      ["The timeout for connecting to this Ambari server, in seconds.",
        "Overrides the `timeout` option of `init_config`."]
     value := duration 10 none },
   { name := "tags"
     description := paragraph
      ["A list of tags to attach to every metric and service check emitted by this instance."]
     value :=
      { type := .array, items := some { type := .string }
        «example» := some (.ofStrings ["<KEY_1>:<VALUE_1>", "<KEY_2>:<VALUE_2>"]) } },
   { name := "service"
     description := paragraph
      ["Attach the tag `service:<SERVICE>` to every metric, event, and service check emitted " ++
          "by this instance.",
        "",
        "Overrides the `service` option of `init_config`."]
     value := textLike "<SERVICE>" },
   { name := "min_collection_interval"
     description := paragraph
      ["This changes the collection interval of the check, in seconds."]
     value := duration 15 (some (.int 15)) },
   { name := "empty_default_hostname"
     description := paragraph
      ["Submit metrics, events, and service checks with no hostname when set to true."]
     value := toggle false }]

/-- A log file of the server whose records begin at lines that start with a match. -/
private def serverLog (file ruleName : String) (start : Pattern) : LogSource :=
  (LogSource.file (s!"/var/log/ambari-server/{file}") "ambari" "ambari").withRule
    (.multiLine ruleName start)

private def compiledPattern (text : String) : Pattern :=
  ⟨text, (Regex.Expression.ofText? text).getD default⟩

/-- Lines that start with a date. -/
def datePattern : Pattern := compiledPattern "\\d\x7b4\x7d\\-\\d\x7b2\x7d\\-\\d\x7b2\x7d"

/-- Lines that start with a level in brackets. -/
def bracketPattern : Pattern := compiledPattern r"\[EL"

/-- The log files of the server. -/
def builtinLogs : List LogSource :=
  [serverLog "ambari-alerts.log" "new_log_start_with_date" datePattern,
    serverLog "ambari-config-changes.log" "new_log_start_with_date" datePattern,
    serverLog "ambari-eclipselink.log" "new_log_start_with_bracket" bracketPattern,
    serverLog "ambari-server.log" "new_log_start_with_date" datePattern]

/-- The built-in schema. -/
def builtin : Schema :=
  { name := "ambari", initConfig := builtinInitConfig, instances := builtinInstances
    logs := builtinLogs }

end ClusterMonitor.Schema
