import PodTelemetry.Json.Basic

namespace PodTelemetry.Agent

/-! ## The definition of agent resources

The cluster learns from it what agent resources look like: there is a schema
for each record that they are made of. -/

/-- What is said of a field: what it is for, whether it may be null, and what
stands for it when it is left out. -/
structure FieldNotes where
  purpose : String
  isNullable : Bool := false
  standard : Option Json := none

namespace FieldNotes

/-- The schema of a field of a type. -/
def schema (notes : FieldNotes) (type : String)
    (others : List (String × Json) := []) : Json :=
  let standard :=
    match notes.standard with
    | some standard => [("default", standard)]
    | none => []
  let nullable :=
    if notes.isNullable then [("nullable", Json.bool true)] else []
  Json.ofMembers <|
    [("description", .string notes.purpose), ("type", .string type)] ++
    standard ++ nullable ++ others

/-- The schema of a record, with the names of the fields that must be there. -/
def recordSchema (notes : FieldNotes) (fields : List (String × Json))
    (required : List String := []) : Json :=
  let needed :=
    if required.isEmpty then [] else [("required", Json.ofStrings required)]
  notes.schema "object" (("properties", Json.ofMembers fields) :: needed)

end FieldNotes

/-- A field that may be left out or null. -/
def optionalSchema (type purpose : String)
    (others : List (String × Json) := []) : Json :=
  { purpose, isNullable := true : FieldNotes }.schema type others

def requiredText (purpose : String) : Json :=
  { purpose : FieldNotes }.schema "string"

def collectorSchema (purpose : String) : Json :=
  { purpose, standard := some (.object []) : FieldNotes }.recordSchema
    [ ("enabled",
        optionalSchema "boolean" "Whether this collector tier is deployed"),
      ("image", optionalSchema "string" "Collector container image"),
      ("config",
        optionalSchema "string"
          "Raw collector configuration YAML, overriding the generated one"),
      ("replicas",
        optionalSchema "integer" "Replica count (gateway only)"
          [("format", .string "int32")]) ]

def javaSchema : Json :=
  { purpose := "Java agent settings"
    standard := some (.object []) : FieldNotes }.recordSchema
    [("image", optionalSchema "string" "Image carrying the agent payload")]

def instrumentationSchema : Json :=
  { purpose := "Auto-instrumentation settings"
    standard := some (.object [("java", .object [])]) :
      FieldNotes }.recordSchema
    [("java", javaSchema)]

def specSchema : Json :=
  { purpose := "Specification for an Agent" : FieldNotes }.recordSchema
    [ ("clusterName",
        requiredText "Name identifying this cluster in Splunk dashboards"),
      ("realm",
        requiredText "Splunk APM realm of the account (e.g. us0, us1)"),
      ("instrumentation", instrumentationSchema),
      ("agent",
        collectorSchema "Collector deployed as a DaemonSet on every node"),
      ("clusterReceiver",
        collectorSchema
          "Single collector instance monitoring the cluster itself"),
      ("gateway",
        collectorSchema
          "Collector Deployment that fronts export to Splunk APM") ]
    ["clusterName", "realm"]

def statusSchema : Json :=
  { purpose := "Observed state of an Agent"
    isNullable := true : FieldNotes }.recordSchema
    [ ("version", optionalSchema "string" "Version of the managed collector"),
      ("messages",
        { purpose := "Messages about actions performed on this resource" :
          FieldNotes }.schema "array"
            [("items", .object [("type", .string "string")])]) ]

def resourceSchema : Json :=
  match { purpose :=
      "Auto-generated derived type for AgentSpec via \x60CustomResource\x60" :
      FieldNotes }.recordSchema
        [("spec", specSchema), ("status", statusSchema)] ["spec"] with
  | .object members => Json.ofMembers (("title", .string "Agent") :: members)
  | other => other

/-! ### The resource type -/

def group : String := "otel.splunk.com"

def version : String := "v1alpha1"

def plural : String := "agents"

/-- A column in which the cluster shows a part of each agent. -/
def column (name type path : String) : Json :=
  Json.ofMembers
    [("name", .string name), ("type", .string type),
     ("jsonPath", .string path)]

def versionDefinition : Json :=
  Json.ofMembers
    [ ("name", .string version), ("served", .bool true),
      ("storage", .bool true),
      ("additionalPrinterColumns",
        .array
          [ column "Realm" "string" ".spec.realm",
            column "Cluster" "string" ".spec.clusterName",
            column "Age" "date" ".metadata.creationTimestamp" ]),
      ("schema", Json.ofMembers [("openAPIV3Schema", resourceSchema)]),
      ("subresources", Json.ofMembers [("status", .object [])]) ]

/-- The definition, itself a resource. -/
def definition : Json :=
  Json.ofMembers
    [ ("apiVersion", .string "apiextensions.k8s.io/v1"),
      ("kind", .string "CustomResourceDefinition"),
      ("metadata",
        Json.ofMembers [("name", .string (plural ++ "." ++ group))]),
      ("spec",
        Json.ofMembers
          [ ("group", .string group),
            ("names",
              Json.ofMembers
                [ ("kind", .string "Agent"), ("plural", .string plural),
                  ("singular", .string "agent"), ("categories", .array []),
                  ("shortNames", .array []) ]),
            ("scope", .string "Namespaced"),
            ("versions", .array [versionDefinition]) ]) ]

end PodTelemetry.Agent
