namespace PodTelemetry

/-! ## Names that pods and the program agree on -/

namespace Annotation

/-- Set to `true` to have the exporter configured. -/
def injectConfig : String := "otel.splunk.com/inject-config"

/-- Set to `true` to have the Java agent loaded. -/
def injectJava : String := "otel.splunk.com/inject-java"

/-- Whether injection succeeded. -/
def status : String := "otel.splunk.com/injection-status"

/-- Why injection failed. -/
def reason : String := "otel.splunk.com/injection-reason"

def app : String := "app"

def appName : String := "app.kubernetes.io/name"

end Annotation

/-- Values of the status annotation. -/
def Status.success : String := "success"

def Status.error : String := "error"

namespace Env

/-- Address of the node, where its collector listens. -/
def nodeAgent : String := "SPLUNK_OTEL_AGENT"

def serviceName : String := "OTEL_SERVICE_NAME"

def endpoint : String := "OTEL_EXPORTER_OTLP_ENDPOINT"

def tracesExporter : String := "OTEL_TRACES_EXPORTER"

def resourceAttributes : String := "OTEL_RESOURCE_ATTRIBUTES"

def javaOptions : String := "JAVA_TOOL_OPTIONS"

end Env

namespace Instrumentation

/-- Name of the volume that holds the language agent, and of the init container
that fills it. -/
def volumeName : String := "splunk-instrumentation"

def mountPath : String := "/splunk"

/-- Where the agent lies in its image. -/
def agentSource : String := "/splunk-otel-javaagent-all.jar"

/-- Where the agent lies in the volume. -/
def agentTarget : String := "/splunk/splunk-otel-javaagent-all.jar"

/-- The option that loads the agent. -/
def agentOption : String := "-javaagent:/splunk/splunk-otel-javaagent-all.jar"

end Instrumentation

end PodTelemetry
