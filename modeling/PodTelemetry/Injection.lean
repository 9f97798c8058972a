import PodTelemetry.Attributes.ServiceName
import PodTelemetry.Topology

namespace PodTelemetry

open Kubernetes (Container EnvVar Pod PodSpec Volume VolumeMount)

/-! ## Injecting telemetry into a pod

Injection adds to the first container and, for a language agent, to the pod
around it. Nothing that is there is taken away. An injector that fails leaves
the pod as far as it came. -/

/-- What all injectors of one request work with. -/
structure InjectionContext where
  config : InjectionConfig
  attributes : Attributes
  deriving DecidableEq, Repr

/-- Why an injector gave up. -/
inductive InjectionFault where
  | noContainers
  | sourcedAttributes
  | sourcedJavaOptions
  deriving DecidableEq, Repr

def InjectionFault.account : InjectionFault → String
  | .noContainers => "pod has no containers"
  | .sourcedAttributes =>
      Env.resourceAttributes ++ " is set through valueFrom; " ++
        "cannot merge resource attributes"
  | .sourcedJavaOptions =>
      Env.javaOptions ++ " is set through valueFrom; " ++
        "cannot append the Java agent"

def InjectionFault.error (fault : InjectionFault) : Error :=
  ⟨.injection, fault.account⟩

/-- The pod after an injection, why it failed if it did, and the declared
attributes that were passed over because they are no pairs. -/
structure Injected where
  pod : Pod
  fault : Option InjectionFault := none
  skipped : List String := []
  deriving DecidableEq, Repr

namespace Injection

/-! ### Lists that are added to -/

/-- Appends each variable unless it is in the list already. -/
def withAdditions (env additions : List EnvVar) : List EnvVar :=
  additions.foldl
    (fun env entry => if entry ∈ env then env else env ++ [entry]) env

/-- Appends an element unless one with the name is there. -/
def withNamed {α : Type} (name : α → String) (element : α) (list : List α) :
    List α :=
  if list.any fun other => name other = name element then list
  else list ++ [element]

/-! ### Configuring the exporter -/

def hostVariable : EnvVar := EnvVar.ofField Env.nodeAgent "status.hostIP"

/-- The variables that are appended unless they are there as they are. -/
def exporterVariables (config : InjectionConfig) (service : String) :
    List EnvVar :=
  [ hostVariable,
    EnvVar.literal Env.serviceName service,
    EnvVar.literal Env.endpoint config.endpoint,
    EnvVar.literal Env.tracesExporter config.exporter.name ]

/-- Whether attributes are declared with a source in place of a text. -/
def hasSourcedAttributes (env : List EnvVar) : Bool :=
  env.any fun entry =>
    entry.name = Env.resourceAttributes && entry.valueFrom.isSome

/-- The variables of the first container with the exporter configured. An
existing declaration of attributes is rewritten where it stands; without one a
new declaration comes last. -/
def configuredVariables (config : InjectionConfig) (service : String)
    (merged : Attributes.Merged) (env : List EnvVar) : List EnvVar :=
  let declaration :=
    EnvVar.literal Env.resourceAttributes (Attributes.text merged.attributes)
  match merged.existingIndex with
  | some index =>
      withAdditions (env.set index declaration)
        (exporterVariables config service)
  | none =>
      withAdditions env (exporterVariables config service ++ [declaration])

def injectConfig (context : InjectionContext) (pod : Pod) : Injected :=
  match pod.firstContainer? with
  | none => { pod, fault := some .noContainers }
  | some container =>
      let env := container.variables
      if hasSourcedAttributes env then
        { pod, fault := some .sourcedAttributes }
      else
        let merged := Attributes.mergedWith context.attributes env
        let service := Attributes.serviceName merged.attributes pod
        let configured := configuredVariables context.config service merged env
        { pod :=
            pod.updateFirstContainer fun first =>
              { first with env := some configured }
          skipped := merged.skipped }

/-! ### Loading the Java agent -/

/-- The Java options with the agent's option among them. -/
def withAgentOption (options : String) : String :=
  if Text.contains Instrumentation.agentOption.toList options.toList then
    options
  else if options = "" then Instrumentation.agentOption
  else options ++ " " ++ Instrumentation.agentOption

/-- The variables with the agent's option in the first one for Java options,
which is added when there is none; no result when that variable has a source in
place of a text. -/
def javaVariables? (env : List EnvVar) : Option (List EnvVar) :=
  match env.findIdx? fun entry => entry.name = Env.javaOptions with
  | none =>
      some <|
        env ++ [EnvVar.literal Env.javaOptions Instrumentation.agentOption]
  | some index =>
      match env[index]? with
      | none => none
      | some entry =>
          if entry.valueFrom.isSome then none
          else some (env.set index
            { entry with
              value := some (withAgentOption (entry.value.getD "")) })

def agentMount : VolumeMount :=
  { mountPath := Instrumentation.mountPath,
    name := Instrumentation.volumeName }

def agentVolume : Volume :=
  { emptyDir := some {}, name := Instrumentation.volumeName }

/-- The container that copies the agent from its image into the volume. -/
def agentLoader (image : String) : Container :=
  { command :=
      some ["cp", Instrumentation.agentSource, Instrumentation.agentTarget]
    image := some image
    name := Instrumentation.volumeName
    volumeMounts := some [agentMount] }

/-- The first container with these variables and the agent's volume mounted. -/
def withAgentMounted (env : List EnvVar) (container : Container) : Container :=
  { container with
    env := some env
    volumeMounts :=
      some <|
        withNamed VolumeMount.name agentMount
          (container.volumeMounts.getD []) }

/-- The spec with the agent's volume and the container that fills it. -/
def withAgentLoaded (image : String) (spec : PodSpec) : PodSpec :=
  { spec with
    volumes := some (withNamed Volume.name agentVolume (spec.volumes.getD []))
    initContainers :=
      some <|
        withNamed Container.name (agentLoader image)
          (spec.initContainers.getD []) }

/-- Configures the exporter first; when that fails nothing else is done. -/
def injectJava (context : InjectionContext) (pod : Pod) : Injected :=
  let configured := injectConfig context pod
  match configured.fault, configured.pod.firstContainer? with
  | some _, _ => configured
  | none, none => { configured with fault := some .noContainers }
  | none, some container =>
      match javaVariables? container.variables with
      | none => { configured with fault := some .sourcedJavaOptions }
      | some env =>
          let mounted :=
            configured.pod.updateFirstContainer (withAgentMounted env)
          { configured with
            pod := { mounted with
              spec :=
                mounted.spec.map (withAgentLoaded context.config.javaImage) } }

end Injection

/-! ## Injectors and what triggers them -/

inductive Injector where
  | config
  | java
  deriving DecidableEq, Repr

namespace Injector

/-- All injectors, in the order in which they run. -/
def all : List Injector := [.config, .java]

def name : Injector → String
  | .config => "Config"
  | .java => "Java"

/-- The annotation that asks for the injector. -/
def annotation : Injector → String
  | .config => Annotation.injectConfig
  | .java => Annotation.injectJava

/-- An injector is asked for when its annotation says `true`, in small letters
or capitals. -/
def selected (annotations : Option (Dictionary String)) : List Injector :=
  all.filter fun injector =>
    match annotations.bind (·.get? injector.annotation) with
    | some value => Text.sameIgnoringCase value "true"
    | none => false

def inject (context : InjectionContext) (pod : Pod) : Injector → Injected
  | .config => Injection.injectConfig context pod
  | .java => Injection.injectJava context pod

/-- Runs injectors one after the other until one fails. -/
def injectAll (context : InjectionContext) (pod : Pod) :
    List Injector → Injected
  | [] => { pod }
  | injector :: rest =>
      let first := injector.inject context pod
      match first.fault with
      | some _ => first
      | none =>
          let later := injectAll context first.pod rest
          { later with skipped := first.skipped ++ later.skipped }

end Injector

end PodTelemetry
