import PodTelemetry.Injection
import PodTelemetry.Json.Patch
import PodTelemetry.Text.Quoted

namespace PodTelemetry

open Kubernetes (Namespace Pod)

/-! ## Deciding what becomes of a pod -/

/-- The outcome for a pod that is not turned down. -/
inductive Mutation where
  | unchanged
  | patched (patch : Json.Patch)
  deriving DecidableEq, Repr

namespace Mutation

/-! ### The record of the outcome -/

/-- Status and reason as annotations; success leaves no reason. -/
def recordOutcome (fault : Option InjectionFault) (pod : Pod) : Pod :=
  let annotations := pod.metadata.annotations.getD Dictionary.empty
  let recorded :=
    match fault with
    | none =>
        (annotations.insert Annotation.status Status.success).erase
          Annotation.reason
    | some fault =>
        (annotations.insert Annotation.status Status.error).insert
          Annotation.reason fault.error.text
  { pod with metadata := { pod.metadata with annotations := some recorded } }

/-- The pod after the injectors ran and the outcome was recorded. -/
def workingCopy (context : InjectionContext) (injectors : List Injector)
    (pod : Pod) : Pod :=
  let injected := Injector.injectAll context pod injectors
  recordOutcome injected.fault injected.pod

/-- The operations that make the working copy of the pod. -/
def patchFor (pod working : Pod) : Json.Patch :=
  Json.differences pod.toJson working.toJson

/-! ### Events -/

def shownName (pod : Pod) : FieldValue :=
  .text (Text.quotedOption pod.metadata.name)

def notAskedFor (pod : Pod) : Event where
  level := .debug
  message := "No injection annotations, allowing unchanged"
  fields := [("pod", shownName pod)]

def withoutContainers (pod : Pod) : Event where
  level := .info
  message := "Pod has no containers, allowing unchanged"
  fields := [("pod", shownName pod)]

def attributeSkipped (piece : String) : Event where
  level := .info
  message := "Skipping invalid resource attribute"
  fields := [("attribute", .text piece)]

def injectionDone (inNamespace : String) (pod : Pod)
    (injectors : List Injector) (config : InjectionConfig) : Event where
  level := .info
  message := "Injected telemetry configuration"
  fields :=
    [ ("namespace", .text inNamespace), ("pod", shownName pod),
      ("injectors", .text (Text.bracketed (injectors.map Injector.name))),
      ("exporter", .text config.exporter.name) ]

def injectionFailed (inNamespace : String) (pod : Pod)
    (fault : InjectionFault) : Event where
  level := .warn
  message := "Injection failed, admitting pod with failure annotation"
  fields :=
    [ ("namespace", .text inNamespace), ("pod", shownName pod),
      ("error", .text fault.error.text) ]

/-! ### The decision -/

def namespaceUnread (inNamespace : String) (error : Error) : Error :=
  ⟨.namespaceLookup, s!"unable to get namespace {inNamespace}: {error.text}"⟩

/-- Injects into a pod whose namespace and topology are known. -/
def injectInto (inNamespace : String) (namespaceFound : Namespace) (pod : Pod)
    (injectors : List Injector) (config : InjectionConfig) :
    Procedure Mutation := do
  let attributes ← Attributes.derive namespaceFound pod
  let context : InjectionContext := { config, attributes }
  let injected := Injector.injectAll context pod injectors
  Procedure.logAll (injected.skipped.map attributeSkipped)
  Procedure.log <|
    match injected.fault with
    | none => injectionDone inNamespace pod injectors config
    | some fault => injectionFailed inNamespace pod fault
  return .patched (patchFor pod (workingCopy context injectors pod))

/-- Decides about a pod that is to run in the namespace. A pod that asks for
nothing, or that has no containers, stays as it is, and nothing is looked up
for it. Otherwise the namespace and the topology have to be known; a failed
injection is recorded on the pod and does not keep it from running. -/
def decide (operator : OperatorConfig) (inNamespace : String) (pod : Pod) :
    Procedure (Except Error Mutation) := do
  let injectors := Injector.selected pod.metadata.annotations
  if injectors.isEmpty then
    Procedure.log (notAskedFor pod)
    return .ok .unchanged
  else if pod.firstContainer?.isNone then
    Procedure.log (withoutContainers pod)
    return .ok .unchanged
  else
    match ← Procedure.namespaceCalled inNamespace with
    | .error error => return .error (namespaceUnread inNamespace error)
    | .ok namespaceFound =>
        match ← Procedure.agents with
        | .error error => return .error (TopologyFault.unlisted error).error
        | .ok agents =>
            match InjectionConfig.ofAgents agents operator with
            | .error fault => return .error fault.error
            | .ok config =>
                let mutation ←
                  injectInto inNamespace namespaceFound pod injectors config
                return .ok mutation

end Mutation

end PodTelemetry
