import PodTelemetry.Proofs.Mutation.Outcome
import PodTelemetry.Session

/-!
# Admissions one after the other

A pod is admitted again and again, under circumstances that change in between.
What one admission does to the document of the pod is told by its cases.
-/

namespace PodTelemetry.Session

open PodTelemetry.Injection
open PodTelemetry.Kubernetes
open PodTelemetry.Mutation (Concerned contextOf ofAgents_cases patchFor
  transfers_patched workingCopy)

variable {session : Session} {pod : Pod}

/-- The status that is recorded on the pod. -/
def status? (session : Session) : Option String :=
  (Pod.ofJson session.pod).toOption.bind
    (·.metadata.annotation? Annotation.status)

/-! ## One admission -/

/-- What the topology comes to: the namespace has to be read, and exactly one
agent has to be listed. -/
def config? (session : Session) : Option InjectionConfig := do
  let _ ← (session.cluster (.findNamespace session.inNamespace)).toOption
  let agents ← (session.cluster .listAgents).toOption
  (InjectionConfig.ofAgents agents session.operator).toOption

/-- The ways in which an admission ends, with the document that it leaves. -/
inductive Ends
    (session : Session) (pod : Pod) :
    Except SessionFault Mutation → Json → Prop
  | unconcerned (notConcerned : ¬ Concerned pod) :
      Ends session pod (.ok .unchanged) session.pod
  | turnedDown (error : Error) (concerned : Concerned pod)
      (unclear : session.config? = none) :
      Ends session pod (.error (.turnedDown error)) session.pod
  | patched (found : Namespace) (agent : Agent) (result : Json)
      (concerned : Concerned pod)
      (isFound :
        session.cluster (.findNamespace session.inNamespace) = .ok found)
      (isListed : session.cluster .listAgents = .ok [agent])
      (ordered : result.Ordered)
      (back :
        Pod.ofJson result =
          .ok
            (workingCopy
              (contextOf session.operator session.cluster found agent pod)
              (Injector.selected pod.metadata.annotations) pod)) :
      Ends session pod
        (.ok
          (.patched
            (patchFor pod
              (workingCopy
                (contextOf session.operator session.cluster found agent pod)
                (Injector.selected pod.metadata.annotations) pod))))
        result

theorem Ends.of_patched
    {result : Except SessionFault Mutation} {document : Json}
    (ends : Ends session pod result document) {patch : Json.Patch}
    (isResult : result = .ok (.patched patch)) :
    Concerned pod ∧ document.Ordered ∧
      ∃ found agent,
        session.cluster (.findNamespace session.inNamespace) = .ok found ∧
        session.cluster .listAgents = .ok [agent] ∧
        Pod.ofJson document =
          .ok
            (workingCopy
              (contextOf session.operator session.cluster found agent pod)
              (Injector.selected pod.metadata.annotations) pod) := by
  cases ends with
  | unconcerned | turnedDown =>
      cases isResult
  | patched found agent document concerned isFound isListed ordered back =>
      exact ⟨concerned, ordered, found, agent, isFound, isListed, back⟩

theorem config?_eq_some
    {found : Namespace} {agent : Agent}
    (isFound :
      session.cluster (.findNamespace session.inNamespace) = .ok found)
    (isListed : session.cluster .listAgents = .ok [agent]) :
    session.config? =
      some (InjectionConfig.ofSpec agent.spec session.operator) := by
  simp [config?, isFound, isListed, Except.toOption,
    InjectionConfig.ofAgents]

/-- With the namespace read and one agent listed, the pod is patched. -/
theorem Ends.patched_of_concerned
    {result : Except SessionFault Mutation} {document : Json}
    (ends : Ends session pod result document) (concerned : Concerned pod)
    {found : Namespace} {agent : Agent}
    (isFound :
      session.cluster (.findNamespace session.inNamespace) = .ok found)
    (isListed : session.cluster .listAgents = .ok [agent]) :
    result =
      .ok
        (.patched
          (patchFor pod
            (workingCopy
              (contextOf session.operator session.cluster found agent pod)
              (Injector.selected pod.metadata.annotations) pod))) := by
  cases ends with
  | unconcerned notConcerned =>
      exact absurd concerned notConcerned
  | turnedDown error _ unclear =>
      rw [config?_eq_some isFound isListed] at unclear
      cases unclear
  | patched otherFound otherAgent _ _ isOther isOtherListed =>
      rw [isFound] at isOther
      cases isOther
      rw [isListed] at isOtherListed
      cases isOtherListed
      rfl

theorem decide_ends
    (ordered : session.pod.Ordered)
    (decoded : Pod.ofJson session.pod = .ok pod) :
    Ends session pod session.decide.1.result session.decide.2.pod := by
  have ends :=
    Mutation.decide_ends session.operator session.cluster
      session.inNamespace pod
  unfold decide
  rw [decoded]
  dsimp only
  generalize
    (Mutation.decide session.operator session.inNamespace pod).run
        session.cluster =
      run at ends
  obtain ⟨result, lookups, events⟩ := run
  dsimp only at ends ⊢
  cases ends with
  | unconcerned notConcerned =>
      exact .unconcerned notConcerned
  | unread concerned failed =>
      refine .turnedDown _ concerned ?_
      simp [config?, failed, Except.toOption]
  | unlisted concerned isFound failed =>
      refine .turnedDown _ concerned ?_
      simp [config?, failed, Except.toOption]
  | @unclear _ agents _ concerned isFound areListed notOne =>
      refine .turnedDown _ concerned ?_
      rcases ofAgents_cases agents session.operator with
        ⟨_, fault, refused⟩ | ⟨agent, isOne, _⟩
      · simp [config?, isFound, areListed, refused, Except.toOption]
      · exact absurd (congrArg List.length isOne) notOne
  | @patched found agent concerned isFound isListed =>
      obtain ⟨result, transfers, back⟩ :=
        transfers_patched ordered decoded concerned
          (contextOf session.operator session.cluster found agent pod)
          (Injector.selected pod.metadata.annotations)
      have carriedOut := transfers.carriedOut
      simp only [afterMutation]
      unfold patchFor
      rw [carriedOut, Option.getD_some]
      exact
        .patched found agent result concerned isFound isListed
          transfers.ordered back

theorem inNamespace_decide (session : Session) :
    session.decide.2.inNamespace = session.inNamespace := by
  unfold decide
  cases Pod.ofJson session.pod with
  | error error =>
      rfl
  | ok pod =>
      dsimp only
      cases
        ((Mutation.decide session.operator session.inNamespace pod).run
          session.cluster).result with
      | error error =>
          rfl
      | ok mutation =>
          rfl

/-! ## Many admissions -/

/-- What may be different at the next admission. -/
structure Circumstances where
  operator : OperatorConfig := {}
  cluster : Cluster

def under (session : Session) (now : Circumstances) : Session :=
  { session with operator := now.operator, cluster := now.cluster }

/-- The session after the pod was admitted under each of the circumstances,
each patch being carried out before the next admission. -/
def admissions (session : Session) (all : List Circumstances) : Session :=
  all.foldl (fun reached now => (reached.under now).decide.2) session

theorem admissions_append
    (session : Session) (earlier : List Circumstances) (now : Circumstances) :
    session.admissions (earlier ++ [now]) =
      ((session.admissions earlier).under now).decide.2 := by
  simp [admissions]

theorem config?_under
    {other : Session} (same : other.inNamespace = session.inNamespace)
    (now : Circumstances) :
    (other.under now).config? = (session.under now).config? := by
  cases other
  cases session
  cases same
  rfl

/-! ## A pod that is about to be created -/

/-- The pod asks for the exporter to be configured; its name is still to be
generated. -/
def sampleDocument : Json :=
  .object
    [("metadata", .object
        [("annotations", .object
            [("otel.splunk.com/inject-config", .string "true")]),
          ("generateName", .string "web-")]),
      ("spec", .object
        [("containers", .array [.object [("name", .string "app")]])])]

/-- The collector runs on each node, or there is none in the cluster. -/
def sampleAgent (onNodes : Bool) : Agent where
  metadata := {}
  spec :=
    { clusterName := "prod", realm := "us0"
      agent := { enabled := some onNodes } }

def sampleTopology (onNodes : Bool) : Circumstances where
  cluster
    | .findNamespace _ => .ok Mutation.sampleNamespace
    | .listAgents => .ok [sampleAgent onNodes]
    | .findReplicaSet _ _ => .error ⟨.kubernetes, "not found"⟩

def sampleSession : Session where
  inNamespace := "shop"
  pod := sampleDocument
  cluster := (sampleTopology true).cluster

def samplePod : Pod where
  metadata :=
    { annotations :=
        some
          (Dictionary.ofList [("otel.splunk.com/inject-config", "true")])
      generateName := some "web-" }
  spec := some { containers := [{ name := "app" }] }

theorem ofJson_sampleSession :
    Pod.ofJson sampleSession.pod = .ok samplePod := by
  decide +kernel

theorem ordered_sampleSession : sampleSession.pod.Ordered := by
  simp only [sampleSession, sampleDocument, Json.Ordered,
    Json.OrderedMembers, Json.OrderedItems, Entries.Ascending]
  decide +kernel

end PodTelemetry.Session
