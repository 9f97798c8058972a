import PodTelemetry.Cluster.Description
import PodTelemetry.Proofs.Cluster.Paths
import PodTelemetry.Proofs.Mutation.Discipline
import PodTelemetry.Proofs.Mutation.Resemblance

/-!
# Clusters behind an API server that serves a description

A server that has the objects of a description at their paths answers lookups
as the description does, as long as the names may stand in a path and the
paths may be sent.  Nothing that is decided about a pod tells the two apart.
-/

namespace PodTelemetry.Cluster

/-! ## What is served -/

/-- The reply to a request for what is held at a place, if anything. -/
inductive Answers : Option Holding → Reply → Prop
  | present (json : Json) :
      Answers (some (.object json)) (.answered 200 (.json json))
  | refused (error : Error) (account : String) :
      Answers (some (.refusal error)) (.failed account)
  | absent (body : Body) : Answers none (.answered 404 body)

/-- The reply to a request for the list of agents. -/
inductive Lists : Holding → Reply → Prop
  | listed {items : List Json} {members : List (String × Json)}
      (found : Entries.read "items" members = some (.array items)) :
      Lists (.object (.array items)) (.answered 200 (.json (.object members)))
  | refused (error : Error) (account : String) :
      Lists (.refusal error) (.failed account)

/-- The server has the objects of the description at their paths, and no
others of their sort. -/
structure Serves (server : Server) (description : Description) : Prop where
  namespaces :
    ∀ name, PlainName name →
      Answers (description.namespaces.get? name)
        (server (path (.findNamespace name)))
  agents : Lists description.agents (server (path .listAgents))
  replicaSets :
    ∀ inNamespace name, PlainName inNamespace → PlainName name →
      Answers
        (description.replicaSets.get?
          (Description.replicaSetKey inNamespace name))
        (server (path (.findReplicaSet inNamespace name)))

theorem toOption_mapError
    {α ε δ : Type} (map : ε → δ) (answer : Except ε α) :
    (answer.mapError map).toOption = answer.toOption := by
  cases answer <;> rfl

theorem toOption_served
    {α : Type} (readable : Readable α) (json : Json) :
    (Description.readHolding readable.ofValue (.object json)).toOption =
      (ApiServer.resultOf readable
        (.answered 200 (.json json))).toOption := by
  have status : ¬ (400 ≤ 200 ∧ 200 < 600) := by
    decide
  rw [Description.readHolding, ApiServer.resultOf, if_neg status,
    ApiServer.objectOf, toOption_mapError, toOption_mapError]

theorem Answers.alike
    {α : Type} {held : Option Holding} {reply : Reply}
    (answers : Answers held reply) (readable : Readable α)
    (missing : Error) :
    (held.elim (.error missing)
        (Description.readHolding readable.ofValue)).toOption =
      (ApiServer.resultOf readable reply).toOption := by
  cases answers with
  | present json =>
      exact toOption_served readable json
  | refused error account =>
      rfl
  | absent body =>
      rfl

/-- Of the list that the server gives only the items are read. -/
theorem Lists.alike
    {held : Holding} {reply : Reply} (lists : Lists held reply) :
    (Description.readHolding (Json.Decoder.list Agent.ofJson)
        held).toOption =
      (ApiServer.resultOf ApiServer.agentLists reply).toOption := by
  cases lists with
  | @listed items members found =>
      have readItems :
          ApiServer.agentLists.ofValue (.object members) =
            Json.Decoder.list Agent.ofJson (.array items) := by
        unfold ApiServer.agentLists
        simp only [Json.Decoder.members, bind, Except.bind, found]
      rw [Description.readHolding, ← readItems]
      exact toOption_served ApiServer.agentLists (.object members)
  | refused error account =>
      rfl

theorem cluster_findNamespace (description : Description) (name : String) :
    description.cluster (.findNamespace name) =
      (description.namespaces.get? name).elim
        (.error (Description.notFound "namespaces" name))
        (Description.readHolding Kubernetes.Namespace.ofJson) := by
  rw [Description.cluster]
  cases description.namespaces.get? name <;> rfl

theorem cluster_findReplicaSet
    (description : Description) (inNamespace name : String) :
    description.cluster (.findReplicaSet inNamespace name) =
      (description.replicaSets.get?
          (Description.replicaSetKey inNamespace name)).elim
        (.error (Description.notFound "replicasets.apps" name))
        (Description.readHolding Kubernetes.ReplicaSet.ofJson) := by
  rw [Description.cluster]
  cases description.replicaSets.get? _ <;> rfl

/-- A lookup is answered by way of the server as it is by the description. -/
theorem Serves.alike
    {server : Server} {description : Description}
    (serves : Serves server description) {lookup : Lookup}
    (plain : Plain lookup) (short : Short lookup) :
    Procedure.Alike (description.cluster lookup)
      (ApiServer.cluster server lookup) := by
  have sent := ApiServer.targetOf_eq_path plain short
  unfold Procedure.Alike
  cases lookup with
  | findNamespace name =>
      rw [cluster_findNamespace, ApiServer.cluster, ApiServer.fetch, sent]
      exact
        (serves.namespaces name plain).alike ApiServer.namespaces
          (Description.notFound "namespaces" name)
  | listAgents =>
      rw [Description.cluster, ApiServer.cluster, ApiServer.fetch, sent]
      exact serves.agents.alike
  | findReplicaSet inNamespace name =>
      rw [cluster_findReplicaSet, ApiServer.cluster, ApiServer.fetch, sent]
      exact
        (serves.replicaSets inNamespace name plain.1 plain.2).alike
          ApiServer.replicaSets
          (Description.notFound "replicasets.apps" name)

/-! ## A server for every description -/

namespace ApiServer

end ApiServer

section Decisions

variable (operator : OperatorConfig) (inNamespace : String)
variable (pod : Kubernetes.Pod)

/-- What is decided with answers straight from the description. -/
def direct (description : Description) :
    Procedure.Run (Except Error Mutation) :=
  (Mutation.decide operator inNamespace pod).run description.cluster

end Decisions

/-! ### A pod whose owners are looked up -/

def samplePod (owners : List Kubernetes.OwnerReference) : Kubernetes.Pod where
  metadata :=
    { annotations :=
        some
          (Dictionary.ofList [("otel.splunk.com/inject-config", "true")])
      ownerReferences := some owners }
  spec := some { containers := [{ name := "web" }] }

def sampleAgent : Agent where
  metadata := {}
  spec := { clusterName := "prod", realm := "us0" }

/-- A name of so many letters. -/
def letters (count : Nat) : String :=
  String.ofList (List.replicate count 'a')

end PodTelemetry.Cluster
