import Mathlib.Data.List.Nodup
import PodTelemetry.Proofs.Attributes.Derivation

/-!
# The owners that attributes show

Owners are followed in layers: first the references of the pod, then those of
the replica sets among them, and so on.  A run of the derivation is described
by its layers, whatever the cluster holds: owners in a circle, replica sets
that cannot be read, several owners of one kind.
-/

namespace PodTelemetry

open Kubernetes (Namespace OwnerReference Pod)

/-! ## Kinds of owners -/

namespace OwnerKind

/-- Whether an owner is of the kind, in small letters or capitals. -/
def covers (kind : OwnerKind) (owner : OwnerReference) : Bool :=
  Text.sameIgnoringCase owner.kind kind.name

theorem mem_all (kind : OwnerKind) : kind ∈ all := by
  cases kind <;> decide

theorem name_injective : Function.Injective name := by
  have distinct : (all.map name).Nodup := by
    decide
  exact fun first second =>
    List.inj_on_of_nodup_map distinct first.mem_all second.mem_all

theorem lowered_eq_name_iff {kind : OwnerKind} {text : String} :
    kind.name = Text.lowered text ↔
      Text.sameIgnoringCase text kind.name = true := by
  have small :
      kind.name.toList.map Char.toLower = kind.name.toList := by
    cases kind <;> decide
  rw [Text.sameIgnoringCase, small, beq_iff_eq, Text.lowered,
    ← String.toList_inj, String.toList_ofList]
  exact eq_comm

theorem ofText?_eq_some_iff {kind : OwnerKind} {owner : OwnerReference} :
    ofText? owner.kind = some kind ↔ kind.covers owner = true := by
  rw [covers, ← lowered_eq_name_iff]
  constructor
  · intro found
    simpa using List.find?_some found
  · intro named
    cases found : ofText? owner.kind with
    | none =>
        have absent := List.find?_eq_none.1 found kind kind.mem_all
        simp [named] at absent
    | some other =>
        have otherNamed : other.name = Text.lowered owner.kind := by
          simpa using List.find?_some found
        rw [name_injective (otherNamed.trans named.symm)]

end OwnerKind

namespace Attributes

variable {cluster : Cluster} {inNamespace : String}

/-! ## Pairs put one after the other -/

/-- The pairs set one after the other; those with an empty value are left
out. -/
def putAll
    (attributes : Attributes) (pairs : List (String × String)) : Attributes :=
  pairs.foldl (fun done pair => put done pair.1 pair.2) attributes

/-- Whether a pair has a value. -/
def hasValue (pair : String × String) : Bool := pair.2 ≠ ""

theorem putAll_eq_foldl_insert
    (attributes : Attributes) (pairs : List (String × String)) :
    putAll attributes pairs =
      (pairs.filter hasValue).foldl
        (fun done pair => done.insert pair.1 pair.2) attributes := by
  induction pairs generalizing attributes with
  | nil =>
      rfl
  | cons pair rest inductionHypothesis =>
      have step :
          putAll attributes (pair :: rest) =
            putAll (put attributes pair.1 pair.2) rest := rfl
      rw [step, inductionHypothesis, put]
      by_cases empty : pair.2 = ""
      · rw [if_pos empty, List.filter_cons_of_neg (by simp [hasValue, empty])]
      · rw [if_neg empty, List.filter_cons_of_pos (by simp [hasValue, empty])]
        rfl

theorem get?_putAll
    (attributes : Attributes) (pairs : List (String × String))
    (key : String) :
    (putAll attributes pairs).get? key =
      (Entries.readLast key (pairs.filter hasValue)).or
        (attributes.get? key) := by
  rw [putAll_eq_foldl_insert, Dictionary.get?_foldl_insert]

theorem notEmpty_of_readLast
    {key value : String} {pairs : List (String × String)}
    (found : Entries.readLast key (pairs.filter hasValue) = some value) :
    value ≠ "" := by
  have member := List.mem_reverse.1 (Entries.mem_of_read found)
  simpa [hasValue] using (List.mem_filter.1 member).2

/-- When no key is there twice, each pair with a value is found. -/
theorem readLast_hasValue_eq_some_iff
    {pairs : List (String × String)}
    (distinct : (pairs.map Prod.fst).Nodup) {key value : String} :
    Entries.readLast key (pairs.filter hasValue) = some value ↔
      (key, value) ∈ pairs ∧ value ≠ "" := by
  have remaining : ((pairs.filter hasValue).map Prod.fst).Nodup :=
    distinct.sublist (List.filter_sublist.map Prod.fst)
  rw [Entries.readLast_eq_some_iff remaining, List.mem_filter]
  simp [hasValue]

theorem putAll_append
    (attributes : Attributes) (first second : List (String × String)) :
    putAll attributes (first ++ second) =
      putAll (putAll attributes first) second :=
  List.foldl_append

/-! ## What an owner shows -/

/-- What attributes show of an owner. -/
inductive OwnerField
  | name
  | uid
  deriving DecidableEq

namespace OwnerField

def all : List OwnerField := [.name, .uid]

def key (kind : OwnerKind) : OwnerField → String
  | .name => kind.nameKey
  | .uid => kind.uidKey

def valueIn (owner : OwnerReference) : OwnerField → String
  | .name => owner.name
  | .uid => owner.uid

theorem mem_all (field : OwnerField) : field ∈ all := by
  cases field <;> decide

theorem key_eq_iff {kind other : OwnerKind} {field otherField : OwnerField} :
    otherField.key other = field.key kind ↔
      other = kind ∧ otherField = field := by
  have apart :
      ∀ other ∈ OwnerKind.all, ∀ kind ∈ OwnerKind.all,
        ∀ otherField ∈ all, ∀ field ∈ all,
          otherField.key other = field.key kind →
            other = kind ∧ otherField = field := by
    decide +kernel
  constructor
  · exact
      apart other other.mem_all kind kind.mem_all otherField
        otherField.mem_all field field.mem_all
  · rintro ⟨rfl, rfl⟩
    rfl

end OwnerField

/-- What an owner shows, if its kind is a known one. -/
def pairsOf (owner : OwnerReference) : List (String × String) :=
  match OwnerKind.ofText? owner.kind with
  | some kind =>
      OwnerField.all.map fun field => (field.key kind, field.valueIn owner)
  | none => []

theorem pairsOf_of_covers
    {kind : OwnerKind} {owner : OwnerReference}
    (covered : kind.covers owner = true) :
    pairsOf owner =
      OwnerField.all.map fun field =>
        (field.key kind, field.valueIn owner) := by
  rw [pairsOf, OwnerKind.ofText?_eq_some_iff.2 covered]

theorem mem_pairsOf_iff {owner : OwnerReference} {pair : String × String} :
    pair ∈ pairsOf owner ↔
      ∃ (kind : OwnerKind) (field : OwnerField),
        kind.covers owner = true ∧
          pair = (field.key kind, field.valueIn owner) := by
  constructor
  · intro member
    cases known : OwnerKind.ofText? owner.kind with
    | none =>
        rw [pairsOf, known] at member
        cases member
    | some kind =>
        have covered := OwnerKind.ofText?_eq_some_iff.1 known
        rw [pairsOf_of_covers covered] at member
        obtain ⟨field, _, rfl⟩ := List.mem_map.1 member
        exact ⟨kind, field, covered, rfl⟩
  · rintro ⟨kind, field, covered, rfl⟩
    rw [pairsOf_of_covers covered]
    exact List.mem_map_of_mem field.mem_all

theorem nodup_pairsOf (owner : OwnerReference) :
    ((pairsOf owner).map Prod.fst).Nodup := by
  cases known : OwnerKind.ofText? owner.kind with
  | none =>
      rw [pairsOf, known]
      exact List.nodup_nil
  | some kind =>
      have injective :
          Function.Injective fun field : OwnerField => field.key kind :=
        fun _ _ same => (OwnerField.key_eq_iff.1 same).2
      have distinct : OwnerField.all.Nodup := by
        decide
      rw [pairsOf, known, List.map_map]
      exact distinct.map injective

/-! ## Layers of owners -/

/-- The owners of a replica set, none when it cannot be read. -/
def ownersRead
    (cluster : Cluster) (inNamespace : String) (owner : OwnerReference) :
    List OwnerReference :=
  match cluster (.findReplicaSet inNamespace owner.name) with
  | .ok replicaSet => replicaSet.metadata.owners
  | .error _ => []

/-- The owners of the replica sets among the owners, in order. -/
def ownersAbove
    (cluster : Cluster) (inNamespace : String)
    (owners : List OwnerReference) : List OwnerReference :=
  (owners.filter OwnerKind.replicaSet.covers).flatMap
    (ownersRead cluster inNamespace)

/-- The owners so many hops away. -/
def ownerLayer
    (cluster : Cluster) (inNamespace : String)
    (owners : List OwnerReference) : Nat → List OwnerReference
  | 0 => owners
  | hops + 1 =>
      ownersAbove cluster inNamespace
        (ownerLayer cluster inNamespace owners hops)

/-- The owners fewer than so many hops away, the nearest first. -/
def ownersWithin
    (cluster : Cluster) (inNamespace : String)
    (owners : List OwnerReference) (hops : Nat) : List OwnerReference :=
  (List.range hops).flatMap (ownerLayer cluster inNamespace owners)

/-- The lookups for the replica sets among the owners. -/
def lookupsFor
    (inNamespace : String) (owners : List OwnerReference) : List Lookup :=
  (owners.filter OwnerKind.replicaSet.covers).map fun owner =>
    .findReplicaSet inNamespace owner.name

/-- What is reported of an owner: that it is a replica set and cannot be read,
or that its kind is not a known one. -/
def reportsOn
    (cluster : Cluster) (inNamespace : String) (owner : OwnerReference) :
    List Event :=
  if OwnerKind.replicaSet.covers owner then
    match cluster (.findReplicaSet inNamespace owner.name) with
    | .ok _ => []
    | .error error => [unreadableOwner inNamespace owner error]
  else if OwnerKind.all.any fun kind => kind.covers owner then []
  else [ignoredOwner owner]

theorem lookupsFor_append
    (inNamespace : String) (first second : List OwnerReference) :
    lookupsFor inNamespace (first ++ second) =
      lookupsFor inNamespace first ++ lookupsFor inNamespace second := by
  simp [lookupsFor]

theorem ownerLayer_above
    (owners : List OwnerReference) (hops : Nat) :
    ownerLayer cluster inNamespace
        (ownersAbove cluster inNamespace owners) hops =
      ownerLayer cluster inNamespace owners (hops + 1) := by
  induction hops with
  | zero =>
      rfl
  | succ hops inductionHypothesis =>
      rw [ownerLayer, inductionHypothesis]
      rfl

theorem ownerLayer_nil (hops : Nat) :
    ownerLayer cluster inNamespace [] hops = [] := by
  induction hops with
  | zero =>
      rfl
  | succ hops inductionHypothesis =>
      rw [ownerLayer, inductionHypothesis]
      rfl

theorem ownersWithin_succ
    (owners : List OwnerReference) (hops : Nat) :
    ownersWithin cluster inNamespace owners (hops + 1) =
      owners ++
        ownersWithin cluster inNamespace
          (ownersAbove cluster inNamespace owners) hops := by
  rw [ownersWithin, List.range_succ_eq_map, List.flatMap_cons,
    List.flatMap_map, ownersWithin]
  have later :
      ∀ depth,
        ownerLayer cluster inNamespace owners depth.succ =
          ownerLayer cluster inNamespace
            (ownersAbove cluster inNamespace owners) depth :=
    fun depth => (ownerLayer_above owners depth).symm
  simp only [later]
  rfl

theorem ownersWithin_nil (hops : Nat) :
    ownersWithin cluster inNamespace [] hops = [] := by
  simp [ownersWithin, ownerLayer_nil]

/-! ## Runs along the owners -/

/-- One hop, owner by owner. -/
theorem run_hop
    (cluster : Cluster) (inNamespace : String) (attributes : Attributes)
    (gathered owners : List OwnerReference) :
    (hop inNamespace attributes gathered owners).run cluster =
      { result :=
          (putAll attributes (owners.flatMap pairsOf),
            gathered ++ ownersAbove cluster inNamespace owners)
        lookups := lookupsFor inNamespace owners
        events := owners.flatMap (reportsOn cluster inNamespace) } := by
  induction owners generalizing attributes gathered with
  | nil =>
      simp [hop, Procedure.run, putAll, ownersAbove, lookupsFor]
  | cons owner rest inductionHypothesis =>
      have isReplicaSet :
          OwnerKind.ofText? owner.kind = some .replicaSet ↔
            OwnerKind.replicaSet.covers owner = true :=
        OwnerKind.ofText?_eq_some_iff
      cases known : OwnerKind.ofText? owner.kind with
      | none =>
          have covered : ∀ kind, OwnerKind.covers kind owner = false := by
            intro kind
            rw [Bool.eq_false_iff, ne_eq, ← OwnerKind.ofText?_eq_some_iff,
              known]
            exact (Option.some_ne_none kind).symm
          rw [hop, known]
          simp only [Procedure.run_andThen, Procedure.run_log,
            inductionHypothesis]
          simp [pairsOf, known, ownersAbove, lookupsFor, reportsOn, covered]
      | some kind =>
          have covered : kind.covers owner = true :=
            OwnerKind.ofText?_eq_some_iff.1 known
          have someCovers :
              (OwnerKind.all.any fun kind => kind.covers owner) = true :=
            List.any_eq_true.2 ⟨kind, kind.mem_all, covered⟩
          have recorded :
              putOwner attributes kind owner =
                putAll attributes (pairsOf owner) := by
            rw [pairsOf, known]
            rfl
          cases kind with
          | replicaSet =>
              rw [hop, known]
              cases answer :
                  cluster (.findReplicaSet inNamespace owner.name) with
              | ok replicaSet =>
                  simp only [Procedure.run_andThen,
                    Procedure.run_replicaSetCalled, answer,
                    inductionHypothesis, recorded, ← putAll_append]
                  simp [ownersAbove, lookupsFor, reportsOn, covered, answer,
                    ownersRead]
              | error error =>
                  simp only [Procedure.run_andThen,
                    Procedure.run_replicaSetCalled, answer,
                    Procedure.run_log,
                    inductionHypothesis, recorded, ← putAll_append]
                  simp [ownersAbove, lookupsFor, reportsOn, covered, answer,
                    ownersRead]
          | deployment | statefulSet | daemonSet | job | cronJob =>
              have other : OwnerKind.replicaSet.covers owner = false := by
                rw [Bool.eq_false_iff, ne_eq, ← isReplicaSet, known]
                decide
              rw [hop, known]
              simp only [inductionHypothesis, recorded, ← putAll_append]
              simp [ownersAbove, lookupsFor, reportsOn, other, someCovers]

/-- All hops, one after the other: the last warning is given when there are
owners farther away. -/
theorem run_followOwners
    (cluster : Cluster) (inNamespace : String) (hops : Nat)
    (attributes : Attributes) (owners : List OwnerReference) :
    let within := ownersWithin cluster inNamespace owners hops
    (followOwners inNamespace hops attributes owners).run cluster =
      { result := putAll attributes (within.flatMap pairsOf)
        lookups := lookupsFor inNamespace within
        events :=
          within.flatMap (reportsOn cluster inNamespace) ++
            if ownerLayer cluster inNamespace owners hops = [] then []
            else [chainTooLong inNamespace] } := by
  intro within
  induction hops generalizing attributes owners with
  | zero =>
      cases owners with
      | nil =>
          rfl
      | cons owner others =>
          rfl
  | succ hops inductionHypothesis =>
      cases owners with
      | nil =>
          have nothing : within = [] := ownersWithin_nil (hops + 1)
          rw [nothing, ownerLayer_nil]
          rfl
      | cons owner others =>
          have whole : within = _ :=
            ownersWithin_succ (owner :: others) hops
          rw [followOwners]
          simp only [Procedure.run_andThen, run_hop, List.nil_append,
            inductionHypothesis, ← putAll_append, ownerLayer_above]
          simp only [whole, lookupsFor_append, List.flatMap_append,
            List.append_assoc]

end Attributes

end PodTelemetry
