import PodTelemetry.Cluster.ApiServer
import PodTelemetry.Proofs.Text.Pieces

/-!
# The paths of lookups

What is looked up stands under a path that its names are part of.  Names of
objects need no escapes, and the request for a lookup with such names goes to
its path, unless the path is too long to be sent at all.
-/

namespace PodTelemetry.Cluster

/-! ## Paths -/

/-- The path under which the answer to a lookup is served. -/
def path : Lookup → String
  | .findNamespace name => "/api/v1/namespaces/" ++ name
  | .listAgents => "/apis/otel.splunk.com/v1alpha1/agents?"
  | .findReplicaSet inNamespace name =>
      "/apis/apps/v1/namespaces/" ++ inNamespace ++ "/replicasets/" ++ name

/-- Small letters, digits, hyphens and dots. -/
def NameCharacter (c : Char) : Prop :=
  ('a' ≤ c ∧ c ≤ 'z') ∨ ('0' ≤ c ∧ c ≤ '9') ∨ c = '-' ∨ c = '.'

instance : DecidablePred NameCharacter := fun c =>
  inferInstanceAs
    (Decidable (('a' ≤ c ∧ c ≤ 'z') ∨ ('0' ≤ c ∧ c ≤ '9') ∨ c = '-' ∨ c = '.'))

/-- Names of objects: not empty, and of certain characters only. -/
def PlainName (name : String) : Prop :=
  name ≠ "" ∧ ∀ c ∈ name.toList, NameCharacter c

instance : DecidablePred PlainName := fun name =>
  -- The characters of the name are gone through, not all that there are.
  have := List.decidableBAll NameCharacter name.toList
  inferInstanceAs
    (Decidable (name ≠ "" ∧ ∀ c ∈ name.toList, NameCharacter c))

/-- The names in a lookup are names of objects. -/
def Plain : Lookup → Prop
  | .findNamespace name => PlainName name
  | .listAgents => True
  | .findReplicaSet inNamespace name => PlainName inNamespace ∧ PlainName name

instance : DecidablePred Plain
  | .findNamespace name => inferInstanceAs (Decidable (PlainName name))
  | .listAgents => .isTrue trivial
  | .findReplicaSet inNamespace name =>
      inferInstanceAs (Decidable (PlainName inNamespace ∧ PlainName name))

/-- The path is short enough for a request. -/
def Short (lookup : Lookup) : Prop :=
  (path lookup).utf8ByteSize ≤ ApiServer.targetLimit

instance : DecidablePred Short := fun lookup =>
  inferInstanceAs
    (Decidable ((path lookup).utf8ByteSize ≤ ApiServer.targetLimit))

theorem NameCharacter.allowedInPath
    {c : Char} (character : NameCharacter c) :
    ApiServer.allowedInPath c = true := by
  unfold ApiServer.allowedInPath
  simp only [Bool.or_eq_true, Bool.and_eq_true, decide_eq_true_eq]
  rcases character with ⟨lowest, highest⟩ | ⟨lowest, highest⟩ | rfl | rfl
  · have below : c ≤ '~' := Char.le_trans highest (by decide)
    simp [lowest, below]
  · have above : '$' ≤ c := Char.le_trans (by decide) lowest
    have below : c ≤ ';' := Char.le_trans highest (by decide)
    simp [above, below]
  · decide
  · decide

namespace ApiServer

/-- A path of allowed characters is sent as it is. -/
theorem target?_of_allowed
    {text : List Char}
    (allowed : ∀ c ∈ text, allowedInPath c = true) :
    target? text = some text := by
  induction text with
  | nil =>
      rfl
  | cons c rest inductionHypothesis =>
      obtain ⟨now, later⟩ := List.forall_mem_cons.1 allowed
      have noFragment : c ≠ '#' := by
        rintro rfl
        exact absurd now (by decide)
      have noQuery : c ≠ '?' := by
        rintro rfl
        exact absurd now (by decide)
      rw [target?, if_neg noFragment, if_neg noQuery, if_pos now,
        inductionHypothesis later]
      rfl

theorem namedTarget_eq_ok
    {collection name : String} (plain : PlainName name)
    (allowed : ∀ c ∈ collection.toList, allowedInPath c = true)
    (short : (collection ++ "/" ++ name).utf8ByteSize ≤ targetLimit) :
    namedTarget collection name = .ok (collection ++ "/" ++ name) := by
  have whole :
      ∀ c ∈ (collection ++ "/" ++ name).toList, allowedInPath c = true := by
    intro c member
    rw [String.toList_append, String.toList_append, List.mem_append,
      List.mem_append] at member
    rcases member with (inCollection | isSlash) | inName
    · exact allowed c inCollection
    · rw [List.mem_singleton.1 isSlash]
      decide
    · exact (plain.2 c inName).allowedInPath
  unfold namedTarget
  simp only [if_neg plain.1, if_neg (Nat.not_lt.2 short),
    target?_of_allowed whole, String.ofList_toList]

theorem targetOf_eq_path
    {lookup : Lookup} (plain : Plain lookup) (short : Short lookup) :
    targetOf lookup = .ok (path lookup) := by
  cases lookup with
  | findNamespace name =>
      have allowed :
          ∀ c ∈ "/api/v1/namespaces".toList, allowedInPath c = true := by
        rw [← List.all_eq_true]
        decide
      exact namedTarget_eq_ok plain allowed short
  | listAgents =>
      rfl
  | findReplicaSet inNamespace name =>
      have allowed :
          ∀ c ∈
              ("/apis/apps/v1/namespaces/" ++ inNamespace ++
                "/replicasets").toList,
            allowedInPath c = true := by
        have around :
            (∀ c ∈ "/apis/apps/v1/namespaces/".toList,
              allowedInPath c = true) ∧
            ∀ c ∈ "/replicasets".toList, allowedInPath c = true := by
          rw [← List.all_eq_true, ← List.all_eq_true]
          decide
        intro c member
        rw [String.toList_append, String.toList_append, List.mem_append,
          List.mem_append] at member
        rcases member with (before | inName) | behind
        · exact around.1 c before
        · exact (plain.1.2 c inName).allowedInPath
        · exact around.2 c behind
      have whole :
          "/apis/apps/v1/namespaces/" ++ inNamespace ++ "/replicasets" ++
              "/" ++ name =
            path (.findReplicaSet inNamespace name) := by
        have slash : "/replicasets/" = "/replicasets" ++ "/" := by
          decide
        change _ =
          "/apis/apps/v1/namespaces/" ++ inNamespace ++ "/replicasets/" ++ name
        simp only [slash, String.append_assoc]
      rw [Short, ← whole] at short
      rw [← whole]
      exact namedTarget_eq_ok plain.2 allowed short

end ApiServer

/-! ## The segments of a path -/

end PodTelemetry.Cluster
