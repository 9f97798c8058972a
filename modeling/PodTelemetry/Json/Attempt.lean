import PodTelemetry.Json.Patch

namespace PodTelemetry.Json

/-! ## Patches that fail halfway

A patch that cannot be carried out to its end is taken back: the operations
before the failing one are undone, the last one first. A move whose value finds
no new place has lost it by then, so that `attempt` gives the value left in
place together with the answer whether the patch was carried out. -/

/-- What would be lost if something were put at the place. -/
def overwritten? (path : Pointer) (value : Json) : Option Json :=
  match path.getLast? with
  | none => some value
  | some segment =>
      match value.find? path.dropLast with
      | some (.object members) => Entries.read segment members
      | _ => none

/-- When an operation is taken back, `-` stands for the last item of an
array. -/
def lastItem (path : Pointer) (value : Json) : Pointer :=
  match path.getLast?, value.find? path.dropLast with
  | some "-", some (.array items) =>
      path.dropLast ++ [toString (items.length - 1)]
  | _, _ => path

namespace Operation

/-- The operations that take back something put at a place of the value. -/
def restoring (path : Pointer) (value : Json) : Patch :=
  match overwritten? path value with
  | some lost => [.add path lost]
  | none => [.remove path]

/-- The operations that take back an operation on the value. -/
def inverse (value : Json) : Operation → Patch
  | .add path _ => restoring path value
  | .remove path => (value.find? path).toList.map (.add path)
  | .replace path _ => (value.find? path).toList.map (.replace path)
  | .move source path =>
      let lost := (removeAt source value).bind (overwritten? path)
      .move path source :: lost.toList.map (.add path)
  | .copy _ path => restoring path value
  | .test _ _ => []

/-- Takes something back with one operation, as far as that is possible. -/
def takenBack (value : Json) (undo : Operation) : Json :=
  let undo : Operation :=
    match undo with
    | .remove path => .remove (lastItem path value)
    | .move source path => .move (lastItem source value) path
    | other => other
  (undo.carriedOut? value).getD value

/-- What an operation that cannot be carried out leaves. -/
def remains (value : Json) : Operation → Json
  | .move source path =>
      if source.isPrefixOf path then value
      else (removeAt source value).getD value
  | _ => value

end Operation

namespace Patch

/-- Carries the patch out or takes it back, and tells which. -/
def attempt : Patch → Json → Json × Bool
  | [], value => (value, true)
  | operation :: rest, value =>
      match operation.carriedOut? value with
      | none => (operation.remains value, false)
      | some next =>
          match attempt rest next with
          | (result, true) => (result, true)
          | (left, false) =>
              ((operation.inverse value).foldl Operation.takenBack left, false)

/-- An attempt succeeds exactly with the patches that can be carried out, and
with the same result. -/
theorem attempt_eq_true_iff {patch : Patch} {value result : Json} :
    patch.attempt value = (result, true) ↔
      patch.carriedOut? value = some result := by
  unfold carriedOut?
  induction patch generalizing value with
  | nil => simp [attempt]
  | cons operation rest inductionHypothesis =>
      rw [List.foldlM_cons]
      cases step : operation.carriedOut? value with
      | none => simp [attempt, step]
      | some next =>
          simp only [attempt, step, Option.bind_eq_bind, Option.bind_some]
          rw [← inductionHypothesis]
          split <;> next reached => simp [reached]

end Patch

end PodTelemetry.Json
