import PodTelemetry.Json.Pointer

namespace PodTelemetry.Json

/-! ## Patches

A patch is a list of operations, carried out in order. `differences` compares
two values and gives a patch from the one to the other; `carriedOut?` carries a
patch out, all of it or none. -/

/-- One step of a patch. -/
inductive Operation where
  | add (path : Pointer) (value : Json)
  | remove (path : Pointer)
  | replace (path : Pointer) (value : Json)
  | move (source path : Pointer)
  | copy (source path : Pointer)
  | test (path : Pointer) (value : Json)
  deriving DecidableEq, Repr

abbrev Patch := List Operation

/-! ### Carrying patches out -/

/-- Changes the child of a container that a segment names. -/
def updateChild (change : Json → Option Json) (segment : String) :
    Json → Option Json
  | .object members => do
      let child ← Entries.read segment members
      let changed ← change child
      return .object (Entries.set segment changed members)
  | .array items => do
      let index ← index? segment
      let child ← items[index]?
      let changed ← change child
      return .array (items.set index changed)
  | _ => none

/-- Changes the value at a place. -/
def updateAt (change : Json → Option Json) : Pointer → Json → Option Json
  | [], value => change value
  | segment :: rest, value => updateChild (updateAt change rest) segment value

/-- Changes the container of a place, given the place's own segment. -/
def updateParent (change : String → Json → Option Json) :
    Pointer → Json → Option Json
  | [], _ => none
  | [segment], value => change segment value
  | segment :: next :: rest, value =>
      updateChild (updateParent change (next :: rest)) segment value

/-- Puts a member into an object, over one with the key, or an item into an
array, before the one at the index; `-` and the length of an array stand for
its end. -/
def addChild (child : Json) (segment : String) : Json → Option Json
  | .object members => some (.object (Entries.set segment child members))
  | .array items =>
      if segment = "-" then some (.array (items ++ [child]))
      else do
        let index ← index? segment
        if index ≤ items.length then
          some (.array (items.take index ++ child :: items.drop index))
        else none
  | _ => none

/-- Takes a member or an item out; it has to be there. -/
def removeChild (segment : String) : Json → Option Json
  | .object members => do
      let _ ← Entries.read segment members
      return .object (Entries.drop segment members)
  | .array items => do
      let index ← index? segment
      if index < items.length then some (.array (items.eraseIdx index))
      else none
  | _ => none

def addAt (path : Pointer) (child value : Json) : Option Json :=
  if path.isEmpty then some child else updateParent (addChild child) path value

def removeAt (path : Pointer) (value : Json) : Option Json :=
  updateParent removeChild path value

/-- Carries one operation out; nothing can be moved into itself. -/
def Operation.carriedOut? (value : Json) : Operation → Option Json
  | .add path child => addAt path child value
  | .remove path => removeAt path value
  | .replace path child => updateAt (fun _ => some child) path value
  | .move source path =>
      if source ≠ path ∧ source.isPrefixOf path then none
      else do
        let moved ← value.find? source
        let rest ← removeAt source value
        addAt path moved rest
  | .copy source path => do
      let copied ← value.find? source
      addAt path copied value
  | .test path expected =>
      if (value.find? path).any expected.agrees then some value else none

/-- Carries the operations out one after the other; if one fails there is no
result. -/
def Patch.carriedOut? (patch : Patch) (value : Json) : Option Json :=
  patch.foldlM Operation.carriedOut? value

/-! ### Comparing values -/

/-- One remove operation for every item beyond the end, always at the first
index beyond it. -/
def itemRemovals (path : Pointer) (length : Nat) (excess : Nat) : Patch :=
  List.replicate excess (.remove (path ++ [toString length]))

/-- One add operation for every new item, from the index on. -/
def itemAdditions (path : Pointer) : (index : Nat) → List Json → Patch
  | _, [] => []
  | index, item :: rest =>
      .add (path ++ [toString index]) item ::
        itemAdditions path (index + 1) rest

/-- One remove operation for every member that the new object lacks. -/
def memberRemovals (path : Pointer) (old new : List (String × Json)) : Patch :=
  List.map (fun member => .remove (path ++ [member.1]))
    (old.filter fun member => (Entries.read member.1 new).isNone)

mutual

/-- The operations that lead from the old value at the path to the new one.
Objects are compared member by member in the order of the new object, then
vanished members are removed; arrays are compared index by index; values of
other kinds are replaced when they differ. -/
def differencesAt (path : Pointer) (old : Json) : Json → Patch
  | .object newMembers =>
      match old with
      | .object oldMembers =>
          memberDifferences path oldMembers newMembers ++
          memberRemovals path oldMembers newMembers
      | _ => [.replace path (.object newMembers)]
  | .array newItems =>
      match old with
      | .array oldItems => itemDifferences path 0 oldItems newItems
      | _ => [.replace path (.array newItems)]
  | .null => if old = .null then [] else [.replace path .null]
  | .bool value =>
      if old = .bool value then [] else [.replace path (.bool value)]
  | .number value =>
      if old = .number value then [] else [.replace path (.number value)]
  | .string value =>
      if old = .string value then [] else [.replace path (.string value)]
termination_by structural new => new

def itemDifferences (path : Pointer) (index : Nat) (old : List Json) :
    List Json → Patch
  | [] => itemRemovals path index old.length
  | item :: rest =>
      match old with
      | [] => itemAdditions path index (item :: rest)
      | oldItem :: oldRest =>
          differencesAt (path ++ [toString index]) oldItem item ++
            itemDifferences path (index + 1) oldRest rest
termination_by structural new => new

def memberDifferences (path : Pointer) (old : List (String × Json)) :
    List (String × Json) → Patch
  | [] => []
  | (key, value) :: rest =>
      (match Entries.read key old with
        | some oldValue => differencesAt (path ++ [key]) oldValue value
        | none => [.add (path ++ [key]) value]) ++
      memberDifferences path old rest
termination_by structural new => new

end

/-- The patch from one value to another. -/
def differences (old new : Json) : Patch := differencesAt [] old new

/-! ### Patches as JSON -/

def Operation.toJson : Operation → Json
  | .add path value =>
      .object [("op", .string "add"), ("path", .string path.text),
               ("value", value)]
  | .remove path =>
      .object [("op", .string "remove"), ("path", .string path.text)]
  | .replace path value =>
      .object [("op", .string "replace"), ("path", .string path.text),
               ("value", value)]
  | .move source path =>
      .object [("from", .string source.text), ("op", .string "move"),
               ("path", .string path.text)]
  | .copy source path =>
      .object [("from", .string source.text), ("op", .string "copy"),
               ("path", .string path.text)]
  | .test path value =>
      .object [("op", .string "test"), ("path", .string path.text),
               ("value", value)]

/-- The members that an operation of the name has besides its name, in
order. -/
def Operation.keys : (name : String) → List String
  | "add" | "replace" | "test" => ["path", "value"]
  | "remove" => ["path"]
  | "move" | "copy" => ["from", "path"]
  | _ => []

/-- The members of an operation: an operation may also be written as an array
of its name and its other members in order. -/
def Operation.members? : Json → Option (List (String × Json))
  | .object members => some members
  | .array (.string name :: values) =>
      let keys := Operation.keys name
      if values.length = keys.length then
        some (("op", .string name) :: keys.zip values)
      else none
  | _ => none

def Operation.ofJson? (json : Json) : Option Operation := do
  let members ← Operation.members? json
  let pointer (key : String) : Option Pointer := do
    match ← Entries.read key members with
    | .string text => Pointer.ofText? text
    | _ => none
  let path ← pointer "path"
  match ← Entries.read "op" members with
  | .string "add" => return .add path (← Entries.read "value" members)
  | .string "remove" => return .remove path
  | .string "replace" => return .replace path (← Entries.read "value" members)
  | .string "move" => return .move (← pointer "from") path
  | .string "copy" => return .copy (← pointer "from") path
  | .string "test" => return .test path (← Entries.read "value" members)
  | _ => none

def Patch.toJson (patch : Patch) : Json := .array (patch.map Operation.toJson)

def Patch.ofJson? : Json → Option Patch
  | .array items => items.mapM Operation.ofJson?
  | _ => none

end PodTelemetry.Json
