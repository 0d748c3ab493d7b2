import IncrementalGlr.Json.Reader

/-!
Tagged values: objects whose `type` member names a variant and whose other members are its fields.
The same value may also be written as an array that starts with the name. While a text is read the
name is checked as soon as it is met, and everything else is kept until the value is complete;
`Variants.read` does this from a text and `Variants.ofValue` from a value kept before. Which fields
a variant has is stated by a list of names and shapes; unknown members are ignored.
-/
namespace IncrementalGlr.Json

/-- The variants of a tagged type by name. -/
abbrev Variants (κ : Type) := List (String × κ)

/-- What a tagged value holds beside its name. -/
inductive Body where
  | items (values : List Value)
  | members (fields : List (String × Value))
  deriving Repr, Inhabited

namespace Variants

variable {κ : Type}

def names (variants : Variants κ) : List String := variants.map Prod.fst

/-- The variant of the given name. -/
def named (variants : Variants κ) (name : String) : Except Problem κ :=
  match variants.lookup name with
  | some kind => .ok kind
  | none => .error (.unknownVariant name variants.names)

/-- The variant that a kept value names; there an index does as well as a name. -/
def ofTag (variants : Variants κ) : Value → Except Problem κ
  | .string name => variants.named name
  | .integer (.ofNat i) =>
    match variants[i]? with
    | some variant => .ok variant.2
    | none => .error .mismatch
  | _ => .error .mismatch

/-- The members of a tagged object: the variant once it is known, and the fields, last first. -/
abbrev Draft (κ : Type) := Option κ × List (String × Value)

/-- The variant and the body of a complete object. -/
def finish (draft : Draft κ) : Except Problem (κ × Body) :=
  match draft with
  | (none, _) => .error (.missingField "type")
  | (some kind, fields) => .ok (kind, .members fields.reverse)

/-- Reads a tagged value that may nest to the given depth. -/
def read (variants : Variants κ) : Nat → Reader (κ × Body)
  | 0 => do
    match ← peek with
    | some '[' => throw .malformed
    | some '{' => throw .malformed
    | _ => refuse
  | depth + 1 => do
    match ← peek with
    | some '{' =>
      let draft ← object (member depth) ((none, []) : Draft κ)
      finish draft
    | some '[' => sequence depth
    | _ => refuse
where
  /-- The name of the variant. -/
  tag : Reader κ := do variants.named (← text)
  /-- One member of a tagged object. -/
  member (depth : Nat) (draft : Draft κ) (key : String) : Reader (Draft κ) := do
    if key = "type" then
      if draft.1.isSome then throw (.duplicateField "type")
      colon
      return (some (← tag), draft.2)
    else
      colon
      return (draft.1, (key, ← value true depth) :: draft.2)
  /-- A tagged value written as an array. -/
  sequence (depth : Nat) : Reader (κ × Body) := do
    drop
    match ← peek with
    | none => throw .truncated
    | some ']' => throw (.missingField "type")
    | some _ =>
      let kind ← tag
      match ← peek with
      | none => throw .truncated
      | some ']' => drop *> pure (kind, .items [])
      | some ',' =>
        drop
        match ← peek with
        | none => throw .truncated
        | some ']' => throw .malformed
        | some _ => return (kind, .items (← items (value true depth) (← get).length))
      | some _ => throw .malformed

/-- One member of a tagged object that was kept. -/
def keep (variants : Variants κ) (draft : Draft κ) (field : String × Value) :
    Except Problem (Draft κ) :=
  if field.1 = "type" then
    if draft.1.isSome then .error (.duplicateField "type")
    else (variants.ofTag field.2).map fun kind => (some kind, draft.2)
  else .ok (draft.1, field :: draft.2)

/-- The variant and the body of a value that was kept. -/
def ofValue (variants : Variants κ) : Value → Except Problem (κ × Body)
  | .array [] => .error (.missingField "type")
  | .array (tag :: values) => (variants.ofTag tag).map fun kind => (kind, .items values)
  | .object fields => do finish (← fields.foldlM variants.keep (none, []))
  | _ => .error .mismatch

end Variants

/-- Reads the fields of a variant in the order of `fields`. A field that is missing is an error
unless `absent` has a value for it. -/
def Body.decode {σ δ : Type} (fields : List (String × σ)) (absent : σ → Option δ)
    (field : σ → Value → Except Problem δ) : Body → Except Problem (List δ)
  | .items values => positional fields values
  | .members pairs => do
    let found ← pairs.foldlM collect []
    fields.mapM (pick found)
where
  /-- Fields by position. -/
  positional : List (String × σ) → List Value → Except Problem (List δ)
    | [], [] => .ok []
    | [], _ :: _ => .error .mismatch
    | (_, shape) :: fields, [] =>
      match absent shape with
      | some x => (positional fields []).map (x :: ·)
      | none => .error .mismatch
    | (_, shape) :: fields, v :: values => do
      let x ← field shape v
      return x :: (← positional fields values)
  /-- Takes in one member. -/
  collect (found : List (String × δ)) (m : String × Value) : Except Problem (List (String × δ)) :=
    match fields.lookup m.1 with
    | none => .ok found
    | some shape =>
      if (found.lookup m.1).isSome then .error (.duplicateField m.1)
      else (field shape m.2).map fun x => (m.1, x) :: found
  /-- The value found for one field. -/
  pick (found : List (String × δ)) (f : String × σ) : Except Problem δ :=
    match found.lookup f.1 with
    | some x => .ok x
    | none =>
      match absent f.2 with
      | some x => .ok x
      | none => .error (.missingField f.1)

end IncrementalGlr.Json
