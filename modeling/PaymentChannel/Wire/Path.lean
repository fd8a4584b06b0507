import PaymentChannel.Wire.Value

/-! Parts of values by their paths, and values that refer to others.
A path leads through fields of records and places of lists. A reference is a name and a path: a text
after a dollar sign, or the field of that name in a record whose other fields replace parts of what is
referred to.
-/

namespace PaymentChannel.Wire

/-- Values by their names. -/
abbrev Bindings := List (String × Value)

namespace Value

/-- The place in a list that a step of a path spells. -/
def place? (step : String) : Option Nat :=
  if step ≠ "" ∧ step.all Char.isDigit then step.toNat? else none

/-- The part of a value at the end of a path, or nothing. -/
def follow : Value → List String → Value
  | value, [] => value
  | .record fields, step :: path => follow ((fields.lookup step).getD .null) path
  | .list items, step :: path => follow (((place? step).bind (items[·]?)).getD .null) path
  | _, _ => .null

/-- The value with the part at the end of a path replaced. A missing field is added, but nothing
can be put inside of it; a path that leads nowhere changes nothing.
-/
def replace : Value → List String → Value → Value
  | _, [], new => new
  | .record fields, step :: path, new =>
      match fields.lookup step with
      | some old => .record (fields.map fun (name, value) =>
          if name = step then (name, replace old path new) else (name, value))
      | none => .record (fields ++ [(step, replace .null path new)])
  | .list items, step :: path, new =>
      match place? step with
      | some place => .list (items.modify place (replace · path new))
      | none => .list items
  | value, _, _ => value

/-- What a reference stands for, or nothing when the name is not bound. -/
def referent (bindings : Bindings) (reference : String) : Value :=
  match reference.splitOn "." with
  | name :: path => follow ((bindings.lookup name).getD .null) path
  | [] => .null

mutual

/-- The value with all references replaced by what they stand for. -/
def resolve (bindings : Bindings) : Value → Value
  | .text written =>
      match written.toList with
      | '$' :: reference => referent bindings (String.ofList reference)
      | _ => .text written
  | .list items => .list (resolveItems bindings items)
  | .record fields =>
      let resolved := resolveFields bindings fields
      match fields.lookup "$" with
      | some (.text reference) =>
          (resolved.filter (·.1 ≠ "$")).foldl
            (fun value (path, new) => value.replace (path.splitOn ".") new)
            (referent bindings reference)
      | some _ => .null
      | none => .record resolved
  | value => value

/-- The items of a list with all references replaced. -/
def resolveItems (bindings : Bindings) : List Value → List Value
  | [] => []
  | item :: rest => resolve bindings item :: resolveItems bindings rest

/-- The fields of a record with all references replaced. -/
def resolveFields (bindings : Bindings) : List (String × Value) → List (String × Value)
  | [] => []
  | (name, value) :: rest => (name, resolve bindings value) :: resolveFields bindings rest

end

end Value

end PaymentChannel.Wire
