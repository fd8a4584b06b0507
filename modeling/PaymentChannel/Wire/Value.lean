/-! The values in which messages and states are exchanged and kept.
A value is a tree of records and lists. What it stands for is read from it field by field; fields
that nobody asks for are ignored.
-/

namespace PaymentChannel.Wire

/-- A tree of records, lists and plain values. -/
inductive Value
  | null
  | flag (value : Bool)
  | integer (value : Int)
  /-- A number that is written with a fraction: the digits and how many of them it has. -/
  | fraction (digits : Int) (places : Nat)
  | text (value : String)
  | list (items : List Value)
  | record (fields : List (String × Value))
deriving Inhabited

namespace Value

/-- The field of a record. -/
def field? : Value → String → Option Value
  | record fields, name => fields.lookup name
  | _, _ => none

/-- The fields of a record by their names, a missing one as nothing. A list stands for a record if
it gives every field in the order of the names.
-/
def members? (names : List String) : Value → Option (List (Option Value))
  | record fields => some (names.map fun name => fields.lookup name)
  | list items => if items.length = names.length then some (items.map some) else none
  | _ => none

/-- The items of a list. -/
def items? : Value → Option (List Value)
  | list items => some items
  | _ => none

/-- The text of a plain value. -/
def text? : Value → Option String
  | text value => some value
  | _ => none

/-- The name of a case without content; a record of one empty field gives it too. -/
def caseName? : Value → Option String
  | text name => some name
  | record [(name, null)] => some name
  | _ => none

end Value

/-- How the members of a type are written as values and read back. -/
class Codec (α : Type) where
  encode : α → Value
  decode? : Value → Option α

export Codec (encode decode?)

/-- Reads a field that has to be there. -/
def required {α : Type} [Codec α] (member : Option Value) : Option α :=
  member.bind decode?

/-- Reads a field that may be missing. -/
def optional {α : Type} [Codec (Option α)] (member : Option Value) : Option (Option α) :=
  decode? (member.getD .null)

instance : Codec Value := ⟨id, some⟩

instance : Codec Unit where
  encode _ := .null
  decode?
    | .null => some ()
    | _ => none

instance : Codec Bool where
  encode := .flag
  decode?
    | .flag value => some value
    | _ => none

instance : Codec String where
  encode := .text
  decode? := Value.text?

/-- Numbers below a limit. -/
@[reducible] def Codec.numbers {α : Type} (limit : Nat) (toNat : α → Nat) (ofNat : Nat → α)
    : Codec α where
  encode value := .integer (.ofNat (toNat value))
  decode?
    | .integer (.ofNat value) => if value < limit then some (ofNat value) else none
    | _ => none

/-- Integers between two others. -/
@[reducible] def Codec.integers {α : Type} (least greatest : Int) (toInt : α → Int)
    (ofInt : Int → α)
    : Codec α where
  encode value := .integer (toInt value)
  decode?
    | .integer value => if least ≤ value ∧ value ≤ greatest then some (ofInt value) else none
    | _ => none

instance : Codec Nat where
  encode value := .integer (.ofNat value)
  decode?
    | .integer (.ofNat value) => some value
    | _ => none

instance : Codec UInt8 := .numbers UInt8.size UInt8.toNat UInt8.ofNat
instance : Codec UInt16 := .numbers UInt16.size UInt16.toNat UInt16.ofNat
instance : Codec UInt32 := .numbers UInt32.size UInt32.toNat UInt32.ofNat
instance : Codec UInt64 := .numbers UInt64.size UInt64.toNat UInt64.ofNat
instance : Codec Int32 := .integers (-0x80000000) 0x7fffffff Int32.toInt Int32.ofInt
instance : Codec Int64 :=
  .integers (-0x8000000000000000) 0x7fffffffffffffff Int64.toInt Int64.ofInt

instance {α : Type} [Codec α] : Codec (Option α) where
  encode
    | some value => encode value
    | none => .null
  decode?
    | .null => some none
    | value => (decode? value).map some

instance {α : Type} [Codec α] : Codec (List α) where
  encode values := .list (values.map encode)
  decode? value := do (← value.items?).mapM decode?

instance {α β : Type} [Codec α] [Codec β] : Codec (α × β) where
  encode pair := .list [encode pair.1, encode pair.2]
  decode?
    | .list [first, second] => do return (← decode? first, ← decode? second)
    | _ => none

/-- A type whose members are written as the texts of another's. -/
@[reducible] def Codec.texts {α : Type} (print : α → String) (read? : String → Option α) : Codec α where
  encode value := .text (print value)
  decode? value := do read? (← value.text?)

/-- A type of finitely many members, written by their names. -/
@[reducible] def Codec.names {α : Type} (members : List α) (name : α → String) : Codec α where
  encode value := .text (name value)
  decode? value := do
    let wanted ← value.caseName?
    members.find? (name · == wanted)

/-- A type that wraps another and is written like it. -/
@[reducible] def Codec.wrap {α β : Type} (inner : Codec β) (put : β → α) (take : α → β) : Codec α where
  encode value := inner.encode (take value)
  decode? value := (inner.decode? value).map put

end PaymentChannel.Wire
