/-!
# JSON values

The values that documents are exchanged as. Numbers are exact: an integer is written without
fraction and exponent, any other number is a decimal, also when its value is whole. The members of
an object keep their order.

`Codec` packages how a type is written as a JSON value and read back. Writing gives each field of a
record. Reading is more liberal: a field with a default may be absent, members that are no field are
passed over, and a record may also be given as an array of its fields in order. No field may be
given twice.

- `Json.record?` gives the members of a record in either form
- `Json.required?` and `Json.optional?` read one field
- `Json.variant?` reads a choice, an object with one member that is named for the case
-/

namespace ScoringRules

inductive Json where
  | null
  | bool (value : Bool)
  | integer (value : Int)
  /-- The number `mantissa · 10 ^ (-places)`. -/
  | decimal (mantissa : Int) (places : Nat)
  | string (value : String)
  | array (items : List Json)
  | object (members : List (String × Json))

/-- A type whose values are written as JSON values and read back. -/
class Codec (α : Type) where
  encode : α → Json
  decode? : Json → Option α

namespace Json

/-- No field is given twice. Other names may be. -/
def GivenOnce (fields : List String) (members : List (String × Json)) : Prop :=
  ((members.map Prod.fst).filter fun name => name ∈ fields).Nodup

instance (fields : List String) (members : List (String × Json)) :
    Decidable (GivenOnce fields members) :=
  inferInstanceAs (Decidable (List.Nodup _))

/-- The members of a record with the given fields, none of which may be given twice. In an array,
the items are the first fields. -/
def record? (fields : List String) : Json → Option (List (String × Json))
  | object members => if GivenOnce fields members then some members else none
  | array items => if items.length ≤ fields.length then some (fields.zip items) else none
  | null | bool _ | integer _ | decimal _ _ | string _ => none

section Fields

variable {α : Type} [Codec α]

/-- The value of a field that has to be given. -/
def required? (members : List (String × Json)) (field : String) : Option α :=
  (members.lookup field).bind Codec.decode?

/-- The value of a field that takes a default when it is absent. -/
def optional? (members : List (String × Json)) (field : String) (absent : α) : Option α :=
  match members.lookup field with
  | none => some absent
  | some value => Codec.decode? value

end Fields

/-- The case and the content of a choice. -/
def variant? : Json → Option (String × Json)
  | object [member] => some member
  | object _ | array _ | null | bool _ | integer _ | decimal _ _ | string _ => none

end Json

instance : Codec Bool where
  encode := .bool
  decode?
    | .bool value => some value
    | _ => none

instance : Codec String where
  encode := .string
  decode?
    | .string value => some value
    | _ => none

instance : Codec Int32 where
  encode value := .integer value.toInt
  decode?
    | .integer value => if (Int32.ofInt value).toInt = value then some (Int32.ofInt value) else none
    | _ => none

instance : Codec UInt64 where
  encode value := .integer value.toNat
  decode?
    | .integer value =>
        if (UInt64.ofNat value.toNat).toNat = value then some (UInt64.ofNat value.toNat) else none
    | _ => none

instance {α : Type} [Codec α] : Codec (List α) where
  encode values := .array (values.map Codec.encode)
  decode?
    | .array items => items.mapM Codec.decode?
    | _ => none

instance {α : Type} [Codec α] : Codec (Option α) where
  encode
    | none => .null
    | some value => Codec.encode value
  decode?
    | .null => some none
    | value => some <$> Codec.decode? value

end ScoringRules
