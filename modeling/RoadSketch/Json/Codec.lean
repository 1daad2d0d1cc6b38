import RoadSketch.Json.Value

/-!
# JSON codecs

How values are taken out of documents and put into them. A record is an object, or an array of its
fields in order. Fields that a record does not know are passed over, and fields it knows must not
be repeated.
-/
namespace RoadSketch.Json

def ofDouble (x : Float) : Json :=
  match BinaryValue.ofDouble x with
  | .finite negative significand exponent =>
    let layout := NumberLayout.stored
    .number (layout.numeral negative (shortestDecimal .double layout.tie significand exponent))
  -- What is not finite has no numeral.
  | _ => .null

def ofNat (n : Nat) : Json := .number (.ofNat n)

def record (fields : List (String × Json)) : Json :=
  .object (fields.map fun (name, value) => (some name, value))

/-- A value that one alternative of several carries. -/
def tagged (name : String) (value : Json) : Json := record [(name, value)]

def ofOption {α : Type} (encode : α → Json) : Option α → Json
  | some a => encode a
  | none => .null

def double? : Json → Option Float
  | .number numeral => numeral.toDouble?
  | _ => none

def index? : Json → Option Nat
  | .number numeral => numeral.toIndex?
  | _ => none

def text? : Json → Option String
  | .string text => some text
  | _ => none

def list? {α : Type} (decode : Json → Option α) : Json → Option (List α)
  | .array items => items.mapM decode
  | _ => none

def pair? {α : Type} (decode : Json → Option α) : Json → Option (α × α)
  | .array [a, b] => do some (← decode a, ← decode b)
  | _ => none

def option? {α : Type} (decode : Json → Option α) : Json → Option (Option α)
  | .null => some none
  | value => (decode value).map some

/-- An alternative without any value: its name, or its name with null. -/
def alternative? {α : Type} (ofName? : String → Option α) : Json → Option α
  | .string name => ofName? name
  | .object [(some name, .null)] => ofName? name
  | _ => none

def fieldValue? (fields : List (Option String × Json)) (name : String) : Option (Option Json) :=
  match fields.filter (·.1 == some name) with
  | [] => some none
  | [(_, value)] => some (some value)
  -- A field must not be repeated.
  | _ => none

/-- The values of the fields of a record, as far as they are given. -/
def fields? (names : List String) : Json → Option (List (Option Json))
  | .object fields =>
    if fields.all (·.1.isSome) then names.mapM (fieldValue? fields) else none
  | .array items =>
    if items.length ≤ names.length then
      some (items.map some ++ List.replicate (names.length - items.length) none)
    else none
  | _ => none

def required {α : Type} (decode : Json → Option α) (value : Option Json) : Option α :=
  value.bind decode

def orElse {α : Type} (standard : α) (decode : Json → Option α) : Option Json → Option α
  | some value => decode value
  | none => some standard

end RoadSketch.Json
