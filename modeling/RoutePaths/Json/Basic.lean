import RoutePaths.Ledger
import RoutePaths.Text.CodePoints

/-!
# RoutePaths.Json.Basic

JSON values.  Objects keep the order of their fields; a number is an integer of
any size, a decimal fraction kept as it was written, or one of the three
values that are no numbers at all.

The strings of a value are texts; but a JSON text can spell half of a surrogate
pair in a string, so the strings of a value that was read are given by code
points.
-/

namespace RoutePaths

/-- Numbers of JSON texts. -/
inductive JsonNumber where
  /-- An integer, written without point and exponent. -/
  | integer (n : Int)
  /-- The number `digits * 10 ^ exponent`, negative if so marked. -/
  | decimal (negative : Bool) (digits : Nat) (exponent : Int)
  /-- Infinity, negative if so marked. -/
  | infinity (negative : Bool)
  /-- The value of undefined operations. -/
  | undefined
  deriving Repr, DecidableEq, Inhabited

/-- JSON values with strings of some type. -/
inductive JsonOf (τ : Type) where
  | null
  | bool (value : Bool)
  | number (value : JsonNumber)
  | string (value : τ)
  | array (items : List (JsonOf τ))
  | object (fields : List (τ × JsonOf τ))
  deriving Repr, Inhabited

/-- JSON values. -/
abbrev Json := JsonOf String

/-- JSON values as they are read. -/
abbrev RawJson := JsonOf Text.CodePoints

namespace JsonOf

variable {τ υ : Type}

/-- An integer as a value. -/
def int (n : Int) : JsonOf τ := .number (.integer n)

/-- The value of a field, if the value is an object that has it. -/
def field? [DecidableEq τ] : JsonOf τ → τ → Option (JsonOf τ)
  | .object fields, name => Ledger.get? fields name
  | _, _ => none

mutual

/-- The value with other strings. -/
def mapStrings (f : τ → υ) : JsonOf τ → JsonOf υ
  | .null => .null
  | .bool value => .bool value
  | .number value => .number value
  | .string value => .string (f value)
  | .array items => .array (mapItems f items)
  | .object fields => .object (mapFields f fields)

/-- Values with other strings. -/
def mapItems (f : τ → υ) : List (JsonOf τ) → List (JsonOf υ)
  | [] => []
  | item :: items => mapStrings f item :: mapItems f items

/-- Fields with other strings. -/
def mapFields (f : τ → υ) : List (τ × JsonOf τ) → List (υ × JsonOf υ)
  | [] => []
  | (name, value) :: fields => (f name, mapStrings f value) :: mapFields f fields

end

end JsonOf

end RoutePaths
