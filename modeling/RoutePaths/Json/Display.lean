import RoutePaths.Json.Basic
import RoutePaths.Number.Shortest

/-!
# RoutePaths.Json.Display

Values as they are shown to readers:

1. a string by itself is shown as it is, inside an array or object it is
   quoted;
2. the words for no value and for truth begin with a capital letter, items and
   fields are separated by a comma and a space;
3. a decimal fraction is shown as the shortest text of the nearest binary
   fraction.

A value is blank if it is empty, zero, false or no value at all.
-/

namespace RoutePaths.RawJson

open Text

/-- The text of a number. -/
def showNumber : JsonNumber → List Char
  | .integer n => (toString n).toList
  | .decimal negative digits exponent =>
    (if negative then ['-'] else []) ++ (Number.Magnitude.ofDecimal digits exponent).text
  | .infinity negative => (if negative then ['-'] else []) ++ Number.Magnitude.infinite.text
  | .undefined => "nan".toList

mutual

/-- A value inside another. -/
def showInner : RawJson → List Char
  | .null => "None".toList
  | .bool true => "True".toList
  | .bool false => "False".toList
  | .number value => showNumber value
  | .string value => value.showQuoted
  | .array [] => ['[', ']']
  | .array (item :: items) => '[' :: showInner item ++ showItems items ++ [']']
  | .object [] => ['{', '}']
  | .object ((name, value) :: fields) =>
    '{' :: name.showQuoted ++ ':' :: ' ' :: showInner value ++ showFields fields ++ ['}']

/-- The items after the first. -/
def showItems : List RawJson → List Char
  | [] => []
  | item :: items => ',' :: ' ' :: showInner item ++ showItems items

/-- The fields after the first. -/
def showFields : List (CodePoints × RawJson) → List Char
  | [] => []
  | (name, value) :: fields =>
    ',' :: ' ' :: name.showQuoted ++ ':' :: ' ' :: showInner value ++ showFields fields

end

/-- A value as it is shown to readers. -/
def display : RawJson → CodePoints
  | .string value => value
  | value => .ofChars (showInner value)

/-- Whether a number is zero. -/
def isZero : JsonNumber → Bool
  | .integer n => n = 0
  | .decimal _ digits exponent => Number.Magnitude.ofDecimal digits exponent = .zero
  | .infinity _ => false
  | .undefined => false

/-- Whether a value is as good as none. -/
def isBlank : RawJson → Bool
  | .null => true
  | .bool value => !value
  | .number value => isZero value
  | .string value => value = []
  | .array items => items.isEmpty
  | .object fields => fields.isEmpty

end RoutePaths.RawJson
