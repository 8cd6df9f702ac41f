import RoutePaths.Json.Display
import RoutePaths.Json.Reader
import RoutePaths.Machine
import RoutePaths.Text.Match

/-!
# RoutePaths.Composer

Which version of the framework a project depends on, by its composer files:

1. `composer.lock` lists the packages that are installed; the first one with
   the framework's name gives its version, without the letter in front;
2. if that gives no version, `composer.json` tells what the project requires,
   and a project is one of the framework if it requires it at all;
3. a file that is missing, or that is no JSON text, counts as empty.
-/

namespace RoutePaths.Composer

open Text (CodePoints)

/-! ## Shapes of values -/

/-- The word for what a value is. -/
def kind : RawJson → String
  | .null => "NoneType"
  | .bool _ => "bool"
  | .number (.integer _) => "int"
  | .number _ => "float"
  | .string _ => "str"
  | .array _ => "list"
  | .object _ => "dict"

/-- Why a value cannot be used where it stands. -/
inductive ShapeError where
  /-- It has no fields. -/
  | noFields (kind : String)
  /-- It has no items. -/
  | noItems (kind : String)
  /-- Nothing can be in it. -/
  | noMembers (kind : String)
  /-- It is an array, which has no names. -/
  | unnamedItems
  /-- It is a text, which has no names. -/
  | unnamedChars
  deriving Repr, DecidableEq, Inhabited

/-- The wording of an error. -/
def ShapeError.message : ShapeError → String
  | noFields kind => "'" ++ kind ++ "' object has no attribute 'get'"
  | noItems kind => "'" ++ kind ++ "' object is not iterable"
  | noMembers kind => "argument of type '" ++ kind ++ "' is not iterable"
  | unnamedItems => "list indices must be integers or slices, not str"
  | unnamedChars => "string indices must be integers, not 'str'"

/-- The fields of an object. -/
def fields (value : RawJson) : Except ShapeError (Ledger CodePoints RawJson) :=
  match value with
  | .object fs => .ok fs
  | other => .error (.noFields (kind other))

/-- The items that a value is made of: those of an array, the names of an
object, the characters of a text. -/
def items (value : RawJson) : Except ShapeError (List RawJson) :=
  match value with
  | .array xs => .ok xs
  | .object fs => .ok (fs.map fun (name, _) => .string name)
  | .string s => .ok (s.map fun c => .string [c])
  | other => .error (.noItems (kind other))

/-- Whether a name is in a value: a name of an object, an item of an array, a
part of a text. -/
def holds (name : CodePoints) (value : RawJson) : Except ShapeError Bool :=
  match value with
  | .object fs => .ok (Ledger.get? fs name).isSome
  | .array xs => .ok (xs.any fun
      | .string s => s = name
      | _ => false)
  | .string s => .ok (Text.contains name.chars s.chars)
  | other => .error (.noMembers (kind other))

/-- The value of a name that is in a value. -/
def named (name : CodePoints) (value : RawJson) : Except ShapeError (Option RawJson) :=
  match value with
  | .object fs => .ok (Ledger.get? fs name)
  | .array _ => .error .unnamedItems
  | _ => .error .unnamedChars

/-! ## The two files -/

/-- The name of the framework. -/
def framework : CodePoints := .ofString "laravel/framework"

/-- The value of a field with a name. -/
def field? (fs : Ledger CodePoints RawJson) (name : String) : Option RawJson :=
  fs.get? (.ofString name)

/-- Whether a package has the name of the framework. -/
def isFramework (package : Ledger CodePoints RawJson) : Bool :=
  match field? package "name" with
  | some (.string name) => name = framework
  | _ => false

/-- The version of a package, if it is not empty. -/
def packageVersion (package : Ledger CodePoints RawJson) : Option CodePoints :=
  let shown := ((field? package "version").map RawJson.display).getD []
  match shown.dropWhile (· = 'v'.toNat) with
  | [] => none
  | version => some version

/-- The version of the first package that is the framework. -/
def firstVersion : List RawJson → Except ShapeError (Option CodePoints)
  | [] => .ok none
  | value :: rest => do
    let package ← fields value
    if isFramework package then return packageVersion package else firstVersion rest

/-- The version that a lock file gives. -/
def lockedVersion (data : Option RawJson) : Except ShapeError (Option CodePoints) :=
  match data with
  | none => .ok none
  | some data =>
    if data.isBlank then .ok none
    else do
      let fs ← fields data
      let packages ← items ((field? fs "packages").getD (.array []))
      firstVersion packages

/-- What was found out about a project. -/
structure Detection where
  isLaravel : Bool
  /-- The version, of whatever shape it was written. -/
  version : Option RawJson
  deriving Repr, Inhabited

/-- A value unless it is as good as none. -/
def unlessBlank (value : Option RawJson) : Option RawJson := value.filter (!·.isBlank)

/-- What the requirements of a project tell. -/
def required (data : Option RawJson) : Except ShapeError Detection :=
  match unlessBlank data with
  | none => .ok ⟨false, none⟩
  | some data => do
    let fs ← fields data
    let require := (unlessBlank (field? fs "require")).getD (.object [])
    if ← holds framework require then return ⟨true, unlessBlank (← named framework require)⟩
    else return ⟨false, none⟩

/-! ## Detection -/

/-- The value that the bytes of a file spell, or what is wrong with them. -/
def valueOf (bytes : List UInt8) : Except String RawJson :=
  match Text.decodeStrict bytes with
  | none => .error (Text.firstBreak bytes).message
  | some s =>
    let text := Text.plainNewlines s
    (Json.readRaw text).mapError (·.message text)

/-- The value in a file; one that is no JSON text is reported. -/
def load (path : String) : Step (Option RawJson) := do
  let m ← get
  if m.disk.isFile path then
    match m.disk.read path with
    | .error _ => return none
    | .ok bytes =>
      match valueOf bytes with
      | .ok value => return some value
      | .error detail =>
        Machine.log .warning ("Cannot parse " ++ path) detail
        return none
  else return none

/-- What the composer files in a folder tell. -/
def detect (root : String) : Run ShapeError Detection := do
  let locked ← load (FilePath.join root "composer.lock")
  match ← ExceptT.mk (pure (lockedVersion locked)) with
  | some version => return ⟨true, some (.string version)⟩
  | none =>
    let manifest ← load (FilePath.join root "composer.json")
    ExceptT.mk (pure (required manifest))

end RoutePaths.Composer
