import SqlBuilder.Error
import SqlBuilder.Json.Tree

/-! # Configuration

The one setting of the builder is the column by which rows are keyed when no column is
named.  It can be read from JSON: an object in which it may be missing, or a list that
holds it or nothing.  Members that the configuration does not know only have to follow
the grammar of JSON; what they denote is not looked at.
-/
namespace SqlBuilder

/-- The settings of the builder. -/
structure Config where
  defaultPrimaryKey : String := "id"
  deriving DecidableEq

namespace Config

open JsonText

/-- The name of the setting in JSON. -/
def settingName : String := "default_primary_key"

/-- The text that a tree denotes, when it is a string. -/
def text? : Tree → Option String
  | .string units => StringUnit.text? units
  | _ => none

/-- The setting among the members of an object, which may give it once at most. -/
def setting? : List (List StringUnit × Tree) → Option (Option String)
  | [] => some none
  | (key, tree) :: rest => do
    let name ← StringUnit.text? key
    let later ← setting? rest
    if name = settingName then
      let value ← text? tree
      if later.isSome then none else some (some value)
    else some later

/-- The configuration that a tree denotes. -/
def ofTree? : Tree → Option Config
  | .object members => (setting? members).map fun
    | some key => ⟨key⟩
    | none => {}
  | .array [] => some {}
  | .array [tree] => (text? tree).map fun key => ⟨key⟩
  | _ => none

/-- The configuration that a text denotes. -/
def ofJsonText (text : String) : Except Error Config :=
  match (Tree.ofText? text).bind ofTree? with
  | some config => .ok config
  | none => .error .serialization

/-- The configuration as a JSON document. -/
def toJson (config : Config) : Json :=
  .object [(settingName, .string config.defaultPrimaryKey)]

end Config
end SqlBuilder
