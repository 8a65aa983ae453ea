import LinkedSheets.Environment.Value
import LinkedSheets.Text.Split

/-!
# Settings in the environment

A variable whose name begins with `SG_`, in any case, is a setting. The rest of the name is a path
through the tables, divided at underscores and dots. The variables make a layer of settings, each
laid over those before it.
-/

namespace LinkedSheets.Environment

def isDivider (c : Char) : Bool :=
  c == '_' || c == '.'

def normal (c : Char) : Char :=
  if isDivider c then '_' else c.toLower

/-- The path that the name of a variable gives, unless one of its parts is empty. Blanks around the
name and around the path do not count. -/
def path? (name : String) : Option (List String) :=
  match (Text.trimChars name.toList).map Char.toLower with
  | 's' :: 'g' :: '_' :: rest =>
    let parts := Text.split '_' ((Text.trimChars rest).map normal)
    if parts.any List.isEmpty then none else some (parts.map String.ofList)
  | _ => none

/-- The layer of a variable: nothing if the variable is not a setting. -/
def layerOf? (name text : String) : Option Setting :=
  match path? name with
  | some path => (value? text).map (.nest path)
  | none => some (.table [])

/-- The layer of all the variables, unless one of them has no value. -/
def layer? (environment : List (String × String)) : Option Setting :=
  environment.foldlM (fun below (name, text) => (layerOf? name text).map below.overlay) (.table [])

end LinkedSheets.Environment
