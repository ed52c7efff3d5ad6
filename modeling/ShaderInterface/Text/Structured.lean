/-! Structured values in diagnostics: a constructor with named fields in braces, or with arguments
in parentheses, and lists in square brackets. -/
namespace ShaderInterface.Text.Structured

/-- A constructor with named fields. -/
def record (name : String) (fields : List (String × String)) : String :=
  let parts := fields.map fun (field, value) => field ++ ": " ++ value
  name ++ " \x7b " ++ String.intercalate ", " parts ++ " \x7d"

def applied (name argument : String) : String := name ++ "(" ++ argument ++ ")"

def option : Option String → String
  | some value => applied "Some" value
  | none => "None"

def list (values : List String) : String := "[" ++ String.intercalate ", " values ++ "]"

def bool (value : Bool) : String := if value then "true" else "false"

end ShaderInterface.Text.Structured
