import FieldGrouping.Files.Path

/-! What can be wrong with a configuration, and how it is said. -/

set_option autoImplicit false

namespace FieldGrouping.Config

inductive OptionFault where
  | notBoolean
  | unclearBoolean
  | notInteger
  | belowOne
  | notList
  | notText
  deriving DecidableEq, Repr

def OptionFault.message : OptionFault → String
  | .notBoolean => "Input should be a valid boolean"
  | .unclearBoolean => "Input should be a valid boolean, unable to interpret input"
  | .notInteger => "Input should be a valid integer"
  | .belowOne => "Input should be greater than or equal to 1"
  | .notList => "Input should be a valid list"
  | .notText => "Input should be a valid string"

/-- Why a configuration is refused. Where one option is to blame, its key is given as it is
spelled in the table. -/
inductive ConfigError where
  | notTable
  | invalidOption (key : String) (fault : OptionFault)
  | notNames (key : String)
  | malformedDocument (path : Path) (complaint : String)
  deriving DecidableEq, Repr

namespace ConfigError

def key? : ConfigError → Option String
  | .notTable => none
  | .invalidOption key _ => some key
  | .notNames key => some key
  | .malformedDocument _ _ => none

def message : ConfigError → String
  | .notTable => "rule configuration must be a table"
  | .invalidOption key fault => "invalid value for '" ++ key ++ "': " ++ fault.message
  | .notNames key => "'" ++ key ++ "' must be a list of strings"
  | .malformedDocument path complaint => path.text ++ ": invalid TOML: " ++ complaint

end ConfigError

end FieldGrouping.Config
