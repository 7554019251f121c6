import Stepwise.Plan.Error
import Stepwise.Run.Error
import Stepwise.Settings.Error
import Stepwise.Tool.Registry

namespace Stepwise

-- Any error of the library.
inductive Error
  | plan (error : PlanError)
  | run (error : RunError)
  | registry (error : RegistryError)
  | tool (error : ToolError)
  | settings (error : SettingsError)

namespace Error

def message : Error → String
  | plan e => e.message
  | run e => e.message
  | registry e => e.message
  | tool e => e.message
  | settings e => e.message

def code : Error → String
  | plan e => e.code
  | run e => e.code
  | registry e => e.code
  | tool e => e.code
  | settings e => e.code

def help? : Error → Option String
  | plan e => some e.help
  | run e => some e.help
  | registry e => some e.help
  | tool e => e.help?
  | settings e => e.help?

end Error

end Stepwise
