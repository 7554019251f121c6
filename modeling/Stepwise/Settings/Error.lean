namespace Stepwise

inductive SettingsError
  | unreadable (path detail : String)
  | unwritable (path detail : String)
  | invalid (path detail : String)
deriving DecidableEq

namespace SettingsError

def message : SettingsError → String
  | unreadable path detail => "failed to read config \"" ++ path ++ "\": " ++ detail
  | unwritable path detail => "failed to write config \"" ++ path ++ "\": " ++ detail
  | invalid path detail => "invalid config \"" ++ path ++ "\": " ++ detail

def code : SettingsError → String
  | unreadable .. => "bicameral::config::read"
  | unwritable .. => "bicameral::config::write"
  | invalid .. => "bicameral::config::parse"

def help? : SettingsError → Option String
  | unreadable .. => some "Check that the config file exists and is readable."
  | unwritable .. => none
  | invalid .. =>
    some "The config is TOML with optional [planner], [searcher], [fetcher] and [executor] tables."

end SettingsError

end Stepwise
