import Stepwise.Files
import Stepwise.Settings.Reader
import Stepwise.Settings.Writer

namespace Stepwise.Settings

def pathText (path : List String) : String := "/".intercalate path

-- Write the settings to a file, and make the folders that lead to it. Whether that went well stands
-- beside the files as they are afterwards.
def save (s : Settings) (path : List String) (fs : Files) : Except SettingsError Unit × Files :=
  match s.write? with
  | none => (.error (.invalid (pathText path) "a number is out of range"), fs)
  | some text =>
    match fs.makeFolders [] path.dropLast with
    | .error e => (.error (.unwritable (pathText path.dropLast) e.message), fs)
    | .ok fs =>
      match fs.write path (Text.encode text) with
      | .error e => (.error (.unwritable (pathText path) e.message), fs)
      | .ok fs => (.ok (), fs)

def load (path : List String) (fs : Files) : Except SettingsError Settings :=
  ofFile (pathText path) (match fs.read path with
    | .ok bytes => .ok bytes
    | .error e => .error e.message)

end Stepwise.Settings
