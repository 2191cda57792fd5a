import RefreshRate.Config.Reader
import RefreshRate.File

namespace RefreshRate

/-!
# Configuration files
-/

namespace Config

/-- Read the configuration from the text of the file at a path, if it can be read. -/
def ofFile
    (path : String)
    (content : Except FileError String) :
    ConfigReading :=
  match content with
  | .ok text =>
      ofText text
  | .error reason =>
      ⟨.error (.unreadable path reason.message), []⟩

end Config

end RefreshRate
