import Tether.Text.Quoted

/-!
Why settings could not be loaded, told from the outside in.
-/

namespace Tether

inductive SettingsError where
  /-- The file could not be read as text. -/
  | unreadable (path : String)
  | malformed
  /-- The settings of a file are of no use. -/
  | unusable (complaint : String)
  /-- The settings of the environment are of no use. -/
  | unusableEnvironment (complaint : String)
  deriving Repr, DecidableEq

namespace SettingsError

/-- The error and what is behind it; texts of the reader itself are left out. -/
def chain : SettingsError → List String
  | unreadable path => ["Failed to read config file: " ++ Text.quotedPath path]
  | malformed => ["Failed to parse YAML configuration"]
  | unusable complaint => [complaint]
  | unusableEnvironment complaint => ["Invalid configuration from environment", complaint]

end SettingsError

end Tether
