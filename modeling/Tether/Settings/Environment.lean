import Tether.DotEnv
import Tether.Files
import Tether.Settings.Document
import Tether.Text.Numeral

/-!
Where settings are loaded from: a file by its path, or variables. Each variable stands for one
setting; if it is not set or its text is no value, the setting keeps its default.
-/

namespace Tether

namespace Settings

/-- The variable that gives a setting. -/
def variableOf : Setting → String
  | .lingerSecs => "HANDLEPOOL_LINGER_SECS"
  | .initialRetries => "HANDLEPOOL_INITIAL_RETRIES"
  | .initialGraceMs => "HANDLEPOOL_INITIAL_GRACE_MS"
  | .subsequentRetries => "HANDLEPOOL_SUBSEQUENT_RETRIES"
  | .subsequentGraceMs => "HANDLEPOOL_SUBSEQUENT_GRACE_MS"
  | .connectTimeoutMs => "HANDLEPOOL_CONNECT_TIMEOUT_MS"
  | .keepalive => "HANDLEPOOL_KEEPALIVE"

def switchOfWord (cs : List Char) : Option Bool :=
  if cs = "true".toList then some true
  else if cs = "false".toList then some false
  else none

/-- The value that a variable's text gives a setting. Blanks around it do not count. -/
def valueOfVariable (text : String) : (setting : Setting) → Option setting.Value
  | .lingerSecs => Text.numeral Text.max64 (Text.trim text.toList)
  | .initialRetries => Text.numeral Text.max32 (Text.trim text.toList)
  | .initialGraceMs => Text.numeral Text.max64 (Text.trim text.toList)
  | .subsequentRetries => Text.numeral Text.max32 (Text.trim text.toList)
  | .subsequentGraceMs => Text.numeral Text.max64 (Text.trim text.toList)
  | .connectTimeoutMs => Text.numeral Text.max64 (Text.trim text.toList)
  | .keepalive => switchOfWord (Text.trim text.toList)

/-- Take over one setting from its variable. -/
def override (env : Table String) (s : Settings) (setting : Setting) : Settings :=
  match (env.get? (variableOf setting)).bind fun text => valueOfVariable text setting with
  | some value => s.set setting value
  | none => s

/-- The settings that variables give, usable or not. -/
def ofVariables (env : Table String) : Settings :=
  Setting.all.foldl (override env) {}

end Settings

/-- Where settings come from: the files in reach and the variables that are set. -/
structure SettingsSource where
  files : Files := []
  env : Table String := []

namespace Settings

/-- Load settings from variables. The definitions of a file `.env` count where a variable is not
set. -/
def ofEnvironment (source : SettingsSource) : Except SettingsError Settings :=
  let env := match source.files.read? ".env" with
    | some octets => DotEnv.load octets source.env
    | none => source.env
  let s := ofVariables env
  match s.complaint? with
  | some complaint => .error (.unusableEnvironment complaint)
  | none => .ok s

/-- Load settings from a file. -/
def ofFile (path : String) (source : SettingsSource) : Except SettingsError Settings :=
  match (source.files.read? path).bind Text.decode with
  | none => .error (.unreadable path)
  | some text => ofText text

/-- Load settings from a file if a path is given, else from variables. -/
def load (path : Option String) (source : SettingsSource) : Except SettingsError Settings :=
  match path with
  | some path => ofFile path source
  | none => ofEnvironment source

end Settings

end Tether
