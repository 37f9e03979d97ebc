import Tether.Json
import Tether.Settings.Basic

/-!
Settings as they are printed: as a YAML document with a line to a setting, or as JSON. Of the
document any part can be printed; a section without a line of its own leaves out its header too.
-/

namespace Tether.Settings

def switchText (on : Bool) : String := if on then "true" else "false"

/-- The text of one value. -/
def valueText (s : Settings) : Setting → String
  | .lingerSecs => toString s.lingerSecs
  | .initialRetries => toString s.initialRetries
  | .initialGraceMs => toString s.initialGraceMs
  | .subsequentRetries => toString s.subsequentRetries
  | .subsequentGraceMs => toString s.subsequentGraceMs
  | .connectTimeoutMs => toString s.connectTimeoutMs
  | .keepalive => switchText s.keepalive

/-- The line of one setting. -/
def lineOf (s : Settings) (setting : Setting) : String :=
  "  " ++ setting.name ++ ": " ++ s.valueText setting ++ "\n"

/-- The lines of a section of which the settings in `kept` are printed. -/
def sectionLines (s : Settings) (kept : Setting → Bool) (sec : Section) : List String :=
  match sec.settings.filter kept with
  | [] => []
  | settings => (sec.name ++ ":\n") :: settings.map s.lineOf

/-- The document with the settings in `kept`. -/
def partText (s : Settings) (kept : Setting → Bool) : String :=
  String.join (Section.all.flatMap (s.sectionLines kept))

/-- The document with all settings. -/
def text (s : Settings) : String := s.partText fun _ => true

def valueJson (s : Settings) : Setting → Json
  | .lingerSecs => .number s.lingerSecs
  | .initialRetries => .number s.initialRetries
  | .initialGraceMs => .number s.initialGraceMs
  | .subsequentRetries => .number s.subsequentRetries
  | .subsequentGraceMs => .number s.subsequentGraceMs
  | .connectTimeoutMs => .number s.connectTimeoutMs
  | .keepalive => .switch s.keepalive

def json (s : Settings) : Json :=
  .fields (Section.all.map fun sec =>
    (sec.name, .fields (sec.settings.map fun setting => (setting.name, s.valueJson setting))))

end Tether.Settings
