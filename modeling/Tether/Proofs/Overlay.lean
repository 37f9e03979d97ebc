import Tether.Proofs.Numerals
import Tether.Proofs.Table
import Tether.Settings.Environment

/-! Settings that are given in part. What is given for one setting leaves the others alone, and what
is not given stays as it is by default. Variables give each setting by a text of its own: that of the
process if there is one, else the first that the file of definitions has for it. -/

namespace Tether

namespace Settings

variable {s s' : Settings} {setting other : Setting}

/-! ### Settings given in part -/

theorem get_set_self (s : Settings) (setting : Setting) (value : setting.Value) :
    (s.set setting value).get setting = value := by
  cases setting <;> rfl

theorem get_set_of_ne (h : other ≠ setting) (s : Settings) (value : setting.Value) :
    (s.set setting value).get other = s.get other := by
  cases setting <;> cases other <;> first | rfl | exact absurd rfl h

theorem ext_get (h : ∀ setting, s.get setting = s'.get setting) : s = s' := by
  cases s
  cases s'
  simp only [mk.injEq]
  exact ⟨h .lingerSecs, h .initialRetries, h .initialGraceMs, h .subsequentRetries,
    h .subsequentGraceMs, h .connectTimeoutMs, h .keepalive⟩

theorem mem_all (setting : Setting) : setting ∈ Setting.all := by
  cases setting <;> decide

/-- Take over a setting if it is given. -/
def give (given : (setting : Setting) → Option setting.Value) (s : Settings) (setting : Setting) :
    Settings :=
  match given setting with
  | some value => s.set setting value
  | none => s

variable {given : (setting : Setting) → Option setting.Value}

theorem get_give (given : (setting : Setting) → Option setting.Value) (s : Settings)
    (setting other : Setting) : (s.give given setting).get other =
      if other = setting then (given other).getD (s.get other) else s.get other := by
  by_cases h : other = setting
  · subst h
    cases hGiven : given other <;> simp [give, hGiven, get_set_self]
  · cases hGiven : given setting <;> simp [give, hGiven, h, get_set_of_ne]

theorem get_foldl_give (settings : List Setting) (s : Settings) (setting : Setting) :
    (settings.foldl (give given) s).get setting =
      if setting ∈ settings then (given setting).getD (s.get setting) else s.get setting := by
  induction settings generalizing s with
  | nil => simp
  | cons first rest ih =>
      rw [List.foldl_cons, ih, get_give]
      by_cases hFirst : setting = first <;> by_cases hRest : setting ∈ rest <;>
        cases given setting <;> simp [hFirst, hRest]

/-- The settings that are given, and the defaults of the others. -/
def overlay (given : (setting : Setting) → Option setting.Value) : Settings :=
  Setting.all.foldl (give given) {}

theorem get_overlay (setting : Setting) :
    (overlay given).get setting = (given setting).getD (get {} setting) := by
  rw [overlay, get_foldl_give, if_pos (mem_all setting)]

end Settings

/-! ### Variables and the file of their definitions -/

namespace DotEnv

/-- The definitions that are read, one after another, up to the first that is malformed. A name that
stands without a value is defined as the empty text. -/
def read : List (Option (List Char)) → Known → Table String
  | [], _ | none :: _, _ => []
  | some line :: rest, known =>
    match readDefinition known line with
    | none => []
    | some none => read rest known
    | some (some (name, value)) =>
      (name, value.getD "") :: read rest (known.define name (value.getD ""))

theorem get?_define (known : Known) (name key value : String) :
    (known.define name value).set.get? key =
      (known.set.get? key).or (if key = name then some value else none) := by
  by_cases hSet : known.set.contains name
  · obtain ⟨old, hOld⟩ := Option.isSome_iff_exists.mp hSet
    by_cases hKey : key = name
    · simp [Known.define, hSet, hKey, hOld]
    · simp [Known.define, hSet, hKey]
  · have hNone : known.set.get? name = none := by
      simpa [Table.contains] using hSet
    by_cases hKey : key = name
    · simp [Known.define, hSet, hKey, hNone]
    · simp [Known.define, hSet, hKey]

/-- A variable that is set keeps its value, and any other gets the first that is defined for it. -/
theorem get?_takeOver (lines : List (Option (List Char))) (known : Known) (key : String) :
    (takeOver lines known).set.get? key = (known.set.get? key).or ((read lines known).get? key) := by
  induction lines generalizing known with
  | nil => simp [takeOver, read, Table.get?_nil]
  | cons line rest ih =>
      cases line with
      | none => simp [takeOver, read, Table.get?_nil]
      | some line =>
          cases hLine : readDefinition known line with
          | none => simp [takeOver, read, hLine, Table.get?_nil]
          | some definition =>
              cases definition with
              | none => simp [takeOver, read, hLine, ih]
              | some named =>
                  simp only [takeOver, read, hLine, ih, get?_define, Table.get?_cons,
                    Option.or_assoc]
                  by_cases hKey : key = named.1 <;> simp [hKey]

end DotEnv

namespace Settings

/-- The variables of a process that hold a text. The others are as good as not set. -/
def texts (process : Table (List UInt8)) : Table String :=
  process.filterMap fun entry => (Text.decode entry.2).map (entry.1, ·)

/-- The definitions that the file `.env` has, if there is one. -/
def defined (source : SettingsSource) : Table String :=
  match source.files.read? ".env" with
  | some octets => DotEnv.read (DotEnv.written octets) { set := source.env }
  | none => []

/-- How the value of a setting is written in a variable. -/
def Writes (cs : List Char) : (setting : Setting) → setting.Value → Prop
  | .lingerSecs, n => Text.IsNumeral Text.max64 cs n
  | .initialRetries, n => Text.IsNumeral Text.max32 cs n
  | .initialGraceMs, n => Text.IsNumeral Text.max64 cs n
  | .subsequentRetries, n => Text.IsNumeral Text.max32 cs n
  | .subsequentGraceMs, n => Text.IsNumeral Text.max64 cs n
  | .connectTimeoutMs, n => Text.IsNumeral Text.max64 cs n
  | .keepalive, on => cs = "true".toList ∧ on = true ∨ cs = "false".toList ∧ on = false

/-- The value that a setting gets where variables have these texts: the one that its own variable
holds with nothing but blanks around it, and the default if there is none. -/
inductive Given (text : String → Option String) (setting : Setting) : setting.Value → Prop where
  | read {held : String} {core : List Char} {value : setting.Value}
      (hHeld : text (variableOf setting) = some held)
      (hCore : Text.Stripped Text.isBlank Text.isBlank held.toList core)
      (hValue : Writes core setting value) : Given text setting value
  | default (hNone : ∀ held core value, text (variableOf setting) = some held →
      Text.Stripped Text.isBlank Text.isBlank held.toList core → ¬Writes core setting value) :
      Given text setting (get {} setting)

theorem numeral_trim_eq_some_iff {largest n : Nat} {cs : List Char} :
    Text.numeral largest (Text.trim cs) = some n ↔
      ∃ core, Text.Stripped Text.isBlank Text.isBlank cs core ∧ Text.IsNumeral largest core n := by
  simp [← Text.trim_eq_iff, Text.numeral_eq_some_iff]

theorem switchOfWord_eq_some_iff {on : Bool} {cs : List Char} :
    switchOfWord cs = some on ↔ cs = "true".toList ∧ on = true ∨ cs = "false".toList ∧ on = false := by
  unfold switchOfWord
  by_cases hTrue : cs = "true".toList
  · simp [hTrue, eq_comm]
  · by_cases hFalse : cs = "false".toList <;> simp_all [eq_comm]

theorem valueOfVariable_eq_some_iff (held : String) (setting : Setting) (value : setting.Value) :
    valueOfVariable held setting = some value ↔
      ∃ core, Text.Stripped Text.isBlank Text.isBlank held.toList core ∧
        Writes core setting value := by
  cases setting with
  | keepalive =>
      simp only [← Text.trim_eq_iff, exists_eq_left']
      exact switchOfWord_eq_some_iff
  | lingerSecs | initialRetries | initialGraceMs | subsequentRetries | subsequentGraceMs
  | connectTimeoutMs => exact numeral_trim_eq_some_iff

theorem ofVariables_eq (env : Table String) :
    ofVariables env = overlay fun setting =>
      (env.get? (variableOf setting)).bind fun held => valueOfVariable held setting := rfl

/-- Each setting goes by its own variable. -/
theorem given_ofVariables {env : Table String} {text : String → Option String}
    (hText : ∀ name, env.get? name = text name) (setting : Setting) :
    Given text setting ((ofVariables env).get setting) := by
  rw [ofVariables_eq, get_overlay, hText]
  cases hValue : (text (variableOf setting)).bind fun held => valueOfVariable held setting with
  | some value =>
      obtain ⟨held, hHeld, hValue⟩ := Option.bind_eq_some_iff.mp hValue
      obtain ⟨core, hCore, hWrites⟩ := (valueOfVariable_eq_some_iff held setting value).mp hValue
      exact .read hHeld hCore hWrites
  | none =>
      refine .default fun held core value hHeld hCore hWrites => ?_
      have hSome := (valueOfVariable_eq_some_iff held setting value).mpr ⟨core, hCore, hWrites⟩
      simp [hHeld, hSome] at hValue

theorem ofEnvironment_eq (source : SettingsSource) : ∃ env : Table String,
    (∀ name, env.get? name = (source.env.get? name).or ((defined source).get? name)) ∧
    ofEnvironment source = match (ofVariables env).complaint? with
      | some complaint => .error (.unusableEnvironment complaint)
      | none => .ok (ofVariables env) := by
  unfold ofEnvironment defined
  cases source.files.read? ".env" with
  | none => exact ⟨source.env, fun name => by simp [Table.get?_nil], rfl⟩
  | some octets => exact ⟨DotEnv.load octets source.env, DotEnv.get?_takeOver _ _, rfl⟩

/-- Whatever variables a process has, and whatever the file of definitions says: the text of a variable
is that of the process if it has one, and the file's otherwise. Each setting goes by the text of its
own variable, and keeps its default where there is none or it is no value. Loading fails exactly when
idle handles would linger for no time. -/
theorem environment_overlay (files : Files) (process : Table (List UInt8))
    (hOnce : process.keys.Nodup) :
    let source : SettingsSource := { files, env := texts process }
    let text (name : String) : Option String :=
      ((process.get? name).bind Text.decode).or ((defined source).get? name)
    ∃ s : Settings, (∀ setting, Given text setting (s.get setting)) ∧
      (ofEnvironment source).mapError SettingsError.chain =
        if s.lingerSecs = 0 then
          .error ["Invalid configuration from environment", "pool.linger_secs must be greater than zero"]
        else .ok s := by
  intro source text
  obtain ⟨env, hEnv, hLoad⟩ := ofEnvironment_eq source
  have hText (name : String) : env.get? name = text name := by
    rw [hEnv, show source.env.get? name = _ from Table.get?_filterMap hOnce Text.decode name]
  refine ⟨ofVariables env, given_ofVariables hText, ?_⟩
  by_cases hLinger : (ofVariables env).lingerSecs = 0 <;>
    simp [hLoad, complaint?, hLinger, Except.mapError, SettingsError.chain]

/-- A process with a value that is no text, and one that is no value of its setting. -/
def overlaidProcess : Table (List UInt8) :=
  [("HANDLEPOOL_LINGER_SECS", [0xFF]), ("HANDLEPOOL_INITIAL_RETRIES", Text.encode " +07\t"),
    ("HANDLEPOOL_KEEPALIVE", Text.encode "no")]

def overlaidFiles : Files :=
  [(".env", Text.encode "HANDLEPOOL_LINGER_SECS=5\nHANDLEPOOL_KEEPALIVE=false\n")]

/-- The first lets the definition of the file through, the second hides it. -/
theorem overlaid_given :
    let source : SettingsSource := { files := overlaidFiles, env := texts overlaidProcess }
    overlaidProcess.keys.Nodup ∧
      ofEnvironment source = .ok { lingerSecs := 5, initialRetries := 7 } ∧
      ∀ setting, Given
        (fun name => ((overlaidProcess.get? name).bind Text.decode).or ((defined source).get? name))
        setting (get { lingerSecs := 5, initialRetries := 7 } setting) := by
  intro source
  have hOnce : overlaidProcess.keys.Nodup := by decide
  have hLoaded : ofEnvironment source = .ok { lingerSecs := 5, initialRetries := 7 } := by
    decide +kernel
  obtain ⟨s, hGiven, hLoad⟩ := environment_overlay overlaidFiles overlaidProcess hOnce
  rw [show ofEnvironment { files := overlaidFiles, env := texts overlaidProcess } = _ from hLoaded]
    at hLoad
  split at hLoad
  · cases hLoad
  · cases hLoad
    exact ⟨hOnce, hLoaded, hGiven⟩

end Settings

end Tether
