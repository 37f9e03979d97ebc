import Tether.Command.Run
import Tether.Proofs.Numerals
import Tether.Proofs.Outline
import Tether.Proofs.Overlay
import Tether.Settings.Printed

/-! Printed settings load back. Any part of the printed document is an outline, and its tree gives
the settings that were printed and the defaults of the others. -/

namespace Tether

/-- The file at that path holds the text. -/
def SettingsSource.Holds (source : SettingsSource) (path text : String) : Prop :=
  (source.files.read? path).bind Text.decode = some text

namespace Settings

open Yaml

variable {cs : List Char} {n : Nat}

/-! ### Counts -/

theorem hexValue_of_isDigit {c : Char} (h : c.isDigit) :
    hexValue c = some (c.toNat - 48) ∧ c.toNat - 48 < 10 := by
  have hRange : 48 ≤ c.toNat ∧ c.toNat ≤ 57 := by
    simpa [Char.isDigit, UInt32.le_iff_toNat_le] using h
  refine ⟨by simp [hexValue, h], by omega⟩

/-- The reader of a document values digits as the spelling of numerals does. -/
theorem digitsIn_of_spells (h : Text.Spells cs n) : digitsIn 10 cs = some n := by
  have hFold (cs : List Char) (hDigit : ∀ c ∈ cs, c.isDigit) (value : Nat) :
      cs.foldl (fun n c => n.bind fun n => (hexValue c).bind fun d =>
        if d < 10 then some (10 * n + d) else none) (some value) =
          some (Nat.ofDigitChars 10 cs value) := by
    induction cs generalizing value with
    | nil => simp
    | cons c cs ih =>
        have hc := hexValue_of_isDigit (hDigit c (by simp))
        have hRest := ih fun d hd => hDigit d (List.mem_cons_of_mem c hd)
        simp [hc, hRest, Nat.ofDigitChars_cons]
  have hNil : cs.isEmpty = false := by
    simpa using h.ne_nil
  simp [digitsIn, hNil, hFold cs h.isDigit 0, h.value]

/-- No zero stands in front of the digits of a number. -/
theorem head?_toDigits (h : 0 < n) : (Nat.toDigits 10 n).head? ≠ some '0' := by
  induction n using Nat.strongRecOn with
  | ind n ih =>
      by_cases hSmall : n < 10
      · have hDigit : n ≠ 0 := by omega
        simp [Nat.toDigits_of_lt_base hSmall, hDigit]
      · have hTenth := ih (n / 10) (by omega) (by omega)
        rw [Nat.toDigits_of_base_le (by omega) (by omega),
          List.head?_append_of_ne_nil _ Nat.toDigits_ne_nil]
        exact hTenth

theorem hasSpareZero_toDigits (n : Nat) : hasSpareZero (Nat.toDigits 10 n) = false := by
  by_cases h : n = 0
  · subst h
    decide
  · have hHead := head?_toDigits (Nat.pos_of_ne_zero h)
    unfold hasSpareZero
    split
    · next hDigits => simp [hDigits] at hHead
    · rfl

/-- A count that is printed is read as the same count. -/
theorem countOf_toDigits (n : Nat) : countOf (Nat.toDigits 10 n) = some n := by
  have hSpells := Text.spells_toDigits n
  have hPlus : Text.dropPlus (Nat.toDigits 10 n) = Nat.toDigits 10 n := by
    unfold Text.dropPlus
    split
    · next hDigits => simpa using hSpells.isDigit '+' (by simp [hDigits])
    · rfl
  have hLetter {c : Char} (hc : c.isDigit = false) (rest : List Char) :
      Nat.toDigits 10 n ≠ '0' :: c :: rest := by
    intro hDigits
    simpa [hc] using hSpells.isDigit c (by simp [hDigits])
  simp only [countOf, hPlus]
  split
  · next hDigits => exact absurd hDigits (hLetter (by decide) _)
  · next hDigits => exact absurd hDigits (hLetter (by decide) _)
  · next hDigits => exact absurd hDigits (hLetter (by decide) _)
  · simp [hasSpareZero_toDigits, digitsIn_of_spells hSpells]

/-! ### The printed document -/

/-- The field that is printed for a setting, if its line is kept. -/
def fieldOf? (s : Settings) (kept : Setting → Bool) (setting : Setting) : Option Field :=
  if kept setting then
    some { name := setting.name.toList, value := (s.valueText setting).toList }
  else none

/-- What is printed for a section, if any of its lines is kept. -/
def blockOf? (s : Settings) (kept : Setting → Bool) (sec : Section) : Option Block :=
  if sec.settings.any kept then
    some { name := sec.name.toList, fields := sec.settings.filterMap (s.fieldOf? kept) }
  else none

/-- The document that the kept lines make up: a block for each section that has any. -/
def outline (s : Settings) (kept : Setting → Bool) : List Block :=
  Section.all.filterMap (s.blockOf? kept)

variable {s : Settings} {kept : Setting → Bool}

theorem any_kept_iff {settings : List Setting} :
    settings.any kept = true ↔ settings.filter kept ≠ [] := by
  simp [List.filter_eq_nil_iff]

theorem flatMap_lineOf (s : Settings) (kept : Setting → Bool) (settings : List Setting) :
    ((settings.filter kept).map s.lineOf).flatMap String.toList =
      (settings.filterMap (s.fieldOf? kept)).flatMap Field.text := by
  induction settings with
  | nil => rfl
  | cons setting settings ih =>
      by_cases h : kept setting <;> simp [h, ih, fieldOf?, lineOf, Field.text]

theorem flatMap_sectionLines (s : Settings) (kept : Setting → Bool) (sec : Section) :
    (s.sectionLines kept sec).flatMap String.toList =
      (s.blockOf? kept sec).toList.flatMap Block.text := by
  have hLines := flatMap_lineOf s kept sec.settings
  by_cases hAny : sec.settings.any kept
  · obtain ⟨first, rest, hFilter⟩ := List.exists_cons_of_ne_nil (any_kept_iff.mp hAny)
    rw [hFilter] at hLines
    simp [sectionLines, hFilter, blockOf?, hAny, Block.text, ← hLines]
  · have hNone : sec.settings.filter kept = [] := of_not_not (mt any_kept_iff.mpr hAny)
    simp [sectionLines, hNone, blockOf?, hAny]

/-- The printed text is that of the outline, so that what holds of outlines can be used. -/
theorem toList_partText (s : Settings) (kept : Setting → Bool) :
    (s.partText kept).toList = outlineText (s.outline kept) := by
  simp [partText, String.toList_join, outlineText, outline, List.filterMap_eq_flatMap_toList,
    List.flatMap_assoc, ← flatMap_sectionLines]

theorem sectionLines_sublist (s : Settings) (kept : Setting → Bool) (sec : Section) :
    (s.sectionLines kept sec).Sublist (s.sectionLines (fun _ => true) sec) := by
  have hKept : (sec.settings.filter kept).Sublist (sec.settings.filter fun _ => true) := by
    simp
  cases hSome : sec.settings.filter kept with
  | nil => simp [sectionLines, hSome]
  | cons first rest =>
      cases hAll : sec.settings.filter fun _ => true with
      | nil => simp [hSome, hAll] at hKept
      | cons a as =>
          rw [hSome, hAll] at hKept
          simp only [sectionLines, hSome, hAll]
          exact (hKept.map s.lineOf).cons_cons _

/-- A section prints a line for each setting that is kept, under its name if there is any. -/
theorem mem_sectionLines_iff {sec : Section} {line : String} :
    line ∈ s.sectionLines kept sec ↔
      (∃ setting ∈ sec.settings, kept setting = true ∧ line = s.lineOf setting) ∨
        sec.settings.any kept = true ∧ line = sec.name ++ ":\n" := by
  have hLines : (∃ setting ∈ sec.settings, kept setting = true ∧ line = s.lineOf setting) ↔
      line ∈ (sec.settings.filter kept).map s.lineOf := by
    simp only [List.mem_map, List.mem_filter, and_assoc, eq_comm]
  rw [any_kept_iff, hLines, sectionLines]
  cases sec.settings.filter kept <;> simp [or_comm]

/-- What is kept of a printed document: the lines of these settings and the headers of their
sections, in the order in which they stand in it. -/
def Keeps (s : Settings) (kept : Setting → Bool) (text whole : String) : Prop :=
  ∃ part lines : List String, text = String.join part ∧ whole = String.join lines ∧
    part.Sublist lines ∧ ∀ line, line ∈ part ↔
      (∃ setting, kept setting = true ∧ line = s.lineOf setting) ∨
        ∃ sec : Section, sec.settings.any kept = true ∧ line = sec.name ++ ":\n"

/-- The lines that are kept stand in the whole document, in the same order. -/
theorem partLines_sublist (s : Settings) (kept : Setting → Bool) :
    (Section.all.flatMap (s.sectionLines kept)).Sublist
      (Section.all.flatMap (s.sectionLines fun _ => true)) := by
  induction Section.all with
  | nil => exact .slnil
  | cons sec sections ih => simpa using (sectionLines_sublist s kept sec).append ih

theorem partText_keeps (s : Settings) (kept : Setting → Bool) :
    s.Keeps kept (s.partText kept) s.text := by
  refine ⟨_, _, rfl, rfl, partLines_sublist s kept, fun line => ?_⟩
  simp only [List.mem_flatMap, mem_sectionLines_iff]
  constructor
  · rintro ⟨sec, _, ⟨setting, _, hKept, rfl⟩ | ⟨hAny, rfl⟩⟩
    · exact .inl ⟨setting, hKept, rfl⟩
    · exact .inr ⟨sec, hAny, rfl⟩
  · rintro (⟨setting, hKept, rfl⟩ | ⟨sec, hAny, rfl⟩)
    · obtain ⟨sec, hSec, hSetting⟩ := List.mem_flatMap.mp (mem_all setting)
      exact ⟨sec, hSec, .inl ⟨setting, hSetting, hKept, rfl⟩⟩
    · exact ⟨sec, by cases sec <;> decide, .inr ⟨hAny, rfl⟩⟩

/-! ### Its words -/

theorem isKey_section (sec : Section) : IsKey sec.name.toList := by
  cases sec <;> decide

theorem isKey_setting (setting : Setting) : IsKey setting.name.toList := by
  cases setting <;> decide

theorem isWord_toString (n : Nat) : IsWord (toString n).toList := by
  have hSpells := Text.spells_toDigits n
  rw [show (toString n).toList = Nat.toDigits 10 n by simp]
  refine ⟨hSpells.ne_nil, fun c hc => ?_⟩
  simp [isWordChar, Char.isAlphanum, hSpells.isDigit c hc]

theorem isWord_valueText (s : Settings) (setting : Setting) :
    IsWord (s.valueText setting).toList := by
  cases setting with
  | keepalive =>
      cases h : s.keepalive <;> simp only [valueText, switchText, h] <;> decide
  | lingerSecs | initialRetries | initialGraceMs | subsequentRetries | subsequentGraceMs
  | connectTimeoutMs => exact isWord_toString _

/-- Names and values are single words, which is all that the reader asks of an outline. -/
theorem wellFormed_outline (s : Settings) (kept : Setting → Bool) :
    ∀ b ∈ s.outline kept, b.WellFormed := by
  intro b hb
  obtain ⟨sec, -, hBlock⟩ := List.mem_filterMap.mp hb
  simp only [blockOf?, Option.ite_none_right_eq_some, Option.some.injEq] at hBlock
  obtain ⟨hAny, rfl⟩ := hBlock
  refine ⟨isKey_section sec, fun f hf => ?_, ?_⟩
  · obtain ⟨setting, -, hField⟩ := List.mem_filterMap.mp hf
    simp only [fieldOf?, Option.ite_none_right_eq_some, Option.some.injEq] at hField
    obtain ⟨-, rfl⟩ := hField
    exact ⟨isKey_setting setting, isWord_valueText s setting⟩
  · simpa [fieldOf?] using hAny

/-! ### Reading it -/

/-- A mapping of words to nodes is read as it stands. -/
theorem fieldsOf_mapping (d : Document) (fields : List (List Char × Node)) :
    fieldsOf d (.mapping (fields.map fun field => (wordNode field.1, field.2))) = some fields := by
  simp only [fieldsOf, Document.resolve, List.mapM_map]
  induction fields with
  | nil => rfl
  | cons field fields ih => simp_all [Function.comp_def, wordNode]

variable {κ : Type} {name : κ → String} {keys : List κ} {key : κ}
  {g : κ → Option (List Char × Node)}

/-- Of the fields that keys may have, those of another name are left out. -/
theorem filter_filterMap_of_name (hName : ∀ key, ∀ field ∈ g key, field.1 = (name key).toList)
    (hNodup : (keys.map name).Nodup) (hKey : key ∈ keys) :
    ((keys.filterMap g).filter fun field => field.1 == (name key).toList) = (g key).toList := by
  have hOwn : ((g key).toList.filter fun field => field.1 == (name key).toList) =
      (g key).toList := by
    simpa [List.filter_eq_self] using hName key
  have hNone {others : List κ} (hne : name key ∉ others.map name) :
      ((others.filterMap g).filter fun field => field.1 == (name key).toList) = [] := by
    rw [List.filter_eq_nil_iff]
    intro field hField hSame
    obtain ⟨other, hOther, hg⟩ := List.mem_filterMap.mp hField
    rw [beq_iff_eq, hName other field hg, String.toList_inj] at hSame
    exact hne (hSame ▸ List.mem_map_of_mem hOther)
  induction keys with
  | nil => cases hKey
  | cons first keys ih =>
      obtain ⟨hFirst, hRest⟩ := List.nodup_cons.mp hNodup
      have hCons : (first :: keys).filterMap g = [first].filterMap g ++ keys.filterMap g := by
        rw [← List.filterMap_append, List.singleton_append]
      rw [hCons, List.filter_append]
      rcases List.mem_cons.mp hKey with rfl | hMem
      · rw [hNone hFirst, List.append_nil, List.filterMap_eq_flatMap_toList, List.flatMap_singleton,
          hOwn]
      · have hne : name key ∉ [first].map name := by
          intro hSame
          rw [List.map_singleton, List.mem_singleton] at hSame
          exact hFirst (hSame ▸ List.mem_map_of_mem hMem)
        rw [hNone hne, ih hRest hMem, List.nil_append]

/-- A field is found by its name, under which no other one stands. -/
theorem withField_filterMap {α : Type} (hName : ∀ key, ∀ field ∈ g key, field.1 = (name key).toList)
    (hNodup : (keys.map name).Nodup) (hKey : key ∈ keys) (absent : α) (f : Node → Option α) :
    withField (name key) (keys.filterMap g) absent f =
      ((g key).map fun field => f field.2).getD (some absent) := by
  rw [withField, filter_filterMap_of_name hName hNodup hKey]
  cases g key <;> rfl

/-- No count is larger than its width allows. -/
structure InRange (s : Settings) : Prop where
  lingerSecs : s.lingerSecs ≤ Setting.largest .lingerSecs
  initialRetries : s.initialRetries ≤ Setting.largest .initialRetries
  initialGraceMs : s.initialGraceMs ≤ Setting.largest .initialGraceMs
  subsequentRetries : s.subsequentRetries ≤ Setting.largest .subsequentRetries
  subsequentGraceMs : s.subsequentGraceMs ≤ Setting.largest .subsequentGraceMs
  connectTimeoutMs : s.connectTimeoutMs ≤ Setting.largest .connectTimeoutMs

theorem countOfNode_toString {largest : Nat} (h : n ≤ largest) :
    countOfNode largest (wordNode (toString n).toList) = some n := by
  simp [countOfNode, wordNode, readable, countOf_toDigits, h]

theorem switchOfNode_switchText (on : Bool) :
    switchOfNode (wordNode (switchText on).toList) = some on := by
  cases on <;> decide

/-- A value in range is read back as the value that was printed. -/
theorem valueOfNode_valueText (h : s.InRange) (setting : Setting) :
    valueOfNode (wordNode (s.valueText setting).toList) setting = some (s.get setting) := by
  cases setting with
  | lingerSecs => exact countOfNode_toString h.lingerSecs
  | initialRetries => exact countOfNode_toString h.initialRetries
  | initialGraceMs => exact countOfNode_toString h.initialGraceMs
  | subsequentRetries => exact countOfNode_toString h.subsequentRetries
  | subsequentGraceMs => exact countOfNode_toString h.subsequentGraceMs
  | connectTimeoutMs => exact countOfNode_toString h.connectTimeoutMs
  | keepalive => exact switchOfNode_switchText s.keepalive

/-- The settings whose lines are kept. -/
def part (s : Settings) (kept : Setting → Bool) (setting : Setting) : Option setting.Value :=
  if kept setting then some (s.get setting) else none

/-- A fold none of whose steps fails is a plain fold. -/
theorem foldlM_eq_foldl {α β : Type} {f : β → α → Option β} {f' : β → α → β} {as : List α}
    (h : ∀ a ∈ as, ∀ b, f b a = some (f' b a)) (b : β) : as.foldlM f b = some (as.foldl f' b) := by
  induction as generalizing b with
  | nil => rfl
  | cons a as ih =>
      have hRest := ih fun a ha => h a (List.mem_cons_of_mem _ ha)
      simp [h a (by simp), hRest]

theorem name_of_fieldOf? {setting : Setting} {f : Field} (h : s.fieldOf? kept setting = some f) :
    f.name = setting.name.toList := by
  simp only [fieldOf?, Option.ite_none_right_eq_some, Option.some.injEq] at h
  rw [← h.2]

theorem name_of_blockOf? {sec : Section} {b : Block} (h : s.blockOf? kept sec = some b) :
    b.name = sec.name.toList := by
  simp only [blockOf?, Option.ite_none_right_eq_some, Option.some.injEq] at h
  rw [← h.2]

theorem nodup_sections : (Section.all.map Section.name).Nodup := by decide

theorem nodup_settings (sec : Section) : (sec.settings.map Setting.name).Nodup := by
  cases sec <;> decide

theorem fieldsOf_fields (d : Document) (s : Settings) (kept : Setting → Bool) (sec : Section) :
    fieldsOf d (.mapping ((sec.settings.filterMap (s.fieldOf? kept)).map Field.entry)) =
      some (sec.settings.filterMap fun setting =>
        (s.fieldOf? kept setting).map fun f => (f.name, wordNode f.value)) := by
  rw [← fieldsOf_mapping d, List.map_filterMap, List.map_filterMap]
  simp only [Option.map_map]
  rfl

/-- Of a section all settings are taken over whose lines are kept. -/
theorem readSection_fields (h : s.InRange) (d : Document) (sec : Section) (t : Settings) :
    readSection d sec (.mapping ((sec.settings.filterMap (s.fieldOf? kept)).map Field.entry)) t =
      some (sec.settings.foldl (give (s.part kept)) t) := by
  rw [readSection, fieldsOf_fields, Option.bind_some]
  apply foldlM_eq_foldl
  intro setting hSetting t
  have hName (setting : Setting) : ∀ field ∈ (s.fieldOf? kept setting).map fun f =>
      (f.name, wordNode f.value), field.1 = setting.name.toList := by
    intro field hField
    obtain ⟨f, hf, rfl⟩ := Option.map_eq_some_iff.mp hField
    exact name_of_fieldOf? hf
  have hValue : valueOfNode (d.resolve (wordNode (s.valueText setting).toList)) setting =
      some (s.get setting) := valueOfNode_valueText h setting
  rw [withField_filterMap hName (nodup_settings sec) hSetting]
  by_cases hKept : kept setting <;> simp [fieldOf?, give, part, hKept, hValue]

theorem fieldsOf_outline (d : Document) (s : Settings) (kept : Setting → Bool) :
    fieldsOf d (.mapping ((s.outline kept).map Block.entry)) =
      some (Section.all.filterMap fun sec =>
        (s.blockOf? kept sec).map fun b => (b.name, .mapping (b.fields.map Field.entry))) := by
  rw [← fieldsOf_mapping d, outline, List.map_filterMap, List.map_filterMap]
  simp only [Option.map_map]
  rfl

/-- Section by section, the kept settings are given their own values and the others keep theirs. -/
theorem readDocument_outline (h : s.InRange) (d : Document)
    (hRoot : d.root = .mapping ((s.outline kept).map Block.entry)) :
    readDocument d = some (overlay (s.part kept)) := by
  rw [readDocument, hRoot, fieldsOf_outline, Option.bind_some, overlay, Setting.all,
    List.foldl_flatMap]
  apply foldlM_eq_foldl
  intro sec hSec t
  have hName (sec : Section) : ∀ field ∈ (s.blockOf? kept sec).map fun b =>
      (b.name, Node.mapping (b.fields.map Field.entry)), field.1 = sec.name.toList := by
    intro field hField
    obtain ⟨b, hb, rfl⟩ := Option.map_eq_some_iff.mp hField
    exact name_of_blockOf? hb
  rw [withField_filterMap hName nodup_sections hSec]
  by_cases hAny : sec.settings.any kept
  · simp [blockOf?, hAny, readSection_fields h]
  · have hNone : sec.settings.foldl (give (s.part kept)) t = t := by
      apply ext_get
      intro setting
      rw [get_foldl_give]
      split
      · next hMem =>
          have hDropped : kept setting = false := by
            simp only [List.any_eq_true, not_exists, not_and, Bool.not_eq_true] at hAny
            exact hAny setting hMem
          simp [part, hDropped]
      · rfl
    simp [blockOf?, hAny, hNone]

/-- Whatever part of it is printed: what is read is that part, and the defaults of the rest. -/
theorem read?_partText (h : s.InRange) (kept : Setting → Bool) :
    read? (s.partText kept) = some (overlay (s.part kept)) := by
  rw [read?, toList_partText]
  by_cases hNil : s.outline kept = []
  -- a text without a document and a document without entries give the same
  · have hDocument : readDocument { root := .mapping [] } = some (overlay (s.part kept)) :=
      readDocument_outline h _ (by rw [hNil]; rfl)
    rw [hNil, ← hDocument]
    rfl
  · rw [ofText?_outline (wellFormed_outline s kept) hNil, Option.bind_some, ofTokens?_outline]
    exact readDocument_outline h _ rfl

/-- A setting that was kept is loaded, and any other is at its default. -/
theorem get_overlay_part (s : Settings) (kept : Setting → Bool) (setting : Setting) :
    (overlay (s.part kept)).get setting =
      if kept setting then s.get setting else get {} setting := by
  rw [get_overlay, part]
  split <;> rfl

/-! ### Loading it -/

/-- The file is loaded unless it says that the linger is zero, the one value in range that is
refused. -/
theorem ofFile_partText (h : s.InRange) {source : SettingsSource} {path : String}
    (hFile : source.Holds path (s.partText kept)) :
    ofFile path source =
      if kept .lingerSecs ∧ s.lingerSecs = 0 then
        .error (.unusable "pool.linger_secs must be greater than zero")
      else .ok (overlay (s.part kept)) := by
  have hLinger : (overlay (s.part kept)).lingerSecs =
      if kept .lingerSecs then s.lingerSecs else 10 := get_overlay_part s kept .lingerSecs
  have hText : ofFile path source = ofText (s.partText kept) := by
    rw [ofFile, hFile]
  by_cases hKept : kept .lingerSecs = true <;> by_cases hZero : s.lingerSecs = 0 <;>
    simp [hText, ofText, read?_partText h, complaint?, hLinger, hKept, hZero]

/-- Where every line is kept, nothing is left to the defaults. -/
theorem overlay_part_all (s : Settings) : overlay (s.part fun _ => true) = s := by
  apply ext_get
  intro setting
  simp [get_overlay_part]

/-- Of the document that the command prints any lines of settings can be kept, with the headers of
their sections, and a file with these lines gives back what they say and the defaults of the rest. It
is of no use exactly if a line in it says that idle handles linger for no time. All that the command
prints gives back the settings as they were. -/
theorem printed_loads_back (h : s.InRange) (source : SettingsSource) (path : String) :
    (∀ (kept : Setting → Bool) (network : Network),
      s.Keeps kept (s.partText kept) (Command.config.perform s network .text).text) ∧
    (∀ kept : Setting → Bool, source.Holds path (s.partText kept) →
      ∃ loaded : Settings,
        (∀ setting, loaded.get setting =
          if kept setting then s.get setting else get {} setting) ∧
        ofFile path source =
          if kept .lingerSecs ∧ s.lingerSecs = 0 then
            .error (.unusable "pool.linger_secs must be greater than zero")
          else .ok loaded) ∧
    ∀ network : Network, source.Holds path (Command.config.perform s network .text).text →
      s.lingerSecs ≠ 0 → ofFile path source = .ok s := by
  refine ⟨fun kept _ => partText_keeps s kept, ?_, ?_⟩
  · intro kept hFile
    exact ⟨overlay (s.part kept), get_overlay_part s kept, ofFile_partText h hFile⟩
  · intro network hFile hLinger
    have hText : source.Holds path (s.partText fun _ => true) := hFile
    simpa [hLinger, overlay_part_all] using ofFile_partText h hText

/-- Two lines that were kept of settings whose idle handles linger as long as can be. -/
def reloadedFiles : Files :=
  [("kept.yaml",
    Text.encode "pool:\n  linger_secs: 18446744073709551615\ndial:\n  keepalive: false\n")]

theorem kept_lines_load_back :
    let s : Settings :=
      { lingerSecs := 18446744073709551615, initialRetries := 0, keepalive := false }
    let kept (setting : Setting) : Bool := setting = .lingerSecs ∨ setting = .keepalive
    let source : SettingsSource := { files := reloadedFiles }
    s.InRange ∧ s.Keeps kept (s.partText kept) s.text ∧
      source.Holds "kept.yaml" (s.partText kept) ∧ ofFile "kept.yaml" source =
        .ok { lingerSecs := 18446744073709551615, keepalive := false } := by
  intro s kept source
  have hRange : s.InRange := by constructor <;> decide
  have hFile : source.Holds "kept.yaml" (s.partText kept) := by
    unfold SettingsSource.Holds
    decide +kernel
  obtain ⟨hKeeps, hLoads, _⟩ := printed_loads_back hRange source "kept.yaml"
  obtain ⟨loaded, hLoaded, hLoad⟩ := hLoads kept hFile
  have hSame : loaded = { lingerSecs := 18446744073709551615, keepalive := false } := by
    apply ext_get
    intro setting
    rw [hLoaded]
    cases setting <;> rfl
  refine ⟨hRange, hKeeps kept fun _ _ => .blocked "", hFile, ?_⟩
  rw [hLoad, hSame]
  rfl

end Settings

end Tether
