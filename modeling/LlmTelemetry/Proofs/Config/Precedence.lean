import LlmTelemetry.Config.Load
import Mathlib.Data.Bool.Basic
/-!
# Which layer decides a setting

Every setting has the value that the highest layer gives it that says anything of it: the environment, the local file
of the project, its shared file, the file of the user, and last the defaults. A layer that repeats the default, or
gives an empty value, decides as any other. A file that can not be used says nothing of any setting, and the
environment can only turn capturing off and blackout on.

Which files can be used is told here without the loader (`FileContent.usable`): those that are missing, and those that
are a text and a document in which every key of the section has a value of the right type. The loader takes a layer
from a file just when it can be used.
-/

namespace LlmTelemetry

/-- One of the settings. -/
inductive SettingKey where
  | enabled
  | serverUrl
  | apiKey
  | agentId
  | cloud
  | redact
  | syncMode
  | integrations

/-- Whether a variable says yes, in letters of any case and with or without white space around it. -/
def Environment.saysYes (found : Option String) : Bool :=
  match found with
  | some text => (Unicode.trim text).toLower ∈ ["1", "true", "yes"]
  | none => false

/-- The value of a variable that is more than white space. -/
def Environment.said? (found : Option String) : Option String :=
  match found with
  | some text => if Unicode.trim text = "" then none else some text
  | none => none

theorem Environment.value?_eq (found : Option String) : value? found = said? found := by
  cases found with
  | none => rfl
  | some text => by_cases blank : Unicode.trim text = "" <;> simp [value?, said?, Option.filter, blank]

theorem Environment.isSet_eq (found : Option String) : isSet found = saysYes found := by
  rw [isSet, value?_eq]
  cases found with
  | none => rfl
  | some text =>
    by_cases blank : Unicode.trim text = ""
    · simp only [said?, saysYes, blank, if_true, Option.any_none]
      decide +kernel
    · simp [said?, saysYes, blank]

theorem findSome?_id_cons {α : Type} (first : Option α) (others : List (Option α)) :
    (first :: others).findSome? id = first.or (others.findSome? id) := by
  cases first <;> rfl

namespace SettingKey

/-- What a setting can be set to. -/
abbrev Value : SettingKey → Type
  | .enabled | .cloud | .redact | .syncMode => Bool
  | .serverUrl | .apiKey | .agentId => String
  | .integrations => List String

/-- The value among the settings; some of them have no default. -/
def value? : (key : SettingKey) → Settings → Option key.Value
  | .enabled, settings => some settings.enabled
  | .serverUrl, settings => settings.serverUrl
  | .apiKey, settings => settings.apiKey
  | .agentId, settings => some settings.agentId
  | .cloud, settings => some settings.cloud
  | .redact, settings => some settings.redact
  | .syncMode, settings => some settings.syncMode
  | .integrations, settings => settings.integrations

/-- What the environment says of a setting. -/
def inEnvironment : (key : SettingKey) → Environment → Option key.Value
  | .enabled, environment =>
    if Environment.saysYes environment.disabled || environment.doNotTrack.isSome then some false else none
  | .agentId, environment => Environment.said? environment.agentId
  | .redact, environment => if Environment.saysYes environment.redact then some true else none
  | .serverUrl, _ | .apiKey, _ | .cloud, _ | .syncMode, _ | .integrations, _ => none

/-- What a layer says of a setting. -/
def inLayer : (key : SettingKey) → Layer → Option key.Value
  | .enabled, layer => layer.enabled
  | .serverUrl, layer => layer.serverUrl
  | .apiKey, layer => layer.apiKey
  | .agentId, layer => layer.agentId
  | .cloud, layer => layer.cloud
  | .redact, layer => layer.redact
  | .syncMode, layer => layer.syncMode
  | .integrations, layer => layer.integrations

theorem inLayer_empty (key : SettingKey) : key.inLayer {} = none := by
  cases key <;> rfl

theorem value?_applyTo (key : SettingKey) (layer : Layer) (settings : Settings) :
    key.value? (layer.applyTo settings) = (key.inLayer layer).or (key.value? settings) := by
  cases key with
  | enabled | agentId | cloud | redact | syncMode => exact Option.or_some.symm
  | serverUrl | apiKey | integrations => rfl

theorem value?_environment (key : SettingKey) (environment : Environment) (settings : Settings) :
    key.value? (environment.applyTo settings) = (key.inEnvironment environment).or (key.value? settings) := by
  have turned_off (value flag : Bool) :
      some (value && !flag) = (if flag then some false else none).or (some value) := by
    cases flag <;> simp
  have turned_on (value flag : Bool) :
      some (value || flag) = (if flag then some true else none).or (some value) := by
    cases flag <;> simp
  cases key with
  | enabled =>
    rw [inEnvironment, ← Environment.isSet_eq]
    exact turned_off _ _
  | agentId =>
    rw [inEnvironment, ← Environment.value?_eq]
    exact Option.or_some.symm
  | redact =>
    rw [inEnvironment, ← Environment.isSet_eq]
    exact turned_on _ _
  | serverUrl | apiKey | cloud | syncMode | integrations => rfl

end SettingKey

/-! ## What a file says -/

namespace SettingKey

/-- The key in a file. -/
def name : SettingKey → String
  | .enabled => "enabled"
  | .serverUrl => "server_url"
  | .apiKey => "api_key"
  | .agentId => "agent_id"
  | .cloud => "cloud"
  | .redact => "redact"
  | .syncMode => "sync_mode"
  | .integrations => "integrations"

/-- All settings, in the order of the values in an array. -/
def all : List SettingKey :=
  [.enabled, .serverUrl, .apiKey, .agentId, .cloud, .redact, .syncMode, .integrations]

end SettingKey

namespace Toml

/-- A truth value. -/
def truth? : Toml → Option Bool
  | .boolean value => some value
  | _ => none

def text? : Toml → Option String
  | .string value => some value
  | _ => none

/-- The texts of an array of texts. -/
def texts? : Toml → Option (List String)
  | .array items => items.mapM text?
  | _ => none

/-- What a section holds under a key. An array in its place holds the values in the order of the keys. -/
def entry? (key : String) : Toml → Option Toml
  | .table _ entries => KeyedList.find? key entries
  | .array items | .tables items => KeyedList.find? key ((SettingKey.all.map SettingKey.name).zip items)
  | _ => none

end Toml

/-- What stands under the key of a setting, when it is of the right type. -/
def SettingKey.read? : (key : SettingKey) → Toml → Option key.Value
  | .enabled, found | .cloud, found | .redact, found | .syncMode, found => found.truth?
  | .serverUrl, found | .apiKey, found | .agentId, found => found.text?
  | .integrations, found => found.texts?

namespace Toml

/-- Whether a section can be used: it is a table or an array, with nothing but values of the right types under the
keys of the settings, or a date. -/
def holdsSettings (content : Toml) : Bool :=
  match content with
  | .table _ _ | .array _ | .tables _ =>
    SettingKey.all.all fun key => (content.entry? key.name).all fun found => (key.read? found).isSome
  | .datetime _ => true
  | .string _ | .integer _ | .float _ | .boolean _ => false

/-- What a document has in the place of the settings. -/
def section? : Toml → Option Toml
  | .table _ entries => KeyedList.find? "agentlens" entries
  | _ => none

/-- Whether a document can be used: it is a table, and its section can be used if there is one. -/
def usable : Toml → Bool
  | .table _ entries => (KeyedList.find? "agentlens" entries).all holdsSettings
  | _ => false

end Toml

namespace FileContent

/-- The document in a file, if the file is a text and the text is a document. -/
def document? : FileContent → Option Toml
  | .bytes content => (Utf8.decode? content).bind Toml.parse?
  | .absent | .unreadable => none

/-- Whether a file can be used: it is missing, or has a document in it that can be used. -/
def usable : FileContent → Bool
  | .absent => true
  | content => content.document?.any Toml.usable

/-- The content without what can not be used. -/
def orAbsent (content : FileContent) : FileContent :=
  if content.usable then content else .absent

end FileContent

/-- What a file says of a setting. One that can not be used says nothing. -/
def SettingKey.inFile (key : SettingKey) (content : FileContent) : Option key.Value :=
  if content.usable then ((content.document?.bind Toml.section?).bind (Toml.entry? key.name)).bind key.read?
  else none

/-! ## What the loader takes from a file -/

namespace Layer

/-- What is under a key, read as a value; nothing when the key is absent, and none when it can not be read. -/
def typed? {α : Type} (read? : Toml → Option α) (found : Option Toml) : Option (Option α) :=
  if found.all fun value => (read? value).isSome then some (found.bind read?) else none

theorem bool?_eq (found : Option Toml) : bool? found = typed? Toml.truth? found := by
  cases found with
  | none => rfl
  | some value => cases value <;> rfl

theorem string?_eq (found : Option Toml) : string? found = typed? Toml.text? found := by
  cases found with
  | none => rfl
  | some value => cases value <;> rfl

theorem strings?_eq (found : Option Toml) : strings? found = typed? Toml.texts? found := by
  have text?_eq : text? = Toml.text? := funext fun value => by cases value <;> rfl
  cases found with
  | none => rfl
  | some value =>
    cases value with
    | array items =>
      rw [strings?, typed?, Option.all_some, Option.bind_some, Toml.texts?, text?_eq]
      cases items.mapM Toml.text? <;> rfl
    | string _ | integer _ | float _ | boolean _ | datetime _ | tables _ | table _ _ => rfl

theorem typed?_eq_some {α : Type} {read? : Toml → Option α} {found : Option Toml} {value : Option α} :
    typed? read? found = some value ↔ (found.all fun value => (read? value).isSome) ∧ found.bind read? = value := by
  simp [typed?]

theorem isSome_bind_typed? {α β : Type} (read? : Toml → Option α) (found : Option Toml)
    (next : Option α → Option β) :
    (typed? read? found >>= next).isSome =
      ((found.all fun value => (read? value).isSome) && (next (found.bind read?)).isSome) := by
  rw [typed?]
  cases found.all fun value => (read? value).isSome <;> rfl

theorem isSome_ofLookup? (find : String → Option Toml) :
    (ofLookup? find).isSome =
      SettingKey.all.all fun key => (find key.name).all fun found => (key.read? found).isSome := by
  simp only [ofLookup?, bool?_eq, string?_eq, strings?_eq, isSome_bind_typed?]
  rfl

theorem isSome_ofSection? (content : Toml) : (ofSection? content).isSome = content.holdsSettings := by
  cases content with
  | table _ _ | array _ | tables _ =>
    rw [ofSection?, isSome_ofLookup?]
    rfl
  | datetime _ | string _ | integer _ | float _ | boolean _ => rfl

theorem inLayer_of_lookup {find : String → Option Toml} {layer : Layer} (read : ofLookup? find = some layer)
    (key : SettingKey) : key.inLayer layer = (find key.name).bind key.read? := by
  simp only [ofLookup?, bool?_eq, string?_eq, strings?_eq, bind, Option.bind_eq_some_iff, typed?_eq_some, pure,
    Option.some.injEq] at read
  obtain ⟨_, ⟨-, rfl⟩, _, ⟨-, rfl⟩, _, ⟨-, rfl⟩, _, ⟨-, rfl⟩, _, ⟨-, rfl⟩, _, ⟨-, rfl⟩, _, ⟨-, rfl⟩, _,
    ⟨-, rfl⟩, rfl⟩ := read
  cases key <;> rfl

theorem inLayer_of_section {content : Toml} {layer : Layer} (read : ofSection? content = some layer)
    (key : SettingKey) : key.inLayer layer = (content.entry? key.name).bind key.read? := by
  rw [ofSection?.eq_def] at read
  cases content with
  | table _ _ | array _ | tables _ => exact inLayer_of_lookup read key
  | datetime _ =>
    cases read
    exact key.inLayer_empty
  | string _ | integer _ | float _ | boolean _ => cases read

theorem parse?_cases {text : String} {document : Toml} (parsed : Toml.parse? text = some document) :
    (∃ layer, parse? text = some layer ∧ document.usable = true ∧
      ∀ key : SettingKey, key.inLayer layer = (document.section?.bind (Toml.entry? key.name)).bind key.read?) ∨
      parse? text = none ∧ document.usable = false := by
  rw [parse?, parsed]
  cases document with
  | table origin entries =>
    dsimp only
    rw [sectionName, Toml.usable, Toml.section?]
    cases KeyedList.find? "agentlens" entries with
    | none => exact .inl ⟨{}, rfl, rfl, SettingKey.inLayer_empty⟩
    | some content =>
      rw [Option.all_some, ← isSome_ofSection?]
      dsimp only
      cases read : ofSection? content with
      | none => exact .inr ⟨rfl, rfl⟩
      | some layer => exact .inl ⟨layer, rfl, rfl, inLayer_of_section read⟩
  | string _ | integer _ | float _ | boolean _ | datetime _ | array _ | tables _ => exact .inr ⟨rfl, rfl⟩

end Layer

namespace FileContent

/-- The keys that the loader finds set; none of them when it can not read the file. -/
def layerOrNone (content : FileContent) : Layer :=
  match content.layer with
  | .ok layer => layer
  | .error _ => {}

/-- The loader takes a layer from a file just when the file can be used, with the settings that the file has in it. -/
theorem layer_cases (content : FileContent) :
    (∃ layer, content.layer = .ok layer ∧ content.usable = true ∧ ∀ key : SettingKey, key.inLayer layer =
      ((content.document?.bind Toml.section?).bind (Toml.entry? key.name)).bind key.read?) ∨
      ∃ fault, content.layer = .error fault ∧ content.usable = false := by
  cases content with
  | absent => exact .inl ⟨{}, rfl, rfl, SettingKey.inLayer_empty⟩
  | unreadable => exact .inr ⟨.unreadable, rfl, rfl⟩
  | bytes content =>
    simp only [layer, text?, usable, document?]
    cases Utf8.decode? content with
    | none => exact .inr ⟨.unreadable, rfl, rfl⟩
    | some text =>
      rw [Option.bind_some]
      dsimp only
      cases parsed : Toml.parse? text with
      | none => exact .inr ⟨.malformed, by rw [Layer.parse?, parsed], rfl⟩
      | some document =>
        obtain ⟨layer, read, usable, told⟩ | ⟨unread, unusable⟩ := Layer.parse?_cases parsed
        · exact .inl ⟨layer, by rw [read], usable, told⟩
        · exact .inr ⟨.malformed, by rw [unread], unusable⟩

theorem inLayer_layerOrNone (key : SettingKey) (content : FileContent) :
    key.inLayer content.layerOrNone = key.inFile content := by
  rw [layerOrNone, SettingKey.inFile]
  obtain ⟨layer, known, usable, told⟩ | ⟨fault, known, unusable⟩ := content.layer_cases
  · rw [known, if_pos usable]
    exact told key
  · rw [known, unusable]
    exact key.inLayer_empty

theorem layerOrNone_orAbsent (content : FileContent) : content.orAbsent.layerOrNone = content.layerOrNone := by
  rw [orAbsent]
  obtain ⟨layer, known, usable, -⟩ | ⟨fault, known, unusable⟩ := content.layer_cases
  · rw [if_pos usable]
  · rw [unusable, layerOrNone, layerOrNone, known]
    rfl

end FileContent

theorem Loading.settings_addFile (loading : Loading) (name : String) (content : FileContent) :
    (loading.addFile name content).settings = content.layerOrNone.applyTo loading.settings := by
  rw [addFile, FileContent.layerOrNone]
  cases content.layer with
  | ok layer => rfl
  | error fault => rfl

theorem Settings.load_settings (environment : Environment) (directory : String) (files : ConfigFiles) :
    (Settings.load environment directory files).settings =
      environment.applyTo (files.localOnly.layerOrNone.applyTo
        (files.project.layerOrNone.applyTo (files.user.layerOrNone.applyTo {}))) := by
  simp only [Settings.load, Loading.settings_addFile]

/-- The files with those left out that can not be used. -/
def ConfigFiles.orAbsent (files : ConfigFiles) : ConfigFiles :=
  ⟨files.user.orAbsent, files.project.orAbsent, files.localOnly.orAbsent⟩

/-- Every setting is as the highest layer says that says anything of it. Files that can not be used count as absent,
and with an environment capturing is never on, and blackout never off, where they are not without it. -/
theorem settings_decided_by_layers (environment : Environment) (directory : String) (files : ConfigFiles) :
    (∀ key : SettingKey, key.value? (Settings.load environment directory files).settings =
      [key.inEnvironment environment, key.inFile files.localOnly, key.inFile files.project, key.inFile files.user,
        key.value? {}].findSome? id) ∧
    (Settings.load environment directory files).settings =
      (Settings.load environment directory files.orAbsent).settings ∧
    (Settings.load environment directory files).settings.enabled ≤
      (Settings.load {} directory files).settings.enabled ∧
    (Settings.load {} directory files).settings.redact ≤
      (Settings.load environment directory files).settings.redact := by
  refine ⟨fun key => ?_, ?_, ?_, ?_⟩
  · rw [Settings.load_settings, SettingKey.value?_environment]
    simp only [SettingKey.value?_applyTo, FileContent.inLayer_layerOrNone, findSome?_id_cons, List.findSome?_nil,
      Option.or_none]
  · simp only [Settings.load_settings, ConfigFiles.orAbsent, FileContent.layerOrNone_orAbsent]
  · rw [Settings.load_settings, Settings.load_settings, Environment.applyTo, Environment.applyTo]
    have kept : (!({} : Environment).turnsOff) = true := rfl
    rw [kept, Bool.and_true]
    exact Bool.and_le_left _ _
  · rw [Settings.load_settings, Settings.load_settings, Environment.applyTo, Environment.applyTo]
    have unset : Environment.isSet ({} : Environment).redact = false := rfl
    rw [unset, Bool.or_false]
    exact Bool.left_le_or _ _

/-- The file of the project takes back what the file of the user sets, and the environment turns capturing off. The
local file has a value of the wrong type, so nothing in it counts. -/
theorem settings_decided_by_three_files :
    let environment : Environment := { disabled := some " Yes " }
    let files : ConfigFiles :=
      { user := .bytes "[agentlens]\nserver_url=\"u\"\nredact=true\nagent_id=\"a\"".toUTF8.toList
        project := .bytes "agentlens.redact=false\nagentlens.agent_id=\"\"".toUTF8.toList
        localOnly := .bytes "[agentlens]\napi_key=\"k\"\ncloud=\"yes\"".toUTF8.toList }
    (files.user.usable, files.project.usable, files.localOnly.usable) = (true, true, false) ∧
      (SettingKey.inFile .redact files.user = some true ∧ SettingKey.inFile .redact files.project = some false) ∧
      (SettingKey.inFile .agentId files.user = some "a" ∧ SettingKey.inFile .agentId files.project = some "") ∧
      SettingKey.inFile .apiKey files.localOnly = none ∧
      (∀ key : SettingKey, key.value? (Settings.load environment "." files).settings =
        [key.inEnvironment environment, key.inFile files.localOnly, key.inFile files.project, key.inFile files.user,
          key.value? {}].findSome? id) ∧
      (Settings.load environment "." files).settings =
        { enabled := false, serverUrl := some "u", agentId := "", redact := false } := by
  intro environment files
  obtain ⟨decided, -⟩ := settings_decided_by_layers environment "." files
  exact ⟨by decide +kernel, by decide +kernel, by decide +kernel, by decide +kernel, decided, by decide +kernel⟩

end LlmTelemetry
