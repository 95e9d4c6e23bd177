import RelayGateway.Settings.Codec
import RelayGateway.Settings.Override
import RelayGateway.Toml.Document

/-! # Where settings come from

* `SettingsFile`: what is found at the path of the settings file.
* `settingsPath`: the path, named by the environment or else by the kind of deployment.
* `loadFile`: the settings of a file, validated.
* `loadSettings`: the settings of a file with overrides, validated before and after these.
* `LiveSettings`: settings in use; a reload that fails leaves them as they are.
-/

set_option autoImplicit false

namespace RelayGateway

/-- What is found at the path of the settings file. -/
inductive SettingsFile where
  | missing
  /-- Something is there that cannot be read. -/
  | unreadable
  | bytes (content : ByteArray)

def settingsPath (environment : List Variable) : String :=
  match lookupVariable environment settingsPathVariable with
  | some path => path
  | none =>
    let deployment := (lookupVariable environment "RUST_ENV").getD "dev"
    s!"config/config.{deployment}.toml"

def SettingsFile.text (file : SettingsFile) (path : String) : Except ServiceError String :=
  match file with
  | .missing => .error (.config s!"配置文件不存在: {path}" none)
  | .unreadable => .error (.config s!"读取配置文件失败: {path}" (some "unreadable"))
  | .bytes content =>
    match String.fromUTF8? content with
    | some text => .ok text
    | none =>
      .error (.config s!"读取配置文件失败: {path}" (some "stream did not contain valid UTF-8"))

def Settings.ofDocument? (text : String) : Option Settings :=
  (Toml.parse? text).bind (Settings.ofJson? .ignored)

def loadFile (path : String) (file : SettingsFile) : Except ServiceError Settings := do
  let text ← file.text path
  match Settings.ofDocument? text with
  | none => .error .ofDocument
  | some settings =>
    settings.validate
    return settings

def loadSettings (path : String) (file : SettingsFile) (overrides : List Override) :
    Except ServiceError Settings := do
  let base ← loadFile path file
  let settings ← base.overrideAll overrides
  settings.validate
  return settings

/-- Settings in use, with what they were made from. -/
structure LiveSettings where
  path : String
  overrides : List Override
  current : Settings

namespace LiveSettings

def start (path : String) (file : SettingsFile) (overrides : List Override) :
    Except ServiceError LiveSettings := do
  let settings ← loadSettings path file overrides
  return ⟨path, overrides, settings⟩

def reload (live : LiveSettings) (file : SettingsFile) :
    Except ServiceError Settings × LiveSettings :=
  match loadSettings live.path file live.overrides with
  | .ok settings => (.ok settings, { live with current := settings })
  | .error err => (.error err, live)

end LiveSettings

end RelayGateway
