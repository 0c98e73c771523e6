import TradeWire.Text.Numeral
import TradeWire.Text.Quoted
import TradeWire.Text.Uppercase

/-!
# Settings

Defaults for connections. Each setting can be given by a variable of the environment, whose name is
that of the setting in upper case after a prefix. A numeric variable that is empty counts as absent.
The settings are loaded one by one: those before a variable that cannot be read have been loaded.
-/

namespace TradeWire

/-- The variables of an environment. -/
abbrev Environment := List (String × String)

/-- A variable that cannot be read as what its setting asks for. -/
inductive SettingError where
  | notInteger (name value : String)
  | notNumber (name value : String)
  deriving DecidableEq

def SettingError.message : SettingError → String
  | .notInteger name value => name ++ " must be an integer, not " ++ Text.quoted value
  | .notNumber name value => name ++ " must be a number, not " ++ Text.quoted value

namespace Environment

/-- The variable for a setting. -/
def variableOf (setting : String) : String := "IBWIRE_" ++ Text.uppercase setting

/-- The text of a setting, if it is given. -/
def text? (environment : Environment) (setting : String) : Option String :=
  environment.lookup (variableOf setting)

/-- A setting that is an integer, if it is given. -/
def int? (environment : Environment) (setting : String) : Except SettingError (Option Int) :=
  match environment.text? setting with
  | none | some "" => .ok none
  | some value =>
    match Text.readInt value with
    | .ok number => .ok (some number)
    | .error _ => .error (.notInteger (variableOf setting) value)

/-- A setting that is a number, if it is given. -/
def double? (environment : Environment) (setting : String) :
    Except SettingError (Option Double) :=
  match environment.text? setting with
  | none | some "" => .ok none
  | some value =>
    match Text.readDouble? value with
    | some number => .ok (some number)
    | none => .error (.notNumber (variableOf setting) value)

end Environment

/-- Defaults for connections. -/
structure Settings where
  host : String := "127.0.0.1"
  port : Int := 7497
  clientId : Int := 0
  /-- How many bytes are received at a time. -/
  chunkSize : Int := 4096
  /-- The longest wait in seconds while connecting; zero is no limit. -/
  connectTimeout : Double := Double.ofDecimal false 10 0
  /-- How many deliveries may wait; zero is no limit. -/
  channelDepth : Int := 0
  capabilities : String := ""
  deriving DecidableEq

namespace Settings

instance : Inhabited Settings := ⟨{}⟩

/-- Loads one setting. -/
abbrev Loading := Environment → Settings → Except SettingError Settings

def ofText (setting : String) (put : Settings → String → Settings) (default : String) : Loading :=
  fun environment settings => .ok (put settings ((environment.text? setting).getD default))

def ofInt (setting : String) (put : Settings → Int → Settings) (default : Int) : Loading :=
  fun environment settings => do return put settings ((← environment.int? setting).getD default)

def ofDouble (setting : String) (put : Settings → Double → Settings) (default : Double) :
    Loading :=
  fun environment settings => do return put settings ((← environment.double? setting).getD default)

/-- The settings in the order in which they are loaded. -/
def loadings : List Loading := [
  ofText "host" (fun s v => { s with host := v }) (default : Settings).host,
  ofInt "port" (fun s v => { s with port := v }) (default : Settings).port,
  ofInt "client_id" (fun s v => { s with clientId := v }) (default : Settings).clientId,
  ofInt "chunk_size" (fun s v => { s with chunkSize := v }) (default : Settings).chunkSize,
  ofDouble "connect_timeout" (fun s v => { s with connectTimeout := v })
    (default : Settings).connectTimeout,
  ofInt "channel_hwm" (fun s v => { s with channelDepth := v }) (default : Settings).channelDepth,
  ofText "optional_capabilities" (fun s v => { s with capabilities := v })
    (default : Settings).capabilities]

/-- Loads settings one after another, up to the first that cannot be loaded. -/
def loadAll (environment : Environment) :
    List Loading → Settings → Settings × Option SettingError
  | [], settings => (settings, none)
  | loading :: rest, settings =>
    match loading environment settings with
    | .ok loaded => loadAll environment rest loaded
    | .error error => (settings, some error)

/-- Loads all settings anew. -/
def reload (environment : Environment) (settings : Settings) : Settings × Option SettingError :=
  loadAll environment loadings settings

/-- The longest wait while connecting, if there is a limit. -/
def timeout? (settings : Settings) : Option Double :=
  if settings.connectTimeout.isZero then none else some settings.connectTimeout

end Settings

end TradeWire
