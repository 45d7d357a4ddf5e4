/-
# EventRules.Settings -- settings from the environment

Settings are read from environment variables.  With a profile every variable is
first looked up with the profile, in upper case, and an underscore before its
name.  A variable that is empty counts as unset, and an offset that is no integer
of 32 bits counts as zero.
-/
import EventRules.Calendar.Offset
import EventRules.Keyed
import EventRules.Text.Case
namespace EventRules

set_option autoImplicit false

open Text

/-- The variables of the environment. -/
abbrev Environment := List (String × String)

/-- Where a hook sends its notifications, and how. -/
structure HookSettings where
  url : Option String
  method : Option String
  bodyTemplate : Option String
  deriving DecidableEq, Repr

/-- Where rules and catalogs are read from, the local offset, and the hook. -/
structure Settings where
  profile : String
  rulesDir : String
  catalogDir : String
  offsetMinutes : Int
  hook : HookSettings
  deriving DecidableEq, Repr

/-- A setting that cannot be used. -/
structure SettingError where
  key : String
  reason : String
  deriving DecidableEq, Repr

/-- The wording. -/
def SettingError.message (e : SettingError) : String :=
  "Invalid configuration for " ++ e.key ++ ": " ++ e.reason

namespace Environment

/-- The value of a variable that is set and not empty. -/
def filled? (env : Environment) (key : String) : Option String :=
  (Keyed.get? key env).filter fun value => value != ""

/-- The value of a variable, that of the profile before the plain one. -/
def setting? (env : Environment) (profile key : String) : Option String :=
  if profile = "" then env.filled? key
  else (env.filled? (profile ++ "_" ++ key)).or (env.filled? key)

end Environment

namespace Settings

/-- The name of the variable of the local offset. -/
def offsetKey : String := "AUTOEVENT_UTC_OFFSET_MINUTES"

/-- The name of the variable of the profile. -/
def profileKey : String := "AUTOEVENT_PROFILE"

/-- The names of the variables that settings are read from. -/
def keys : List String :=
  ["AUTOEVENT_RULES_DIR", "AUTOEVENT_CATALOG_DIR", offsetKey, "AUTOEVENT_HOOK_URL",
    "AUTOEVENT_HOOK_METHOD", "AUTOEVENT_HOOK_TEMPLATE"]

/-- The names of all variables that the settings of a profile may be read from. -/
def variableNames (profile : String) : List String :=
  profileKey :: (keys ++ keys.map fun key => upper profile ++ "_" ++ key)

/-- The integer of 32 bits that a text is, with a sign if any. -/
def word? (s : String) : Option Int :=
  let signed :=
    match s.toList with
    | '+' :: digits => (natInBase? 10 digits).map fun n => (n : Int)
    | '-' :: digits => (natInBase? 10 digits).map fun n => -(n : Int)
    | digits => (natInBase? 10 digits).map fun n => (n : Int)
  signed.filter fun n => -(Int.pow 2 31) ≤ n && n < Int.pow 2 31

/-- The settings of a profile; the empty profile is the default one. -/
def ofProfile (env : Environment) (profile : String) : Settings :=
  let profile := upper profile
  { profile := profile
    rulesDir := (env.setting? profile "AUTOEVENT_RULES_DIR").getD "data/rules"
    catalogDir := (env.setting? profile "AUTOEVENT_CATALOG_DIR").getD "data/catalogs"
    offsetMinutes := ((env.setting? profile offsetKey).bind word?).getD 0
    hook :=
      { url := env.setting? profile "AUTOEVENT_HOOK_URL"
        method := env.setting? profile "AUTOEVENT_HOOK_METHOD"
        bodyTemplate := env.setting? profile "AUTOEVENT_HOOK_TEMPLATE" } }

/-- The settings of the profile that the environment names. -/
def ofEnvironment (env : Environment) : Settings :=
  ofProfile env ((Keyed.get? profileKey env).getD "")

/-- What the profile is called. -/
def label (s : Settings) : String :=
  if s.profile = "" then "default" else s.profile

/-- The local offset of a number of minutes, or why there is none. -/
def offsetOf (minutes : Int) : Except SettingError UtcOffset :=
  match UtcOffset.ofMinutes? minutes with
  | some offset => .ok offset
  | none =>
      .error ⟨offsetKey, String.ofList (ofInt minutes) ++ " is not a valid UTC offset"⟩

/-- The local offset, or why there is none. -/
def offset (s : Settings) : Except SettingError UtcOffset := offsetOf s.offsetMinutes

/-- Whether a hook is set up. -/
def hasHook (s : Settings) : Bool := s.hook.url.isSome

end Settings
end EventRules
