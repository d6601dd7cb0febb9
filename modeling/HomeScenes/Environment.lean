import HomeScenes.Number.Whole
import HomeScenes.Text.Quoted

/-!
# Settings in the environment

  A setting that is empty counts as not set.
-/

namespace HomeScenes

/-- The environment: names and texts. -/
abbrev Environment := List (String × String)

/-- What is wrong with a setting. -/
inductive SettingError where
  | unset (name : String)
  | notInteger (text : String)
  | tooLong (digits : Nat)
  | unknownLevel (level : String)
deriving DecidableEq

/-- A text in quotes, cut when it is long; a cut text has lost its closing quote. -/
def SettingError.excerpt (text : String) : String :=
  String.ofList ((Text.quoted text).toList.take 200)

/-- **The message** of a setting error. -/
def SettingError.message : SettingError → String
  | .unset name => name ++ " was not set in the environment"
  | .notInteger text => "invalid literal for int() with base 10: " ++ excerpt text
  | .tooLong digits => Whole.tooLongMessage digits
  | .unknownLevel level => "Unknown level: " ++ Text.quoted level

namespace Environment

/-- A setting, if it is set. -/
def setting? (env : Environment) (name : String) : Option String :=
  (env.lookup name).filter fun text => !text.isEmpty

/-- **A setting that has to be set.** -/
def require (env : Environment) (name : String) : Except SettingError String :=
  match env.setting? name with
  | some text => .ok text
  | none => .error (.unset name)

/-- The integer that a setting spells. -/
def integer (text : String) : Except SettingError Int :=
  match Whole.ofSetting text with
  | .ok n => .ok n
  | .error .unreadable => .error (.notInteger text)
  | .error (.tooLong digits) => .error (.tooLong digits)

/-- The integer of a setting, or a default when it is not set. -/
def integerOr (default : Int) : Option String → Except SettingError Int
  | none => .ok default
  | some text => integer text

end Environment
end HomeScenes
