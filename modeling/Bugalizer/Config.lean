import Bugalizer.Json

/-!
# Settings

The settings the modelled functions read, constant from one process start to the next.
`str.casefold` and the decimal text of the time bound are fields: the code hands them to
Python and only compares or quotes what comes back.
-/

namespace Bugalizer

set_option autoImplicit false

structure Settings where
  defaultTriageModel : String
  defaultLocalizeModel : String
  ollamaHost : String
  fixProvider : String
  defaultFixModel : String
  anthropicApiKey : String
  localizeMaxFiles : Int
  localizeMaxFileChars : Int
  fixMaxBundleBytes : Int
  fixMaxFileBytes : Int
  fixEnablePromptCaching : Bool
  fixTimeoutSeconds : Nat
  retryDelaySeconds : Int := 60
  maxTriageRetries : Int := 3
  maxLocalizeRetries : Int := 3
  maxFixRetries : Int := 2
  githubToken : Option String
  githubWebBase : String
  /-- `triage_action_timeout_minutes`, in microseconds. -/
  triageActionTimeout : Int
  /-- `f"{triage_action_timeout_minutes:g}"`. -/
  triageActionTimeoutText : String
  /-- Six significant digits, a sign, a point and an exponent at most. -/
  triageActionTimeoutTextShort : triageActionTimeoutText.length ≤ 13 := by decide
  triageMaxConcurrent : Int
  triagePushPerTick : Int
  sonicgridCloudUsers : String
  sonicgridUserKeys : Bool
  casefold : String → String

namespace Settings

def githubTokenValue (settings : Settings) : Option String :=
  match settings.githubToken with
  | none => none
  | some token => if Py.strip token = "" then none else some (Py.strip token)

/-- Splits at every comma, as `str.split(",")`. -/
def splitCommas (text : List Char) : List (List Char) :=
  text.foldr
    (fun c parts =>
      if c = ',' then [] :: parts
      else match parts with
        | [] => [[c]]
        | part :: rest => (c :: part) :: rest)
    [[]]

def sonicgridCloudUserSet (settings : Settings) : List String :=
  ((splitCommas settings.sonicgridCloudUsers.toList).map fun part =>
      String.ofList (Py.stripped part)).filter (· != "") |>.map settings.casefold

end Settings

end Bugalizer
