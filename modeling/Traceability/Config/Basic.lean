import Traceability.Glob.Pattern
import Traceability.Json.Printer
import Traceability.Json.Reader
import Traceability.Language.Basic

/-!
The configuration of a check: which files are read, and in which language.

A configuration is written as a JSON object, whose fields may be left out, or as an
array of them in order.  Unknown fields are skipped; a repeated field is an error.
-/

namespace Traceability

structure Config where
  includes : List Text
  ignores : List Text
  lang : Text
  deriving DecidableEq, Repr

inductive ConfigError
  | unreadable (path : Text)
  | malformed (path : Text)
  | invalidIgnore (pattern : Text)
  | invalidInclude (pattern : Text)
  | unknownLanguage (lang : Text)
  deriving DecidableEq, Repr

namespace Config

def fileName : Text :=
  ".reqsatrc.json".toList

/-- The configuration where there is none: all files but those that are not written by
hand, each in the language of its extension. -/
def standard : Config :=
  { includes := ["**/*".toList]
    ignores := ["**/node_modules/**".toList, "**/__pycache__/**".toList, "**/*.map".toList,
      "**/.git/**".toList, "**/target/**".toList]
    lang := "auto".toList }

/-! ### Reading and writing -/

def textsOf? : Json → Option (List Text)
  | .array elements => elements.mapM Json.text?
  | _ => none

/-- The only member of a name; `fallback` where there is none, and nothing where the
name is repeated. -/
def uniqueMember? {α : Type} (members : List (JsonString × Json)) (name : String)
    (decode : Json → Option α) (fallback : α) : Option α :=
  match members.filter fun (key, _) => key == some name.toList with
  | [] => some fallback
  | [(_, value)] => decode value
  | _ => none

def element? {α : Type} (value : Option Json) (decode : Json → Option α) (fallback : α) :
    Option α :=
  match value with
  | none => some fallback
  | some value => decode value

def ofJson? : Json → Option Config
  | .object members => do
      if members.any fun (name, _) => name.isNone then
        none
      else
        let includes ← uniqueMember? members "includes" textsOf? standard.includes
        let ignores ← uniqueMember? members "ignores" textsOf? standard.ignores
        let lang ← uniqueMember? members "lang" Json.text? standard.lang
        return { includes, ignores, lang }
  | .array elements => do
      if elements.length > 3 then
        none
      else
        let includes ← element? elements[0]? textsOf? standard.includes
        let ignores ← element? elements[1]? textsOf? standard.ignores
        let lang ← element? elements[2]? Json.text? standard.lang
        return { includes, ignores, lang }
  | _ => none

def parse? (text : Text) : Option Config :=
  (Json.parse? text).bind ofJson?

def toJson (config : Config) : Json :=
  .ofMembers [("includes", .ofTexts config.includes), ("ignores", .ofTexts config.ignores),
    ("lang", .ofText config.lang)]

def standardText : Text :=
  standard.toJson.pretty

/-! ### Validity -/

def isGlob (pattern : Text) : Bool :=
  (GlobPattern.parse pattern).isOk

def choice (config : Config) : Except ConfigError LanguageChoice :=
  match LanguageChoice.ofName? config.lang with
  | some choice => .ok choice
  | none => .error (.unknownLanguage config.lang)

/-- The language of a configuration all of whose patterns are globs.  The patterns for
ignored files are looked at first. -/
def validate (config : Config) : Except ConfigError LanguageChoice :=
  match config.ignores.find? (!isGlob ·), config.includes.find? (!isGlob ·) with
  | some pattern, _ => .error (.invalidIgnore pattern)
  | none, some pattern => .error (.invalidInclude pattern)
  | none, none => config.choice

end Config
end Traceability
