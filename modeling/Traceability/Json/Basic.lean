import Traceability.Text.Basic

/-!
JSON values.

A number keeps its literal, since an integer with a fraction of zero is not the same
number as one without.  An object keeps its members in order, with repeated names.
A string literal can name half of a surrogate pair; such a string is well formed but
stands for no text.
-/

namespace Traceability

/-- The text of a string literal, if it stands for one. -/
abbrev JsonString := Option Text

inductive Json
  | null
  | boolean (value : Bool)
  | number (literal : Text)
  | string (value : JsonString)
  | array (elements : List Json)
  | object (members : List (JsonString × Json))

namespace Json

def ofText (text : Text) : Json :=
  .string (some text)

def ofNat (number : Nat) : Json :=
  .number (Text.ofNat number)

def ofMembers (members : List (String × Json)) : Json :=
  .object (members.map fun (name, value) => (some name.toList, value))

def ofTexts (texts : List Text) : Json :=
  .array (texts.map ofText)

def text? : Json → Option Text
  | string value => value
  | _ => none

def nat? : Json → Option Nat
  | number literal =>
      if literal.all fun c => '0' ≤ c && c ≤ '9' then
        some (literal.foldl (fun value c => 10 * value + (c.toNat - '0'.toNat)) 0)
      else
        none
  | _ => none

/-- The member of an object with the given name, the last one where it is repeated. -/
def member? (name : String) : Json → Option Json
  | object members =>
      (members.reverse.find? fun (key, _) => key == some name.toList).map (·.2)
  | _ => none

end Json
end Traceability
