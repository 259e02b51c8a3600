import Traceability.Mark.Finder

/-!
The languages whose comments are understood, and how one is chosen for a file.

A language has a name, file extensions and comment marks.  A choice either names
a language or leaves the choice to the extension; a file whose extension belongs to
no language is read with the marks of all of them together.
-/

namespace Traceability

/-- A language with comments.  `any` stands for all of them together. -/
inductive Language
  | c
  | cpp
  | cOrCpp
  | javaScript
  | typeScript
  | java
  | kotlin
  | rust
  | go
  | python
  | bash
  | shell
  | batch
  | any
  deriving DecidableEq, Repr

namespace Language

def all : List Language :=
  [c, cpp, cOrCpp, javaScript, typeScript, java, kotlin, rust, go, python, bash, shell,
    batch, any]

def name : Language → Text
  | c => "C".toList
  | cpp => "C++".toList
  | cOrCpp => "C/C++".toList
  | javaScript => "JavaScript".toList
  | typeScript => "TypeScript".toList
  | java => "Java".toList
  | kotlin => "Kotlin".toList
  | rust => "Rust".toList
  | go => "Go".toList
  | python => "Python".toList
  | bash => "Bash".toList
  | shell => "Shell".toList
  | batch => "Batch".toList
  | any => "Any".toList

/-- The extensions that select the language, in lower case. -/
def extensions : Language → List Text
  | c => ["c".toList, "h".toList]
  | cpp => ["cpp".toList, "cc".toList, "cxx".toList, "hpp".toList, "hh".toList]
  | javaScript => ["js".toList, "mjs".toList, "cjs".toList, "jsx".toList]
  | typeScript => ["ts".toList, "mts".toList, "cts".toList, "tsx".toList]
  | java => ["java".toList]
  | kotlin => ["kt".toList, "kts".toList]
  | rust => ["rs".toList]
  | go => ["go".toList]
  | python => ["py".toList]
  | bash => ["sh".toList, "bash".toList]
  | batch => ["bat".toList, "cmd".toList]
  | cOrCpp | shell | any => []

def ofName? (written : Text) : Option Language :=
  all.find? fun language => language.name == written

def ofNameIgnoringCase? (written : Text) : Option Language :=
  all.find? fun language => Text.equalIgnoringCase language.name written

/-- The language that an extension selects, up to the case of ASCII letters. -/
def ofExtension? (written : Text) : Option Language :=
  all.find? fun language => language.extensions.contains (written.map Text.asciiLower)

end Language

inductive LanguageChoice
  | auto
  | explicit (language : Language)
  deriving DecidableEq, Repr

namespace LanguageChoice

def name : LanguageChoice → Text
  | auto => "auto".toList
  | explicit language => language.name

def ofName? (written : Text) : Option LanguageChoice :=
  if Text.equalIgnoringCase "auto".toList written then
    some auto
  else
    (Language.ofNameIgnoringCase? written).map explicit

end LanguageChoice
end Traceability
