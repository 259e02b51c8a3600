import Traceability.Project.Check

/-!
The arguments of the command line.

An argument that starts with `--` names an option, and one that starts with `-` names
options of one letter; after `--` alone every argument is a value.  The value of an
option may be attached to it or be the next argument.  A value is looked at when the
next option or value is met, or at the end: until then it is pending.
-/

namespace Traceability.CommandLine

/-- Why arguments are not understood, or what is shown instead of running. -/
inductive UsageError
  | displayHelp
  | displayVersion
  | unknownArgument
  | invalidSubcommand
  | invalidValue
  | valueValidation
  | argumentConflict
  | tooManyValues
  deriving DecidableEq, Repr

def UsageError.name : UsageError → Text
  | displayHelp => "DisplayHelp".toList
  | displayVersion => "DisplayVersion".toList
  | unknownArgument => "UnknownArgument".toList
  | invalidSubcommand => "InvalidSubcommand".toList
  | invalidValue => "InvalidValue".toList
  | valueValidation => "ValueValidation".toList
  | argumentConflict => "ArgumentConflict".toList
  | tooManyValues => "TooManyValues".toList

inductive Command
  | overview
  | check (request : CheckRequest)
  | init
  | serve
  deriving DecidableEq, Repr

/-! ### The shape of an argument -/

inductive ArgumentShape
  | value
  | endOfOptions
  | long (name : Text) (attached : Option Text)
  | short (letters : Text)
  deriving DecidableEq, Repr

def shapeOf : Text → ArgumentShape
  | ['-', '-'] => .endOfOptions
  | '-' :: '-' :: rest =>
      match rest.dropWhile (· != '=') with
      | [] => .long rest none
      | _ :: attached => .long (rest.takeWhile (· != '=')) (some attached)
  | ['-'] => .value
  | '-' :: letters => .short letters
  | _ => .value

/-- The value attached to an option of one letter: what follows it, without an equality
sign in front. -/
def attachedValue : Text → Option Text
  | [] => none
  | '=' :: value => some value
  | value => some value

/-! ### The arguments of a check -/

inductive Slot
  | path
  | lang
  | include
  | exclude
  deriving DecidableEq, Repr

/-- The arguments read so far.  `pending` is the last slot met and its value, if that
has been met too. -/
structure Draft where
  path : Option Text := none
  lang : Option LanguageChoice := none
  includes : List Text := []
  excludes : List Text := []
  verbose : Bool := false
  pending : Option (Slot × Option Text) := none
  pathSeen : Bool := false
  deriving DecidableEq, Repr

namespace Draft

def choiceOf (value : Text) : Except UsageError LanguageChoice :=
  match LanguageChoice.ofName? value with
  | some choice => .ok choice
  | none => .error .valueValidation

def fill (draft : Draft) (slot : Slot) (value : Text) : Except UsageError Draft :=
  match slot with
  | .path => if value.isEmpty then .error .invalidValue else .ok { draft with path := some value }
  | .lang =>
      if draft.lang.isSome then
        .error .argumentConflict
      else
        (choiceOf value).map fun choice => { draft with lang := some choice }
  | .include => .ok { draft with includes := draft.includes ++ [value] }
  | .exclude => .ok { draft with excludes := draft.excludes ++ [value] }

def settle (draft : Draft) : Except UsageError Draft :=
  match draft.pending with
  | none => .ok draft
  | some (_, none) => .error .invalidValue
  | some (slot, some value) => { draft with pending := none }.fill slot value

def meet (draft : Draft) (slot : Slot) (attached : Option Text) : Except UsageError Draft := do
  let settled ← draft.settle
  match attached with
  | some value => settled.fill slot value
  | none => return { settled with pending := some (slot, none) }

def meetVerbose (draft : Draft) : Except UsageError Draft := do
  let settled ← draft.settle
  if settled.verbose then .error .argumentConflict else return { settled with verbose := true }

def meetHelp (draft : Draft) : Except UsageError Draft := do
  let _ ← draft.settle
  .error .displayHelp

def meetLong (draft : Draft) (name : Text) (attached : Option Text) :
    Except UsageError Draft :=
  match String.ofList name with
  | "lang" => draft.meet .lang attached
  | "include" => draft.meet .include attached
  | "exclude" => draft.meet .exclude attached
  | "verbose" => if attached.isSome then .error .tooManyValues else draft.meetVerbose
  | "help" => if attached.isSome then .error .tooManyValues else draft.meetHelp
  | _ => .error .unknownArgument

/-- Meets options by their letters.  One that takes a value takes the rest of them. -/
def meetShort (draft : Draft) : Text → Except UsageError Draft
  | [] => .ok draft
  | 'l' :: rest => draft.meet .lang (attachedValue rest)
  | 'i' :: rest => draft.meet .include (attachedValue rest)
  | 'x' :: rest => draft.meet .exclude (attachedValue rest)
  | 'v' :: rest => do
      let next ← draft.meetVerbose
      next.meetShort rest
  | 'h' :: _ => draft.meetHelp
  | _ => .error .unknownArgument

def meetPath (draft : Draft) (value : Text) : Except UsageError Draft :=
  if draft.pathSeen then
    .error .unknownArgument
  else do
    let settled ← draft.settle
    return { settled with pending := some (.path, some value), pathSeen := true }

def meetValue (draft : Draft) (value : Text) : Except UsageError Draft :=
  match draft.pending with
  | some (slot, none) => .ok { draft with pending := some (slot, some value) }
  | _ => draft.meetPath value

/-- Reads the arguments; after the end of the options all of them are values. -/
def readAll (draft : Draft) : List Text → Except UsageError Draft
  | [] => draft.settle
  | argument :: others =>
      match shapeOf argument with
      | .endOfOptions => do
          let last ← others.foldlM meetPath draft
          last.settle
      | .long name attached => do
          let next ← draft.meetLong name attached
          next.readAll others
      | .short letters => do
          let next ← draft.meetShort letters
          next.readAll others
      | .value => do
          let next ← draft.meetValue argument
          next.readAll others

/-- The request of the arguments.  The language of the environment stands in for one
that is not given. -/
def request (draft : Draft) (environment : Option Text) : Except UsageError CheckRequest := do
  let lang ←
    match draft.lang, environment with
    | some choice, _ => pure (some choice)
    | none, some value => (choiceOf value).map some
    | none, none => pure none
  return { path := draft.path.getD ['.'], lang, includes := draft.includes,
           excludes := draft.excludes, verbose := draft.verbose }

end Draft

/-! ### Commands -/

def readNone (command : Command) : List Text → Except UsageError Command
  | [] => .ok command
  | argument :: others =>
      match shapeOf argument with
      | .endOfOptions => if others.isEmpty then .ok command else .error .unknownArgument
      | .long name attached =>
          if name == "help".toList then
            .error (if attached.isSome then .tooManyValues else .displayHelp)
          else
            .error .unknownArgument
      | .short letters =>
          .error (if letters.head? == some 'h' then .displayHelp else .unknownArgument)
      | .value => .error .unknownArgument

def commandNames : List Text :=
  ["check".toList, "init".toList, "serve".toList, "help".toList]

def helpFor : List Text → UsageError
  | [] => .displayHelp
  | [name] => if commandNames.contains name then .displayHelp else .invalidSubcommand
  | _ => .invalidSubcommand

def readCheck (environment : Option Text) (arguments : List Text) : Except UsageError Command := do
  let draft ← ({} : Draft).readAll arguments
  return .check (← draft.request environment)

def readCommand (environment : Option Text) (name : Text) (arguments : List Text) :
    Except UsageError Command :=
  match String.ofList name with
  | "check" => readCheck environment arguments
  | "init" => readNone .init arguments
  | "serve" => readNone .serve arguments
  | "help" => .error (helpFor arguments)
  | _ => .error .invalidSubcommand

def parse (environment : Option Text) : List Text → Except UsageError Command
  | [] => .ok .overview
  | argument :: others =>
      match shapeOf argument with
      | .value => readCommand environment argument others
      | .endOfOptions =>
          match others with
          | [] => .ok .overview
          | first :: _ =>
              .error (if commandNames.contains first then .unknownArgument else .invalidSubcommand)
      | .long name attached =>
          if name == "help".toList then
            .error (if attached.isSome then .tooManyValues else .displayHelp)
          else if name == "version".toList then
            .error (if attached.isSome then .tooManyValues else .displayVersion)
          else
            .error .unknownArgument
      | .short letters =>
          match letters.head? with
          | some 'h' => .error .displayHelp
          | some 'V' => .error .displayVersion
          | _ => .error .unknownArgument

end Traceability.CommandLine
