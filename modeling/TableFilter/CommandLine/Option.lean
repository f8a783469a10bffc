import TableFilter.Decimal.Word
import TableFilter.Entries
import TableFilter.Text.Split

/-!
# Options of a command line

What the words of a command line say: options by their long or short names, with values attached
or in the next word. The value of an option is looked at only when the next option comes, or at
the end, so the fault of an unknown word in between is told first.
-/

namespace TableFilter.CommandLine

/-- Why the words of a command line do not make a command. -/
inductive Stop where
  /-- An option that must be there is not. -/
  | missingOption
  /-- A word or an option that is not known. -/
  | unknownWord
  /-- An option without the value it needs. -/
  | noValue
  /-- A value that should be a number. -/
  | noNumber
  /-- A word that should be the name of a command. -/
  | unknownCommand
  /-- An option that came before. -/
  | repeated
  /-- A value for an option that takes none. -/
  | unneededValue
  | help
  | version
  /-- No words at all. -/
  | nothing
  /-- Options, but no command. -/
  | noCommand
  deriving DecidableEq, Repr

/-- What an option takes. -/
inductive Takes where
  | nothing
  | text
  | number
  /-- Texts with commas between them. -/
  | texts
  /-- Texts with commas between them, none of which is empty. -/
  | paths
  /-- Nothing: it asks for help. -/
  | helpRequest
  /-- Nothing: it asks for the version. -/
  | versionRequest
  deriving DecidableEq, Repr

structure Opt where
  long : String
  short : Option Char
  takes : Takes
  deriving DecidableEq, Repr

def Opt.hasValue (o : Opt) : Bool :=
  match o.takes with
  | .text | .number | .texts | .paths => true
  | .nothing | .helpRequest | .versionRequest => false

/-- The values of the options given so far, by their long names. -/
abbrev Given : Type :=
  List (String × List String)

/-- Paths with commas between them, none of which may be empty. -/
def pathsOf (value : String) : Except Stop (List String) :=
  let paths := Text.splitCommas value
  if paths.any String.isEmpty then .error .noValue else .ok paths

/-- The values that an option has once a value has been taken over. -/
def Opt.valuesOf (o : Opt) (before : Option (List String)) (value : String) :
    Except Stop (List String) :=
  match o.takes with
  | .texts => .ok (before.getD [] ++ Text.splitCommas value)
  | .paths => (pathsOf value).map (before.getD [] ++ ·)
  | .number =>
    if before.isSome then .error .repeated
    else match Decimal.readWord value with
      | .ok _ => .ok [value]
      | .error _ => .error .noNumber
  | _ => if before.isSome then .error .repeated else .ok [value]

/-- Takes over an option and its value. -/
def Given.accept (given : Given) (o : Opt) (value : Option String) : Except Stop Given :=
  match o.takes, value with
  | .helpRequest, _ => .error .help
  | .versionRequest, _ => .error .version
  | .nothing, _ =>
    if (Entries.get? o.long given).isSome then .error .repeated
    else .ok (Entries.put o.long [] given)
  | _, none => .error .noValue
  | _, some value => do
    let values ← o.valuesOf (Entries.get? o.long given) value
    return Entries.put o.long values given

/-- How far the words have been read: what has been given, the option that has not been taken over
yet, with its value if that has come, and whether a double dash has ended the options. -/
structure Progress where
  given : Given
  pending : Option (Opt × Option String)
  ended : Bool
  deriving Repr

namespace Progress

def start : Progress :=
  ⟨[], none, false⟩

/-- Takes over the option that has not been taken over yet. -/
def settle (p : Progress) : Except Stop Progress :=
  match p.pending with
  | none => .ok p
  | some (o, value) => do
    let given ← p.given.accept o value
    return { p with given, pending := none }

/-- Takes over an option at once, after the one before it. -/
def take (p : Progress) (o : Opt) (value : Option String) : Except Stop Progress := do
  let p ← p.settle
  let given ← p.given.accept o value
  return { p with given }

/-- Leaves an option for the next word to give its value. -/
def await (p : Progress) (o : Opt) : Except Stop Progress := do
  let p ← p.settle
  return { p with pending := some (o, none) }

def awaits (p : Progress) : Bool :=
  match p.pending with
  | some (_, none) => true
  | _ => false

/-- Reads the short options of one word. The first one that takes a value takes the rest of the
word, if there is any. -/
def readShort (options : List Opt) (p : Progress) : List Char → Except Stop Progress
  | [] => .ok p
  | c :: rest =>
    match options.find? (·.short == some c) with
    | none => .error .unknownWord
    | some o =>
      if o.hasValue then
        match rest with
        | [] => p.await o
        | '=' :: value => p.take o (some (String.ofList value))
        | value => p.take o (some (String.ofList value))
      else do
        let p ← p.take o none
        p.readShort options rest

/-- Reads a long option, its value behind an equals sign. -/
def readLong (options : List Opt) (p : Progress) (cs : List Char) : Except Stop Progress :=
  let name := String.ofList (cs.takeWhile (· != '='))
  match options.find? (·.long == name), cs.dropWhile (· != '=') with
  | none, _ => .error .unknownWord
  | some o, [] => if o.hasValue then p.await o else p.take o none
  | some o, _ :: value =>
    if o.hasValue then p.take o (some (String.ofList value)) else .error .unneededValue

/-- The kinds of word that a command line is made of. -/
inductive Word where
  | doubleDash
  | long (cs : List Char)
  | short (cs : List Char)
  | plain
  deriving DecidableEq, Repr

/-- The kind of a word. A single dash is a plain word. -/
def Word.of (word : String) : Word :=
  match word.toList with
  | ['-', '-'] => .doubleDash
  | '-' :: '-' :: cs => .long cs
  | ['-'] => .plain
  | '-' :: cs => .short cs
  | _ => .plain

/-- Reads a word that is the value of an option, or no option where one is known. -/
def readPlain (commands : List String) (p : Progress) (word : String) : Except Stop Progress :=
  match p.ended, p.pending with
  | false, some (o, none) => .ok { p with pending := some (o, some word) }
  | ended, _ =>
    if commands.isEmpty || (ended && commands.contains word) then .error .unknownWord
    else .error .unknownCommand

/-- Reads words up to the name of a command, which is given back with the words behind it. -/
def readWords (options : List Opt) (commands : List String) (p : Progress) :
    List String → Except Stop (Progress × Option (String × List String))
  | [] => .ok (p, none)
  | word :: rest =>
    if !p.ended && !p.awaits && commands.contains word then .ok (p, some (word, rest))
    else if p.ended then do
      let p ← p.readPlain commands word
      p.readWords options commands rest
    else match Word.of word with
      | .doubleDash => readWords options commands { p with ended := true } rest
      | .long cs => do
        let p ← p.readLong options cs
        p.readWords options commands rest
      | .short cs => do
        let p ← p.readShort options cs
        p.readWords options commands rest
      | .plain => do
        let p ← p.readPlain commands word
        p.readWords options commands rest

end Progress

namespace Given

def value? (given : Given) (long : String) : Option String :=
  (Entries.get? long given).bind List.head?

/-- The value of an option that must be there. -/
def value (given : Given) (long : String) : Except Stop String :=
  match given.value? long with
  | some v => .ok v
  | none => .error .missingOption

def values (given : Given) (long : String) : List String :=
  (Entries.get? long given).getD []

/-- The number that is the value of an option. -/
def word? (given : Given) (long : String) : Option UInt64 :=
  (given.value? long).bind fun v => (Decimal.readWord v).toOption

def has (given : Given) (long : String) : Bool :=
  (Entries.get? long given).isSome

end Given

end TableFilter.CommandLine
