import TableFilter.Json.Number

/-!
# Tokens of a JSON text

A text is cut into brackets, commas, colons, words, numbers and strings. Where no token starts, a
stray token ends the list, for nothing behind such a place is JSON any more.
-/

namespace TableFilter.Json

/-- A token. A number beyond the finite doubles has no value, and neither has a string in which an
escape names half of a surrogate pair. -/
inductive Token where
  | openArray
  | closeArray
  | openObject
  | closeObject
  | comma
  | colon
  | null
  | bool (b : Bool)
  | number (value : Option Number)
  | string (value : Option String)
  | stray
  deriving DecidableEq, Repr

/-- The four characters that may stand between tokens. -/
def isSpace (c : Char) : Bool :=
  c = ' ' || c = '\n' || c = '\t' || c = '\r'

def hexDigit? (c : Char) : Option Nat :=
  if c.isDigit then some (c.toNat - 48)
  else if 'a' ≤ c ∧ c ≤ 'f' then some (c.toNat - 87)
  else if 'A' ≤ c ∧ c ≤ 'F' then some (c.toNat - 55)
  else none

def hexUnit? (a b c d : Char) : Option Nat := do
  let a ← hexDigit? a
  let b ← hexDigit? b
  let c ← hexDigit? c
  let d ← hexDigit? d
  return ((a * 16 + b) * 16 + c) * 16 + d

/-- The character that a backslash and a letter stand for. -/
def shortEscape? (c : Char) : Option Char :=
  if c = '"' || c = '\\' || c = '/' then some c
  else if c = 'b' then some '\x08'
  else if c = 'f' then some '\x0c'
  else if c = 'n' then some '\n'
  else if c = 'r' then some '\r'
  else if c = 't' then some '\t'
  else none

/-- A piece of a string: a character, or a UTF-16 unit given by its number. -/
inductive Piece where
  | char (c : Char)
  | unit (n : Nat)
  deriving DecidableEq, Repr

/-- The pieces of a string up to its closing quote, and what follows it. `before` holds the pieces
already passed, the last one first. -/
def pieces? (before : List Piece) : List Char → Option (List Piece × List Char)
  | [] => none
  | '"' :: rest => some (before.reverse, rest)
  | '\\' :: 'u' :: a :: b :: c :: d :: rest =>
    match hexUnit? a b c d with
    | some n => pieces? (.unit n :: before) rest
    | none => none
  | '\\' :: c :: rest =>
    match shortEscape? c with
    | some c => pieces? (.char c :: before) rest
    | none => none
  -- A backslash that comes here is the last character of the text.
  | c :: rest => if c.toNat < 32 || c = '\\' then none else pieces? (.char c :: before) rest

def isHighHalf (n : Nat) : Bool :=
  0xD800 ≤ n && n < 0xDC00

def isLowHalf (n : Nat) : Bool :=
  0xDC00 ≤ n && n < 0xE000

/-- The characters of a string's pieces; none if half of a surrogate pair stands alone. -/
def paired? : List Piece → Option (List Char)
  | [] => some []
  | .char c :: rest => (paired? rest).map (c :: ·)
  | .unit high :: .unit low :: rest =>
    if isHighHalf high then
      if isLowHalf low then
        (paired? rest).map (Char.ofNat (0x10000 + (high - 0xD800) * 1024 + (low - 0xDC00)) :: ·)
      else none
    else if isLowHalf high then none
    -- The second unit may be the first half of a pair of its own.
    else (paired? (.unit low :: rest)).map (Char.ofNat high :: ·)
  | .unit n :: rest =>
    if isHighHalf n || isLowHalf n then none else (paired? rest).map (Char.ofNat n :: ·)

/-- A string whose opening quote has been passed. -/
def stringToken (cs : List Char) : Token × List Char :=
  match pieces? [] cs with
  | some (pieces, rest) => (.string ((paired? pieces).map String.ofList), rest)
  | none => (.stray, [])

/-- A fraction: a point and at least one digit, or nothing. -/
def fraction? : List Char → Option (List Char × List Char)
  | '.' :: cs =>
    let (digits, rest) := Decimal.takeDigits cs
    if digits.isEmpty then none else some (digits, rest)
  | cs => some ([], cs)

/-- A power of ten after an `e`, or nothing. -/
def power? : List Char → Option (Option Int × List Char)
  | [] => some (none, [])
  | c :: cs =>
    if c = 'e' || c = 'E' then
      (Decimal.exponentOf? cs).map fun (exponent, rest) => (some exponent, rest)
    else some (none, c :: cs)

/-- Digits as a numeral may start with them: a zero stands alone. -/
def isWholePart : List Char → Bool
  | [] => false
  | '0' :: rest => rest.isEmpty
  | _ => true

/-- A number, its sign passed. Without a fraction and an exponent it is an integer numeral; with
one it is the double nearest to it, where a reader that does not round once may be one unit in the
last place off. -/
def numberToken (negative : Bool) (cs : List Char) : Token × List Char :=
  let (whole, cs) := Decimal.takeDigits cs
  if !isWholePart whole then (.stray, [])
  else match fraction? cs with
    | none => (.stray, [])
    | some (fraction, cs) =>
      match power? cs with
      | none => (.stray, [])
      | some (none, rest) =>
        if fraction.isEmpty then
          (.number (Number.ofInteger? negative (Decimal.digitsValue whole)), rest)
        else
          (.number ((Decimal.Numeral.mk negative whole fraction 0).toDouble?.map .double), rest)
      | some (some exponent, rest) =>
        (.number ((Decimal.Numeral.mk negative whole fraction exponent).toDouble?.map .double),
          rest)

/-- A word of JSON, if the text starts with it. -/
def wordToken (cs : List Char) : Token × List Char :=
  match cs with
  | 'n' :: 'u' :: 'l' :: 'l' :: rest => (.null, rest)
  | 't' :: 'r' :: 'u' :: 'e' :: rest => (.bool true, rest)
  | 'f' :: 'a' :: 'l' :: 's' :: 'e' :: rest => (.bool false, rest)
  | _ => (.stray, [])

/-- The token at the start of a text, and what follows it. -/
def nextToken : List Char → Token × List Char
  | '[' :: rest => (.openArray, rest)
  | ']' :: rest => (.closeArray, rest)
  | '\x7b' :: rest => (.openObject, rest)
  | '\x7d' :: rest => (.closeObject, rest)
  | ',' :: rest => (.comma, rest)
  | ':' :: rest => (.colon, rest)
  | '"' :: rest => stringToken rest
  | '-' :: rest => numberToken true rest
  | c :: rest => if c.isDigit then numberToken false (c :: rest) else wordToken (c :: rest)
  | [] => (.stray, [])

/-- The tokens of a text, as many as `limit` allows. Each takes a character at least, so the
text's length is limit enough. -/
def tokensWithin : Nat → List Char → List Token
  | 0, _ => []
  | limit + 1, cs =>
    match cs.dropWhile isSpace with
    | [] => []
    | c :: rest =>
      match nextToken (c :: rest) with
      | (.stray, _) => [.stray]
      | (t, rest) => t :: tokensWithin limit rest

def tokens (cs : List Char) : List Token :=
  tokensWithin cs.length cs

end TableFilter.Json
