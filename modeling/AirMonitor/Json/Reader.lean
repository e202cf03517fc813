/-!
A reader of JSON texts. It accepts what the grammar of the format allows and nothing else; each
part of it yields what it has read and the text behind that.
-/

namespace AirMonitor.Json

/-- A number as it is spelled: all its digits, how many of them stand behind the point, and the
power of ten they are multiplied by. -/
structure Number where
  negative : Bool
  digits : Nat
  places : Nat := 0
  exponent : Int := 0
  deriving DecidableEq, Repr

def Number.toInt? (number : Number) : Option Int :=
  if number.places = 0 ∧ number.exponent = 0 then
    some (if number.negative then -number.digits else number.digits)
  else none

inductive Value where
  | null
  | bool (value : Bool)
  | number (number : Number)
  | string (text : String)
  | array (items : List Value)
  | object (members : List (String × Value))

/-- What is read from the front of a text, and what is left of it. -/
abbrev Reader (α : Type) := List Char → Option (α × List Char)

def isBlank (c : Char) : Bool := c == ' ' || c == '\t' || c == '\n' || c == '\r'

def skipBlanks (text : List Char) : List Char := text.dropWhile isBlank

def hexValue? (c : Char) : Option Nat :=
  if c.isDigit then some (c.toNat - 48)
  else if 'a' ≤ c ∧ c ≤ 'f' then some (c.toNat - 87)
  else if 'A' ≤ c ∧ c ≤ 'F' then some (c.toNat - 55)
  else none

def codeUnit? : Reader Nat
  | a :: b :: c :: d :: rest => do
    let a ← hexValue? a
    let b ← hexValue? b
    let c ← hexValue? c
    let d ← hexValue? d
    return (((a * 16 + b) * 16 + c) * 16 + d, rest)
  | _ => none

def unescape? (c : Char) : Option Char :=
  match c with
  | '"' => some '"'
  | '\\' => some '\\'
  | '/' => some '/'
  | 'b' => some '\x08'
  | 'f' => some '\x0c'
  | 'n' => some '\n'
  | 'r' => some '\r'
  | 't' => some '\t'
  | _ => none

def lowSurrogate? : Reader Nat
  | '\\' :: 'u' :: text => do
    let (unit, rest) ← codeUnit? text
    if 0xDC00 ≤ unit ∧ unit < 0xE000 then some (unit, rest) else none
  | _ => none

/-- A character given by its UTF-16 units; a surrogate only counts as part of a pair. -/
def unicode? : Reader Char := fun text => do
  let (unit, rest) ← codeUnit? text
  if unit < 0xD800 ∨ 0xE000 ≤ unit then some (Char.ofNat unit, rest)
  else if unit < 0xDC00 then
    let (low, rest) ← lowSurrogate? rest
    return (Char.ofNat (0x10000 + (unit - 0xD800) * 0x400 + (low - 0xDC00)), rest)
  else none

def character? : Reader Char
  | [] => none
  | '\\' :: 'u' :: rest => unicode? rest
  | '\\' :: c :: rest => (unescape? c).map fun c => (c, rest)
  | c :: rest => if c = '"' ∨ c = '\\' ∨ c.toNat < 0x20 then none else some (c, rest)

def characters? : (bound : Nat) → Reader (List Char)
  | 0, _ => none
  | _ + 1, '"' :: rest => some ([], rest)
  | bound + 1, text => do
    let (c, rest) ← character? text
    let (cs, rest) ← characters? bound rest
    return (c :: cs, rest)

def string? : Reader String := fun text =>
  (characters? text.length text).map fun (cs, rest) => (String.ofList cs, rest)

def digits? : Reader (List Char) := fun text =>
  let (digits, rest) := text.span Char.isDigit
  if digits.isEmpty then none else some (digits, rest)

def whole? : Reader (List Char) := fun text => do
  let (digits, rest) ← digits? text
  if digits.head? = some '0' ∧ digits.length ≠ 1 then none else some (digits, rest)

def fraction? : Reader (List Char)
  | '.' :: rest => digits? rest
  | text => some ([], text)

def sign : List Char → Bool × List Char
  | '-' :: rest => (true, rest)
  | text => (false, text)

def exponent? : Reader Int
  | c :: rest =>
    if c = 'e' ∨ c = 'E' then do
      let (negative, rest) := if rest.head? = some '+' then (false, rest.tail) else sign rest
      let (digits, rest) ← digits? rest
      let magnitude := Nat.ofDigitChars 10 digits 0
      return (if negative then -magnitude else magnitude, rest)
    else some (0, c :: rest)
  | [] => some (0, [])

def number? : Reader Number := fun text => do
  let (negative, text) := sign text
  let (whole, text) ← whole? text
  let (fraction, text) ← fraction? text
  let (exponent, text) ← exponent? text
  let digits := Nat.ofDigitChars 10 (whole ++ fraction) 0
  return ({ negative, digits, places := fraction.length, exponent }, text)

def word? (word : String) (value : Value) : Reader Value := fun text =>
  if word.toList.isPrefixOf text then some (value, text.drop word.length) else none

variable {α : Type}

/-- Items with commas between them, up to the closing character, if there are at most `bound`. -/
def items? (item : Reader α) (closing : Char) : (bound : Nat) → Reader (List α)
  | 0, _ => none
  | bound + 1, text => do
    let (first, rest) ← item (skipBlanks text)
    match skipBlanks rest with
    | [] => none
    | c :: rest =>
      if c = ',' then
        let (others, rest) ← items? item closing bound rest
        return (first :: others, rest)
      else if c = closing then some ([first], rest)
      else none

def list? (item : Reader α) (closing : Char) : Reader (List α) := fun text =>
  if (skipBlanks text).head? = some closing then some ([], (skipBlanks text).tail)
  else items? item closing text.length text

def member? (value : Reader α) : Reader (String × α)
  | '"' :: text => do
    let (key, rest) ← string? text
    match skipBlanks rest with
    | ':' :: rest => do
      let (value, rest) ← value (skipBlanks rest)
      return ((key, value), rest)
    | _ => none
  | _ => none

/-- A value that contains no more than `depth` others inside each other. -/
def value? : (depth : Nat) → Reader Value
  | _, [] => none
  | 0, _ => none
  | depth + 1, c :: text =>
    match c with
    | '"' => (string? text).map fun (s, rest) => (.string s, rest)
    | '[' => (list? (value? depth) ']' text).map fun (items, rest) => (.array items, rest)
    | '\x7b' => (list? (member? (value? depth)) '\x7d' text).map fun (members, rest) =>
      (.object members, rest)
    | 'n' => word? "ull" .null text
    | 't' => word? "rue" (.bool true) text
    | 'f' => word? "alse" (.bool false) text
    | c => (number? (c :: text)).map fun (number, rest) => (.number number, rest)

def read? (text : String) : Option Value := do
  let (value, rest) ← value? text.length (skipBlanks text.toList)
  if (skipBlanks rest).isEmpty then some value else none

end AirMonitor.Json
