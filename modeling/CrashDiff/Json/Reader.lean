import CrashDiff.Json.Basic

/-!
# Reading JSON

A reader for the whole format. It is given a bound on the nesting and on the count of parts, and
the length of the text is always enough. Strings with half of a surrogate pair have no value here
and are refused.
-/

namespace CrashDiff.Json

/-- What a reader returns: a value and the rest of the text. -/
abbrev Read (α : Type) := Option (α × List Char)

/-- Whether a character may stand between the tokens. -/
def isSpace (c : Char) : Bool :=
  c = ' ' || c = '\n' || c = '\t' || c = '\r'

def skipSpace (cs : List Char) : List Char :=
  cs.dropWhile isSpace

/-- The value of a hexadecimal digit. -/
def hexValue? (c : Char) : Option Nat :=
  let n := c.toNat
  if 48 ≤ n && n ≤ 57 then some (n - 48)
  else if 97 ≤ n && n ≤ 102 then some (n - 87)
  else if 65 ≤ n && n ≤ 70 then some (n - 55)
  else none

/-- The UTF-16 unit of four hexadecimal digits. -/
def readUnit : List Char → Read Nat
  | a :: b :: c :: d :: rest =>
    match hexValue? a, hexValue? b, hexValue? c, hexValue? d with
    | some w, some x, some y, some z => some (((w * 16 + x) * 16 + y) * 16 + z, rest)
    | _, _, _, _ => none
  | _ => none

/-- The character of a `u` escape, after the letter. A high surrogate needs a low one behind. -/
def readUnicode (cs : List Char) : Read Char :=
  match readUnit cs with
  | none => none
  | some (n, rest) =>
    if n < 0xD800 || 0xE000 ≤ n then some (Char.ofNat n, rest)
    else if n < 0xDC00 then
      match rest with
      | '\\' :: 'u' :: rest =>
        match readUnit rest with
        | none => none
        | some (low, rest) =>
          if 0xDC00 ≤ low && low < 0xE000 then
            some (Char.ofNat (0x10000 + (n - 0xD800) * 0x400 + (low - 0xDC00)), rest)
          else none
      | _ => none
    else none

/-- The character of an escape, after the backslash. -/
def readEscape : List Char → Read Char
  | '"' :: rest => some ('"', rest)
  | '\\' :: rest => some ('\\', rest)
  | '/' :: rest => some ('/', rest)
  | 'n' :: rest => some ('\n', rest)
  | 'r' :: rest => some ('\r', rest)
  | 't' :: rest => some ('\t', rest)
  | 'b' :: rest => some (Char.ofNat 8, rest)
  | 'f' :: rest => some (Char.ofNat 12, rest)
  | 'u' :: rest => readUnicode rest
  | _ => none

/-- The characters of a string up to its closing mark, in reverse, in front of `acc`. -/
def readChars : Nat → List Char → List Char → Read (List Char)
  | 0, _, _ => none
  | fuel + 1, acc, cs =>
    match cs with
    | [] => none
    | '"' :: rest => some (acc, rest)
    | '\\' :: rest =>
      match readEscape rest with
      | none => none
      | some (c, rest) => readChars fuel (c :: acc) rest
    | c :: rest => if c.toNat < 32 then none else readChars fuel (c :: acc) rest

/-- A string, after its opening mark. -/
def readString (cs : List Char) : Read String :=
  (readChars (cs.length + 1) [] cs).map fun (acc, rest) => (String.ofList acc.reverse, rest)

def isAsciiDigit (c : Char) : Bool :=
  '0' ≤ c && c ≤ '9'

/-- The value of a run of ASCII digits. -/
def digitsValue (cs : List Char) : Nat :=
  cs.foldl (fun n c => 10 * n + (c.toNat - 48)) 0

/-- The digits after a point, if there is one. -/
def readFraction : List Char → Read (Option (List Char))
  | '.' :: rest =>
    let digits := rest.takeWhile isAsciiDigit
    if digits.isEmpty then none else some (some digits, rest.dropWhile isAsciiDigit)
  | cs => some (none, cs)

/-- The digits of an exponent with its sign. -/
def readPower (negative : Bool) (cs : List Char) : Read (Option Int) :=
  let digits := cs.takeWhile isAsciiDigit
  if digits.isEmpty then none
  else
    let n : Int := digitsValue digits
    some (some (if negative then -n else n), cs.dropWhile isAsciiDigit)

/-- The exponent, if there is one. -/
def readExponent : List Char → Read (Option Int)
  | c :: cs =>
    if c = 'e' || c = 'E' then
      match cs with
      | '-' :: rest => readPower true rest
      | '+' :: rest => readPower false rest
      | rest => readPower false rest
    else some (none, c :: cs)
  | [] => some (none, [])

/-- A number without its sign. -/
def readMagnitude (negative : Bool) (cs : List Char) : Read Json :=
  let whole := cs.takeWhile isAsciiDigit
  if whole.isEmpty || (whole.head? = some '0' && 1 < whole.length) then none
  else
    match readFraction (cs.dropWhile isAsciiDigit) with
    | none => none
    | some (fraction, rest) =>
      match readExponent rest with
      | none => none
      | some (power, rest) =>
        match fraction, power with
        | none, none =>
          let n : Int := digitsValue whole
          some (.int (if negative then -n else n), rest)
        | _, _ =>
          let fraction := fraction.getD []
          some (.double (.ofDecimal negative (digitsValue (whole ++ fraction))
            (power.getD 0 - fraction.length)), rest)

/-- A number. -/
def readNumber : List Char → Read Json
  | '-' :: rest => readMagnitude true rest
  | cs => readMagnitude false cs

/-- The key of a field and the colon behind it. -/
def readKey (cs : List Char) : Read String :=
  match skipSpace cs with
  | '"' :: rest =>
    match readString rest with
    | none => none
    | some (key, rest) =>
      match skipSpace rest with
      | ':' :: rest => some (key, rest)
      | _ => none
  | _ => none

mutual

/-- A value and the text behind it. -/
def readValue : Nat → List Char → Read Json
  | 0, _ => none
  | fuel + 1, cs =>
    match skipSpace cs with
    | 'n' :: 'u' :: 'l' :: 'l' :: rest => some (.null, rest)
    | 't' :: 'r' :: 'u' :: 'e' :: rest => some (.bool true, rest)
    | 'f' :: 'a' :: 'l' :: 's' :: 'e' :: rest => some (.bool false, rest)
    | '"' :: rest => (readString rest).map fun (s, rest) => (.str s, rest)
    | '[' :: rest =>
      match skipSpace rest with
      | ']' :: rest => some (.arr [], rest)
      | rest =>
        match readValue fuel rest with
        | none => none
        | some (v, rest) => readItems fuel [v] rest
    | '{' :: rest =>
      match skipSpace rest with
      | '}' :: rest => some (.obj [], rest)
      | rest =>
        match readKey rest with
        | none => none
        | some (k, rest) =>
          match readValue fuel rest with
          | none => none
          | some (v, rest) => readFields fuel [(k, v)] rest
    | rest => readNumber rest

/-- The items after those in `acc`, which holds the last one first. -/
def readItems : Nat → List Json → List Char → Read Json
  | 0, _, _ => none
  | fuel + 1, acc, cs =>
    match skipSpace cs with
    | ']' :: rest => some (.arr acc.reverse, rest)
    | ',' :: rest =>
      match readValue fuel rest with
      | none => none
      | some (v, rest) => readItems fuel (v :: acc) rest
    | _ => none

/-- The fields after those in `acc`, which holds the last one first. -/
def readFields : Nat → List (String × Json) → List Char → Read Json
  | 0, _, _ => none
  | fuel + 1, acc, cs =>
    match skipSpace cs with
    | '}' :: rest => some (.obj acc.reverse, rest)
    | ',' :: rest =>
      match readKey rest with
      | none => none
      | some (k, rest) =>
        match readValue fuel rest with
        | none => none
        | some (v, rest) => readFields fuel ((k, v) :: acc) rest
    | _ => none

end

/-- The value of a list of characters that holds one value and nothing else. -/
def ofChars? (cs : List Char) : Option Json :=
  match readValue (cs.length + 1) cs with
  | some (v, rest) => if (skipSpace rest).isEmpty then some v else none
  | none => none

/-- The value of a text. -/
def parse? (s : String) : Option Json :=
  ofChars? s.toList

end CrashDiff.Json
