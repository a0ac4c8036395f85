import CrashDiff.Text.Digit

/-!
# Reading source texts

The structure of a source text, found by a reader that shares nothing with the writer: the declared
types, the called function with its parameters, and the calling function with its call. Names are
a fixed word followed by a decimal number.
-/

namespace CrashDiff.Source

/-- The structure of a source text. -/
structure Structure where
  declared : List Int
  defined : Int
  parameters : List Int
  caller : Int
  called : Int
  arguments : List Int
deriving DecidableEq, Repr

/-- The text behind a fixed word. -/
def after? (word : List Char) (cs : List Char) : Option (List Char) :=
  match word, cs with
  | [], cs => some cs
  | w :: ws, c :: cs => if w = c then after? ws cs else none
  | _ :: _, [] => none

def isAsciiDigit (c : Char) : Bool :=
  '0' ≤ c && c ≤ '9'

/-- The value of a run of ASCII digits. -/
def natOfDigits (cs : List Char) : Nat :=
  cs.foldl (fun n c => 10 * n + (c.toNat - 48)) 0

/-- A whole number without leading zeros and the text behind it. -/
def number? (cs : List Char) : Option (Int × List Char) :=
  let (negative, cs) := match cs with
    | '-' :: rest => (true, rest)
    | rest => (false, rest)
  let digits := cs.takeWhile isAsciiDigit
  let value := natOfDigits digits
  if digits = [] || (digits.head? = some '0' && (negative || 1 < digits.length)) then none
  else some (if negative then -(value : Int) else value, cs.dropWhile isAsciiDigit)

/-- A fixed word and a number, and the text behind them. -/
def named? (word : List Char) (cs : List Char) : Option (Int × List Char) :=
  (after? word cs).bind number?

/-- Further items of a list in round brackets, each with a comma in front. `fuel` bounds their
count. -/
def moreItems? (word : List Char) : Nat → List Char → Option (List Int × List Char)
  | 0, _ => none
  | fuel + 1, cs =>
    match cs with
    | ')' :: rest => some ([], rest)
    | _ => do
      let rest ← after? [',', ' '] cs
      let (n, rest) ← named? word rest
      let (ns, rest) ← moreItems? word fuel rest
      some (n :: ns, rest)

/-- The items of a list in round brackets, behind the opening one. -/
def items? (word : List Char) (cs : List Char) : Option (List Int × List Char) :=
  match cs with
  | ')' :: rest => some ([], rest)
  | _ => do
    let (n, rest) ← named? word cs
    let (ns, rest) ← moreItems? word (cs.length + 1) rest
    some (n :: ns, rest)

/-- The declarations, each with a line feed in front of the next one. `fuel` bounds their
count. -/
def declarations? : Nat → List Char → Option (List Int × List Char)
  | 0, _ => none
  | fuel + 1, cs => do
    let (n, rest) ← named? "struct S".toList cs
    let rest ← after? [';', '\n'] rest
    match rest with
    | 's' :: _ => do
      let (ns, rest) ← declarations? fuel rest
      some (n :: ns, rest)
    | _ => some ([n], rest)

/-- The structure of a list of characters. -/
def structureOf? (cs : List Char) : Option Structure := do
  let (declared, rest) ← match cs with
    | '\n' :: rest => some ([], rest)
    | _ => declarations? (cs.length + 1) cs
  let (defined, rest) ← named? "\nfn foo".toList rest
  let rest ← after? ['('] rest
  let (parameters, rest) ← items? "_: S".toList rest
  let (caller, rest) ← named? " \x7b\x7d\n\nfn test".toList rest
  let (called, rest) ← named? "() \x7b foo".toList rest
  let rest ← after? ['('] rest
  let (arguments, rest) ← items? "S".toList rest
  let rest ← after? "; \x7d\n".toList rest
  if rest = [] then some ⟨declared, defined, parameters, caller, called, arguments⟩ else none

/-- The structure of a text. -/
def read? (text : String) : Option Structure :=
  structureOf? text.toList

end CrashDiff.Source
