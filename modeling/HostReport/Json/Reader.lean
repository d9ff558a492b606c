import HostReport.Json.Basic
import HostReport.Number.Numeral

/-!
# Reading JSON

A text is read as one JSON value with blanks around it. Beyond the standard, the three words for
infinities and for what is no number are values, and a number too large for a double is infinite. Of
several fields with one name the last counts. A byte order mark at the front, a control character
within a text and an integer with too many digits are refused, and so is a value nested too deeply:
how deep is too deep depends on the stack that is left to the reader, and is a parameter.
-/

namespace HostReport.Json

open Numeral

/-- How many arrays and objects may enclose each other, unless something else is said. -/
def usualNesting : Nat := 985

/-- Why a text is not read. -/
inductive ReadFault where
  | malformed
  | tooDeep
  deriving DecidableEq, Repr

/-- The blanks of JSON. -/
def isSpace (c : Char) : Bool := c == ' ' || c == '\t' || c == '\n' || c == '\r'

/-- The text from its first character that is no blank. -/
def skipSpace (s : List Char) : List Char := s.dropWhile isSpace

/-- The code unit that four hexadecimal digits denote. -/
def codeUnit? : List Char → Option (Nat × List Char)
  | a :: b :: c :: d :: r => do
    let n := (((← Text.hexValue? a) * 16 + (← Text.hexValue? b)) * 16 + (← Text.hexValue? c)) * 16
    return (n + (← Text.hexValue? d), r)
  | _ => none

/-- The character that an escape with one letter denotes. -/
def simpleEscape? (c : Char) : Option Char :=
  if c = '"' || c = '\\' || c = '/' then some c
  else if c = 'b' then some (Char.ofNat 8)
  else if c = 'f' then some (Char.ofNat 12)
  else if c = 'n' then some '\n'
  else if c = 'r' then some '\r'
  else if c = 't' then some '\t'
  else none

/-- The character of a code unit; half of a pair alone is read as the replacement character. -/
def unitChar (u : Nat) : Char :=
  if 0xD800 ≤ u ∧ u < 0xE000 then Char.ofNat 0xFFFD else Char.ofNat u

/-- What stands after the `u` of an escape: one code unit, or two that form a pair. -/
def unitEscape? (s : List Char) : Option (Char × List Char) := do
  let (u, r) ← codeUnit? s
  if 0xD800 ≤ u ∧ u < 0xDC00 then
    match r with
    | '\\' :: 'u' :: r' =>
      match codeUnit? r' with
      | some (v, r'') =>
        if 0xDC00 ≤ v ∧ v < 0xE000 then
          return (Char.ofNat (0x10000 + (u - 0xD800) * 0x400 + (v - 0xDC00)), r'')
        else return (unitChar u, r)
      | none => none
    | _ => return (unitChar u, r)
  else return (unitChar u, r)

/-- The characters of a text after its opening quote, up to the closing one; `fuel` bounds their
number. -/
def textBody : Nat → List Char → Option (List Char × List Char)
  | 0, _ => none
  | _ + 1, [] => none
  | fuel + 1, c :: r =>
    if c = '"' then some ([], r)
    else if c = '\\' then
      match r with
      | [] => none
      | e :: r' =>
        if e = 'u' then do
          let (ch, rest) ← unitEscape? r'
          let (cs, tail) ← textBody fuel rest
          return (ch :: cs, tail)
        else do
          let ch ← simpleEscape? e
          let (cs, tail) ← textBody fuel r'
          return (ch :: cs, tail)
    else if c.toNat < 32 then none
    else do
      let (cs, tail) ← textBody fuel r
      return (c :: cs, tail)

/-- Reads a text after its opening quote. -/
def readText (s : List Char) : Except ReadFault (String × List Char) :=
  match textBody (s.length + 1) s with
  | some (cs, r) => .ok (String.ofList cs, r)
  | none => .error .malformed

/-- The digits of a fraction with their point, if a digit follows the point, and the rest. -/
def splitFraction (s : List Char) : List Char × List Char :=
  match s with
  | '.' :: r =>
    let ds := r.takeWhile Char.isDigit
    if ds.isEmpty then ([], s) else ('.' :: ds, r.dropWhile Char.isDigit)
  | _ => ([], s)

/-- The power of ten with its mark, if it has digits, and the rest. -/
def splitExponent (s : List Char) : List Char × List Char :=
  match s with
  | c :: r =>
    if c = 'e' || c = 'E' then
      let (sign, r') :=
        match r with
        | '-' :: t => (['-'], t)
        | '+' :: t => ([], t)
        | t => ([], t)
      let ds := r'.takeWhile Char.isDigit
      if ds.isEmpty then ([], s) else ('e' :: sign ++ ds, r'.dropWhile Char.isDigit)
    else ([], s)
  | [] => ([], s)

/-- Reads a number, of which the sign has been read. -/
def readNumber (negative : Bool) (s : List Char) : Except ReadFault (Json × List Char) :=
  let whole :=
    match s with
    | '0' :: _ => ['0']
    | _ => s.takeWhile Char.isDigit
  if whole.isEmpty then .error .malformed
  else
    let (fraction, r) := splitFraction (s.drop whole.length)
    let (power, rest) := splitExponent r
    if fraction.isEmpty && power.isEmpty then
      if whole.length ≤ maxDigits then
        let n : Int := ofAsciiDigits whole
        .ok (.int (if negative then -n else n), rest)
      else .error .malformed
    else
      match decimal? negative (whole ++ fraction ++ power) with
      | some x => .ok (.double x, rest)
      | none => .error .malformed

/-- The words that are values, with their values. -/
def wordValues : List (String × Json) :=
  [("null", .null), ("true", .bool true), ("false", .bool false), ("NaN", .double .nan),
    ("Infinity", .double (.infinite false)), ("-Infinity", .double (.infinite true))]

/-- Reads one of the words that are values. -/
def readWord? (s : List Char) : Option (Json × List Char) :=
  wordValues.findSome? fun (w, v) => (w.toList.isPrefixOf? s).map fun r => (v, r)

mutual

/-- Reads a value with no blanks before it. -/
def readValue : Nat → Nat → List Char → Except ReadFault (Json × List Char)
  | 0, _, _ => .error .malformed
  | fuel + 1, nesting, s =>
    match readWord? s with
    | some r => .ok r
    | none =>
      match s with
      | '"' :: r => do
        let (t, rest) ← readText r
        return (.text t, rest)
      | '[' :: r =>
        match nesting with
        | 0 => .error .tooDeep
        | nesting + 1 =>
          match skipSpace r with
          | ']' :: rest => .ok (.array [], rest)
          | r' => do
            let (items, rest) ← readItems fuel nesting r'
            return (.array items, rest)
      | '\x7b' :: r =>
        match nesting with
        | 0 => .error .tooDeep
        | nesting + 1 =>
          match skipSpace r with
          | '\x7d' :: rest => .ok (.object [], rest)
          | r' => do
            let (fields, rest) ← readFields fuel nesting [] r'
            return (.object fields, rest)
      | '-' :: r => readNumber true r
      | _ => readNumber false s

/-- Reads the items of an array up to its closing bracket. -/
def readItems : Nat → Nat → List Char → Except ReadFault (List Json × List Char)
  | 0, _, _ => .error .malformed
  | fuel + 1, nesting, s => do
    let (item, r) ← readValue fuel nesting s
    match skipSpace r with
    | ',' :: r' => do
      let (items, rest) ← readItems fuel nesting (skipSpace r')
      return (item :: items, rest)
    | ']' :: rest => return ([item], rest)
    | _ => .error .malformed

/-- Reads the fields of an object up to its closing brace, after those already read. -/
def readFields : Nat → Nat → List (String × Json) → List Char →
    Except ReadFault (List (String × Json) × List Char)
  | 0, _, _, _ => .error .malformed
  | fuel + 1, nesting, before, s =>
    match s with
    | '"' :: r => do
      let (name, r) ← readText r
      match skipSpace r with
      | ':' :: r => do
        let (value, r) ← readValue fuel nesting (skipSpace r)
        let fields := setField name value before
        match skipSpace r with
        | ',' :: r => readFields fuel nesting fields (skipSpace r)
        | '\x7d' :: rest => return (fields, rest)
        | _ => .error .malformed
      | _ => .error .malformed
    | _ => .error .malformed

end

/-- The value that a text denotes, in which so many arrays and objects may enclose each other. -/
def read (s : List Char) (maxNesting : Nat := usualNesting) : Except ReadFault Json := do
  let (v, rest) ← readValue (2 * s.length + 2) maxNesting (skipSpace s)
  if (skipSpace rest).isEmpty then return v else .error .malformed

/-- The value that a text denotes, in which so many arrays and objects may enclose each other. -/
def parse (s : String) (maxNesting : Nat := usualNesting) : Except ReadFault Json :=
  read s.toList maxNesting

end HostReport.Json
