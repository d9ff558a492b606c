import HostReport.Page.Reference
import HostReport.Text.Scan

/-!
# The tags of a page

A page is read leniently as a sequence of opening tags with attributes and of closing tags. Text,
comments, declarations and the contents of scripts and style sheets hold no tags. A construct that
does not end is passed over as text, up to the next closing bracket or, without one, to the next
opening bracket. A reference by number that is not well formed ends the first reading of the page;
a second reading goes on behind it, and the next such reference ends that one as well. A decimal
reference that is too long makes the page unreadable, in text as in the value of an attribute.
-/

namespace HostReport.Page

open Text

/-- A tag of a page. Names are in lower case. -/
inductive Tag where
  | opening (name : String) (attributes : List (String × String)) (isSelfClosing : Bool)
  | closing (name : String)
  deriving DecidableEq, Repr

/-- What stands at the front of a page, with what follows it. -/
inductive Item where
  | tag (t : Tag) (rest : List Char)
  | passed (rest : List Char)
  | unfinished

/-! ## Opening tags -/

/-- A quotation mark around a value. -/
def isQuote (c : Char) : Bool := c == '"' || c.toNat == 39

/-- A character of the name of an element. -/
def isNameChar (c : Char) : Bool :=
  !(c == ' ' || c == '\t' || c == '\n' || c == '\r' || c.toNat == 12 || c == '/' || c == '>' ||
    c.toNat == 0)

/-- The text behind blanks and slashes, except for a slash before a closing bracket, and whether
there were any. -/
def skipGaps (skipped : Bool) : List Char → Bool × List Char
  | [] => (skipped, [])
  | c :: r =>
    if isBlank c || (c == '/' && r.head? != some '>') then skipGaps true r else (skipped, c :: r)

/-- A bare value: everything up to a blank or a closing bracket. -/
def bareValue (s : List Char) : List Char × List Char :=
  let isBare (c : Char) : Bool := !(isBlank c || c == '>')
  (s.takeWhile isBare, s.dropWhile isBare)

/-- The value after the name of an attribute, as it is written, with what follows it, if there is an
equals sign and a value that ends. A quotation mark without its partner begins no value: before it
the value is empty if blanks stand there, and a second equals sign begins a bare one. -/
def value? (s : List Char) : Option (List Char × List Char) :=
  let s := s.dropWhile isBlank
  let signs := s.takeWhile (· == '=')
  let afterSigns := s.dropWhile (· == '=')
  if signs.isEmpty then none
  else
    let gap := afterSigns.takeWhile isBlank
    match afterSigns.dropWhile isBlank with
    | [] => some ([], [])
    | q :: r =>
      if isQuote q then
        if r.contains q then some (r.takeWhile (· != q), (r.dropWhile (· != q)).drop 1)
        else if !gap.isEmpty then some ([], ' ' :: q :: r)
        else if 2 ≤ signs.length then some (bareValue ('=' :: q :: r))
        else none
      else some (bareValue (q :: r))

/-- The attributes at the front, with their values as they are written, and what follows them. An
attribute begins only behind a blank, a slash or a quotation mark; `fuel` bounds their number. -/
def attributes : Nat → Bool → List Char → List (String × List Char) × List Char
  | 0, _, s => ([], s)
  | _ + 1, _, [] => ([], [])
  | fuel + 1, mayBegin, c :: r =>
    if !mayBegin || isBlank c || c == '/' || c == '>' then ([], c :: r)
    else
      let inName (d : Char) : Bool := !(isBlank d || d == '/' || d == '=' || d == '>')
      let name := c :: r.takeWhile inName
      let afterName := r.dropWhile inName
      let (value, rest, endsInQuote) :=
        match value? afterName with
        | some (v, rest) => (v, rest, true)
        | none => ([], afterName, name.getLast?.any isQuote)
      let (skipped, rest) := skipGaps false rest
      let (others, rest) := attributes fuel (skipped || endsInQuote) rest
      ((lowercase (String.ofList name), value) :: others, rest)

/-- Attributes with the references in their values resolved. -/
def resolveAll (attributes : List (String × List Char)) : Except Fault (List (String × String)) :=
  attributes.mapM fun a => do return (a.1, String.ofList (← resolve a.2))

/-- An opening tag, of which the bracket is read. -/
def openingTag (s : List Char) : Except Fault Item :=
  let name := s.takeWhile isNameChar
  let (skipped, r) := skipGaps false (s.dropWhile isNameChar)
  let isGap (c : Char) : Bool := isQuote c || isBlank c
  let (written, r) := attributes r.length (skipped || name.getLast?.any isGap) r
  let tag (isSelfClosing : Bool) (rest : List Char) : Except Fault Item := do
    let attributes ← resolveAll written
    return .tag (.opening (lowercase (String.ofList name)) attributes isSelfClosing) rest
  match r with
  | '>' :: rest => tag false rest
  | '/' :: '>' :: rest => tag true rest
  | [] => .ok .unfinished
  | c :: _ =>
    if c.isAlpha || c == '=' || c == '/' then .ok .unfinished
    else do
      let _ ← resolveAll written
      return .passed r

/-! ## Other markup -/

/-- Passes over everything up to the first place where `p` reads something. -/
def through (p : Scan Unit) (s : List Char) : Item :=
  match Scan.skipPast p s with
  | some rest => .passed rest
  | none => .unfinished

/-- The closing bracket. -/
def bracket : Scan Unit := Scan.word ">"

/-- A closing tag, of which the bracket and the slash are read. -/
def closingTag (s : List Char) : Item :=
  if !s.contains '>' then .unfinished
  else
    let isStrict (c : Char) : Bool := c.isAlphanum || c == '-' || c == '.' || c == ':' || c == '_'
    let t := s.dropWhile isBlank
    let name := t.takeWhile isStrict
    match (t.dropWhile isStrict).dropWhile isBlank, name.head?.any Char.isAlpha with
    | '>' :: rest, true => .tag (.closing (lowercase (String.ofList name))) rest
    | _, _ =>
      if s.head?.any Char.isAlpha then
        let tag := Tag.closing (lowercase (String.ofList (s.takeWhile isNameChar)))
        .tag tag ((Scan.skipPast bracket (s.dropWhile isNameChar)).getD [])
      else through bracket s

/-- The end of a comment. -/
def commentEnd : Scan Unit := do
  Scan.word "--"
  let _ ← Scan.blanks
  bracket

/-- The end of a marked section, with one or two square brackets. -/
def sectionEnd (count : Nat) : Scan Unit := do
  for _ in List.range count do
    Scan.word "]"
    let _ ← Scan.blanks
  bracket

/-- A marked section, up to its end. Its keyword says how it ends; any other keyword, or none, is no
markup. -/
def markedSection (s : List Char) : Except Fault Item :=
  let inName (c : Char) : Bool := c.isAlphanum || c == '-' || c == '_' || c == '.'
  let name := s.takeWhile inName
  if s.isEmpty then .ok .unfinished
  else if !name.head?.any Char.isAlpha then .error .rejectedMarkup
  else if ((s.dropWhile inName).dropWhile isBlank).isEmpty then .ok .unfinished
  else
    let keyword := String.ofList (name.map Char.toLower)
    if ["temp", "cdata", "ignore", "include", "rcdata"].contains keyword then
      .ok (through (sectionEnd 2) s)
    else if ["if", "else", "endif"].contains keyword then .ok (through (sectionEnd 1) s)
    else .error .rejectedMarkup

/-- A declaration or comment, of which the bracket and the mark are read. -/
def declaration (s : List Char) : Except Fault Item :=
  match s with
  | '-' :: '-' :: r => .ok (through commentEnd r)
  | '[' :: r => markedSection r
  | _ =>
    if lowercase (String.ofList (s.take 7)) = "doctype" then .ok (through bracket (s.drop 7))
    else .ok (through bracket s)

/-- The markup behind an opening bracket. -/
def markup (s : List Char) : Except Fault Item :=
  match s with
  | [] => .ok (.passed [])
  | '/' :: r => .ok (closingTag r)
  | '?' :: r => .ok (through bracket r)
  | '!' :: r => declaration r
  | c :: _ => if c.isAlpha then openingTag s else .ok (.passed s)

/-- What follows a well-formed reference by number, of which the ampersand and the number sign are
read. -/
def afterCode? (s : List Char) : Except Fault (Option (List Char)) :=
  let (base, digits, rest) := splitCode s
  if digits.isEmpty || rest.head?.all (fun c => (hexValue? c).isSome) then .ok none
  else do
    let _ ← codeOf base digits
    return some rest

/-- The end of the contents of an element that holds no markup. -/
def contentsEnd (name : String) : Scan Unit := do
  Scan.word "</"
  let _ ← Scan.blanks
  let letters ← Scan.run1 Char.isAlpha
  guard (letters.map Char.toLower = name.toList)
  let _ ← Scan.blanks
  bracket

/-- Whether an element holds no markup. -/
def holdsNoMarkup (name : String) : Bool := name = "script" || name = "style"

/-! ## The whole page -/

/-- The tags of what is left of a page; `again` says that this is the second reading. Every step
reads something or begins the second reading, so the length of the page bounds their number. -/
def tagsFrom : Nat → Bool → List Char → Except Fault (List Tag)
  | 0, _, _ => .ok []
  | fuel + 1, again, s =>
    match s.dropWhile (fun c => c != '<' && c != '&') with
    | '&' :: '#' :: r => do
      match ← afterCode? r with
      | some rest => tagsFrom fuel again rest
      | none => if again || !r.contains ';' then .ok [] else tagsFrom fuel true r
    | '<' :: r => do
      match ← markup r with
      | .passed rest => tagsFrom fuel again rest
      | .tag t rest =>
        match t with
        | .opening name _ false =>
          if holdsNoMarkup name then
            match Scan.skipPast (contentsEnd name) rest with
            | some rest => return t :: .closing name :: (← tagsFrom fuel again rest)
            | none => return [t]
          else return t :: (← tagsFrom fuel again rest)
        | _ => return t :: (← tagsFrom fuel again rest)
      | .unfinished =>
        if again then
          match Scan.skipPast bracket r with
          | some rest => tagsFrom fuel again rest
          | none => tagsFrom fuel again (if r.contains '<' then r.dropWhile (· != '<') else r)
        else tagsFrom fuel true ('<' :: r)
    | _ :: r => tagsFrom fuel again r
    | [] => .ok []

/-- The tags of a page, in order. -/
def tags (page : List Char) : Except Fault (List Tag) := tagsFrom (page.length + 2) false page

end HostReport.Page
