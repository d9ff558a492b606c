import HostReport.Number.Numeral
import HostReport.Settings
import HostReport.Text.Quoted
import HostReport.Text.Search

/-!
# Options of the command line

Four options, two of which have a second name. A word that begins with a hyphen is an option by its
full name, by an abbreviation that fits one option only, or as a cluster of options with one letter;
the value of an option may be part of its word, with or without an equals sign, or the word behind
it. An option that takes no value passes the rest of its word on as a cluster, which is refused
where a letter is no option. All words are looked at first, so that an ambiguous one is reported
before anything is done; then the options take effect word by word, and help and version end the run
at once. Words that are no options have no use and are reported at the end.
-/

namespace HostReport.CommandLine

/-- An option without a value. -/
inductive Flag where
  | help
  | version
  | logging
  deriving DecidableEq, Repr

/-- An option. -/
inductive Choice where
  | flag (f : Flag)
  /-- The language, whose code is the value. -/
  | language
  deriving DecidableEq, Repr

/-- The names of all options in order. -/
def names : List (String × Choice) :=
  [("-h", .flag .help), ("--help", .flag .help), ("-v", .flag .version), ("-l", .language),
    ("-log", .flag .logging), ("-e", .flag .logging)]

/-- How an option is called in a report. -/
def Choice.caption (c : Choice) : String :=
  "/".intercalate ((names.filter (·.2 = c)).map (·.1))

/-- Why a command line is refused. -/
inductive UsageFault where
  | ambiguous (word : String) (candidates : List String)
  | missingValue (option : Choice)
  | unusedValue (option : Choice) (value : String)
  | invalidValue (option : Choice) (value : String) (choices : List String)
  | unrecognized (words : List String)
  deriving DecidableEq, Repr

/-- The text of a fault. -/
def UsageFault.message : UsageFault → String
  | .ambiguous word candidates =>
    s!"ambiguous option: {word} could match " ++ ", ".intercalate candidates
  | .missingValue o => s!"argument {o.caption}: expected one argument"
  | .unusedValue o value => s!"argument {o.caption}: ignored explicit argument {quoted value}"
  | .invalidValue o value choices =>
    s!"argument {o.caption}: invalid choice: {quoted value} (choose from " ++
      ", ".intercalate (choices.map quoted) ++ ")"
  | .unrecognized words => "unrecognized arguments: " ++ " ".intercalate words

/-! ## Words -/

/-- What a word of the command line is. -/
inductive Word where
  /-- A word that is no option, which may be the value of one. -/
  | plain (text : String)
  /-- Two hyphens: what follows holds no options. -/
  | divider
  /-- An option by its full name, and the value that is part of its word. -/
  | option (choice : Choice) (name : String) (value : Option String)
  /-- What looks like an option but is none. -/
  | unknown (text : String)
  deriving DecidableEq, Repr

/-- The word as it was written, unless it is an option. -/
def Word.text : Word → String
  | .plain t => t
  | .divider => "--"
  | .option _ name _ => name
  | .unknown t => t

/-- The part before the first equals sign, and the value behind it if there is one. -/
def splitValue (word : String) : String × Option String :=
  match Text.cut? '=' word.toList with
  | some (name, value) => (String.ofList name, some (String.ofList value))
  | none => (word, none)

/-- The readings of a word as an abbreviation of an option with two hyphens. -/
def longReadings (word : String) : List Word :=
  let (front, value) := splitValue word
  names.filterMap fun (name, choice) =>
    if beginsWith front name then some (.option choice name value) else none

/-- The readings of a word as an option of one letter with a value, or as an abbreviation. -/
def shortReadings (word : String) : List Word :=
  let letter := String.ofList (word.toList.take 2)
  let value := String.ofList (word.toList.drop 2)
  names.filterMap fun (name, choice) =>
    if name = letter then some (.option choice name (some value))
    else if beginsWith word name then some (.option choice name none)
    else none

/-- A negative number: a hyphen and digits, with at most one point among them and a digit behind it,
and at most one line feed at the end. -/
def isNegativeNumber (word : String) : Bool :=
  match word.toList with
  | '-' :: r =>
    let r := if r.getLast? == some '\n' then r.dropLast else r
    let isNumber (digits : List Char) := !digits.isEmpty && digits.all Text.isDecimal
    match Text.cut? '.' r with
    | none => isNumber r
    | some (whole, fraction) => whole.all Text.isDecimal && isNumber fraction
  | _ => false

/-- What a word is that begins with a hyphen and is no full name of an option. -/
def readHyphenated (word : String) : Except UsageFault Word :=
  let readings :=
    if beginsWith "--" word then longReadings word else shortReadings word
  match readings with
  | [reading] => .ok reading
  | [] =>
    if isNegativeNumber word || word.toList.contains ' ' then .ok (.plain word)
    else .ok (.unknown word)
  | _ => .error (.ambiguous word (readings.map Word.text))

/-- What a word is. -/
def readWord (word : String) : Except UsageFault Word :=
  if !beginsWith "-" word then .ok (.plain word)
  else
    match names.lookup word with
    | some choice => .ok (.option choice word none)
    | none =>
      if word = "-" then .ok (.plain word)
      else
        let (name, value) := splitValue word
        match value, names.lookup name with
        | some _, some choice => .ok (.option choice name value)
        | _, _ => readHyphenated word

/-- What the words of a command line are. -/
def readWords : List String → Except UsageFault (List Word)
  | [] => .ok []
  | word :: more =>
    if word = "--" then .ok (.divider :: more.map .plain)
    else do
      let w ← readWord word
      return w :: (← readWords more)

/-! ## Effects -/

/-- What the options ask for: a language, unless it is left open, and whether to log. -/
structure Arguments where
  language : Option Language := some .chinese
  isLogging : Bool := false
  deriving DecidableEq, Repr

/-- What a command line asks for. -/
inductive Request where
  | help
  | version
  | report (arguments : Arguments)
  deriving DecidableEq, Repr

/-- What an option asks for, with the value that it takes. -/
inductive Effect where
  | flag (f : Flag)
  | language (code : String)
  deriving DecidableEq, Repr

/-- How the word of an option is read. -/
structure Reading where
  effects : List Effect
  /-- Whether the word behind it is its value. -/
  takesNext : Bool := false
  deriving DecidableEq, Repr

/-- The reading of a cluster with a flag in front of it. -/
def Reading.behind (r : Reading) (f : Flag) : Reading := { r with effects := .flag f :: r.effects }

/-- Reads an option that ends its word; the language takes its code from the word behind it. -/
def readLast (choice : Choice) (next : Option Word) : Except UsageFault Reading :=
  match choice, next with
  | .flag f, _ => .ok { effects := [.flag f] }
  | .language, some (.plain code) => .ok { effects := [.language code], takesNext := true }
  | .language, _ => .error (.missingValue .language)

/-- Reads an option of one hyphen and the text joined to it: the code of the language, or further
options of one letter behind a flag. -/
def readJoined (choice : Choice) (next : Option Word) (text : List Char) :
    Except UsageFault Reading :=
  match choice, text with
  | .language, code => .ok { effects := [.language (String.ofList code)] }
  | .flag f, [] => .error (.unusedValue (.flag f) "")
  | .flag f, c :: more =>
    match names.lookup (String.ofList ['-', c]) with
    | none => .error (.unusedValue (.flag f) (String.ofList (c :: more)))
    | some following => do
      let r ← if more.isEmpty then readLast following next else readJoined following next more
      return r.behind f

/-- Reads an option; one of two hyphens begins no cluster. -/
def readOption (choice : Choice) (name : String) (value : Option String) (next : Option Word) :
    Except UsageFault Reading :=
  match value with
  | none => readLast choice next
  | some text =>
    if beginsWith "--" name then .error (.unusedValue choice text)
    else readJoined choice next text.toList

/-- The codes of the languages. -/
def languageCodes : List String := [Language.english.code, Language.chinese.code]

/-- The request after an effect, which may end the command line. A code of two hyphens leaves the
language open. -/
def Effect.apply (e : Effect) (a : Arguments) : Except UsageFault (Except Request Arguments) :=
  match e with
  | .flag .help => .ok (.error .help)
  | .flag .version => .ok (.error .version)
  | .flag .logging => .ok (.ok { a with isLogging := true })
  | .language code =>
    if code = "--" then .ok (.ok { a with language := none })
    else
      let code := lowercase code
      match Language.ofCode? code with
      | some l => .ok (.ok { a with language := some l })
      | none => .error (.invalidValue .language code languageCodes)

/-- The request after some effects in order. -/
def applyAll (a : Arguments) : List Effect → Except UsageFault (Except Request Arguments)
  | [] => .ok (.ok a)
  | e :: es => do
    match ← e.apply a with
    | .error request => return .error request
    | .ok a => applyAll a es

/-- What a command line asks for whose words, from the one at hand on, are given; `unused` are the
words before it that have no use. -/
def requestOf (a : Arguments) (unused : List String) : List Word → Except UsageFault Request
  | [] => if unused.isEmpty then .ok (.report a) else .error (.unrecognized unused)
  | .option choice name value :: words => do
    let r ← readOption choice name value words.head?
    match ← applyAll a r.effects with
    | .error request => return request
    | .ok a => requestOf a unused (if r.takesNext then words.drop 1 else words)
  | w :: words => requestOf a (unused ++ [w.text]) words
termination_by words => words.length
decreasing_by
  · split <;> simp only [List.length_drop, List.length_cons] <;> omega
  · simp

/-- What a command line asks for. -/
def parse (words : List String) : Except UsageFault Request := do
  requestOf {} [] (← readWords words)

end HostReport.CommandLine
