import CodeSense.Text.Digit
import CodeSense.Text.Quoted

/-!
# Startup options

Long options may be shortened as long as they stay unique, and take a value in the next
word or after `=`. Short ones can be joined. Words after `--` are not options.
-/

namespace CodeSense

inductive Opt where
  | help | version | interactive | debug | logFile | builtinDir | library
  deriving DecidableEq, Repr

namespace Opt

def all : List Opt := [help, version, interactive, debug, logFile, builtinDir, library]

def spellings : Opt → List String
  | help => ["-h", "--help"]
  | version => ["-v", "--version"]
  | interactive => ["-i", "--interactive"]
  | debug => ["-d", "--debug"]
  | logFile => ["--log-file"]
  | builtinDir => ["--builtin-dir"]
  | library => ["--libclang"]

def takesValue : Opt → Bool
  | logFile | builtinDir | library => true
  | _ => false

def label (o : Opt) : String := String.intercalate "/" o.spellings

def table : List (String × Opt) := all.flatMap fun o => o.spellings.map (·, o)

def find? (spelling : String) : Option Opt := table.lookup spelling

end Opt

inductive UsageError where
  | ambiguous (word : String) (spellings : List String)
  | missingValue (o : Opt)
  | unusedValue (o : Opt) (value : String)
  | unrecognized (words : List String)
  deriving DecidableEq, Repr

def UsageError.message : UsageError → String
  | ambiguous word spellings =>
    "ambiguous option: " ++ word ++ " could match " ++ String.intercalate ", " spellings
  | missingValue o => "argument " ++ o.label ++ ": expected one argument"
  | unusedValue o value =>
    "argument " ++ o.label ++ ": ignored explicit argument " ++ Text.quoted value
  | unrecognized words => "unrecognized arguments: " ++ String.intercalate " " words

inductive Given where
  | nothing
  /-- A `--` joined to the option: there is no value, nor is one given before it kept. -/
  | blank
  | value (text : String)
  deriving DecidableEq, Repr

namespace Given

def ofJoined (text : String) : Given := if text = "--" then .blank else .value text

def text? : Given → Option String
  | value text => some text
  | _ => none

end Given

structure Options where
  help : Bool := false
  version : Bool := false
  interactive : Bool := false
  debug : Bool := false
  logFile : Given := .nothing
  builtinDir : Given := .nothing
  library : Given := .nothing
  deriving DecidableEq, Repr

namespace Options

def setFlag (o : Options) : Opt → Options
  | .help => { o with help := true }
  | .version => { o with version := true }
  | .interactive => { o with interactive := true }
  | .debug => { o with debug := true }
  | _ => o

def setValue (o : Options) (given : Given) : Opt → Options
  | .logFile => { o with logFile := given }
  | .builtinDir => { o with builtinDir := given }
  | .library => { o with library := given }
  | _ => o

/-! ## Words -/

inductive Role where
  | plain
  /-- The word `--`. -/
  | separator
  /-- An option with the value joined to it, if any; `short` tells single-dash spellings. -/
  | option (o : Opt) (short : Bool) (joined : Option String)
  | unknown
  deriving DecidableEq, Repr

def splitEquals (word : String) : String × Option String :=
  let cs := word.toList
  match cs.dropWhile (· ≠ '=') with
  | [] => (word, none)
  | _ :: value => (String.ofList (cs.takeWhile (· ≠ '=')), some (String.ofList value))

/-- A minus sign, digits, and perhaps a point before the last of them. -/
def isNegativeNumber (word : String) : Bool :=
  let isDigit (c : Char) := (Text.digitValue? c).isSome
  -- A line end after the number does no harm.
  let cs := if word.endsWith "\n" then word.toList.dropLast else word.toList
  match cs with
  | '-' :: number =>
    match number.dropWhile isDigit with
    | [] => !number.isEmpty
    | '.' :: fraction => !fraction.isEmpty && fraction.all isDigit
    | _ => false
  | _ => false

/-- The spellings that a word may stand for, each with its role. -/
def readings (word : String) : List (String × Role) :=
  if word.startsWith "--" then
    let (name, joined) := splitEquals word
    (Opt.table.filter (·.1.startsWith name)).map fun (spelling, o) =>
      (spelling, .option o false joined)
  else
    let (name, joined) := (String.ofList (word.toList.take 2), String.ofList (word.toList.drop 2))
    (Opt.table.filter (·.1 = name)).map fun (spelling, o) => (spelling, .option o true (some joined))

def isShort (spelling : String) : Bool := !spelling.startsWith "--"

def role (word : String) : Except UsageError Role :=
  if !word.startsWith "-" then .ok .plain
  else
    match Opt.find? word with
    | some o => .ok (.option o (isShort word) none)
    | none =>
      if word = "-" then .ok .plain
      else
        match splitEquals word with
        | (name, some value) =>
          match Opt.find? name with
          | some o => .ok (.option o (isShort name) (some value))
          | none => guess
        | (_, none) => guess
where
  guess : Except UsageError Role :=
    match readings word with
    | [(_, role)] => .ok role
    | [] =>
      if isNegativeNumber word || word.toList.contains ' ' then .ok .plain else .ok .unknown
    | many => .error (.ambiguous word (many.map (·.1)))

def roles : List String → Except UsageError (List (String × Role))
  | [] => .ok []
  | word :: rest =>
    if word = "--" then .ok ((word, .separator) :: rest.map (·, .plain))
    else do return (word, ← role word) :: (← roles rest)

/-! ## Parsing -/

/-- A flag joined with further text: more flags, if it is a short one. -/
def joinedFlags (options : Options) (o : Opt) : List Char → Except UsageError Options
  | [] => .ok (options.setFlag o)
  | c :: rest =>
    match Opt.find? (String.ofList ['-', c]) with
    | some next => joinedFlags (options.setFlag o) next rest
    | none => .error (.unusedValue o (String.ofList (c :: rest)))

def joined (options : Options) (o : Opt) (short : Bool) (value : String) :
    Except UsageError Options :=
  if o.takesValue then .ok (options.setValue (.ofJoined value) o)
  else if short && value ≠ "" then joinedFlags options o value.toList
  else .error (.unusedValue o value)

def collect (options : Options) (extra : List String) :
    List (String × Role) → Except UsageError (Options × List String)
  | [] => .ok (options, extra)
  | (_, .option o short (some value)) :: rest => do
    collect (← joined options o short value) extra rest
  | (_, .option o _ none) :: rest =>
    if o.takesValue then
      match rest with
      | (value, .plain) :: rest => collect (options.setValue (.value value) o) extra rest
      | _ => .error (.missingValue o)
    else collect (options.setFlag o) extra rest
  | (word, _) :: rest => collect options (extra ++ [word]) rest

def parse (words : List String) : Except UsageError Options := do
  match ← collect {} [] (← roles words) with
  | (options, []) => return options
  | (_, extra) => .error (.unrecognized extra)

/-- Splits the options from the command after them. A word after an option that takes a value
is no command. -/
def splitCommand : List String → List String × List String
  | [] => ([], [])
  | word :: rest =>
    if !word.startsWith "-" then ([], word :: rest)
    else if (Opt.find? word).any (·.takesValue) then
      match rest with
      | [] => ([word], [])
      | value :: rest => let (options, command) := splitCommand rest; (word :: value :: options, command)
    else let (options, command) := splitCommand rest; (word :: options, command)

end Options

end CodeSense
