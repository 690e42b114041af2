import SqlToolkit.CommandLine.Options
/-!
Reading the arguments of a command line. Flags stand in front of the command or behind it; those
behind it count first. Each of both parts is read from left to right, and an error behind the
command is told before one that is left open in front of it.
-/

namespace SqlToolkit.CommandLine

inductive Flag where
  | config
  | database
  | path
  | environment
  | verbose
  | help
  | version
  | pretend
  | force
  | table
  | create
  deriving DecidableEq, Repr

namespace Flag

def long : Flag → String
  | config => "config"
  | database => "database"
  | path => "path"
  | environment => "env"
  | verbose => "verbose"
  | help => "help"
  | version => "version"
  | pretend => "pretend"
  | force => "force"
  | table => "table"
  | create => "create"

def short? : Flag → Option Char
  | config => some 'c'
  | database => some 'd'
  | path => some 'p'
  | verbose => some 'v'
  | help => some 'h'
  | version => some 'V'
  | environment | pretend | force | table | create => none

def takesValue : Flag → Bool
  | config | database | path | environment | table | create => true
  | verbose | help | version | pretend | force => false

/-- A path has at least one character. -/
def admits (flag : Flag) (value : String) : Bool :=
  match flag with
  | config | path => value != ""
  | _ => true

end Flag

/-- The name of a command, without what belongs to it. -/
inductive Verb where
  | install
  | run
  | rollback
  | reset
  | refresh
  | status
  | make
  deriving DecidableEq, Repr

namespace Verb

def all : List Verb :=
  [install, run, rollback, reset, refresh, status, make]

def name : Verb → String
  | install => "migrations:install"
  | run => "migrations:run"
  | rollback => "migrations:rollback"
  | reset => "migrations:reset"
  | refresh => "migrations:refresh"
  | status => "migrations:status"
  | make => "make:migration"

def ofName? (name : String) : Option Verb :=
  all.find? fun verb => verb.name = name

end Verb

/-- The word that asks for help on a command. -/
def helpWord : String := "help"

def isCommandWord (word : String) : Bool :=
  word = helpWord || (Verb.ofName? word).isSome

/-- The flags that are known in front of the command, or behind a certain one. -/
def flags (verb : Option Verb) : List Flag :=
  [.config, .database, .path, .environment, .verbose, .help] ++
    match verb with
    | none => [.version]
    | some .run | some .rollback | some .reset => [.pretend, .force]
    | some .refresh => [.force]
    | some .make => [.table, .create]
    | some .install | some .status => []

/-- Why the arguments do not result in options. Asking for help or for the version ends the reading
too. -/
inductive ArgumentError where
  | help
  | version
  /-- Neither a flag nor a command. -/
  | nothing
  | noCommand
  | unknownCommand (word : String)
  | unknownArgument (word : String)
  | missingName
  /-- A value that is missing, or that the flag does not admit. -/
  | invalidValue (flag : Flag)
  | repeated (flag : Flag)
  /-- A value for a flag that takes none. -/
  | excessValue (flag : Flag)
  deriving DecidableEq, Repr

/-- An argument by its form. -/
inductive Argument where
  /-- Two hyphens: all further arguments are words. -/
  | separator
  | long (name : String) (value : Option String)
  | short (letters : List Char)
  | word (text : String)
  deriving DecidableEq, Repr

namespace Argument

/-- A single hyphen is a word. -/
def ofText (text : String) : Argument :=
  match text.toList with
  | ['-', '-'] => separator
  | '-' :: '-' :: rest =>
      let isEqualsSign (c : Char) : Bool := c == '='
      let name := rest.takeWhile (!isEqualsSign ·)
      let value := match rest.dropWhile (!isEqualsSign ·) with
        | [] => none
        | _ :: value => some (String.ofList value)
      long (String.ofList name) value
  | '-' :: c :: rest => short (c :: rest)
  | _ => word text

end Argument

structure Reading where
  values : List (Flag × String) := []
  /-- The last flag with a value, which counts once something follows it. -/
  waiting : Option (Flag × Option String) := none
  word : Option String := none
  /-- Whether the separator was passed. -/
  wordsOnly : Bool := false

namespace Reading

def accept (reading : Reading) (flag : Flag) (value : String) : Except ArgumentError Reading :=
  if reading.values.any (·.1 = flag) then .error (.repeated flag)
  else if flag.admits value then .ok { reading with values := reading.values ++ [(flag, value)] }
  else .error (.invalidValue flag)

def settle (reading : Reading) : Except ArgumentError Reading :=
  match reading.waiting with
  | none => .ok reading
  | some (flag, none) => .error (.invalidValue flag)
  | some (flag, some value) => { reading with waiting := none }.accept flag value

def await (reading : Reading) (flag : Flag) : Except ArgumentError Reading := do
  return { ← reading.settle with waiting := some (flag, none) }

def assign (reading : Reading) (flag : Flag) (value : String) : Except ArgumentError Reading := do
  (← reading.settle).accept flag value

def raise (reading : Reading) (flag : Flag) : Except ArgumentError Reading := do
  let reading ← reading.settle
  match flag with
  | .help => throw .help
  | .version => throw .version
  | _ => reading.accept flag ""

def readLong (known : List Flag) (reading : Reading) (name : String) (value : Option String) :
    Except ArgumentError Reading :=
  match known.find? fun flag => flag.long = name with
  | none => .error (.unknownArgument ("--" ++ name))
  | some flag =>
      match flag.takesValue, value with
      | true, some value => reading.assign flag value
      | true, none => reading.await flag
      | false, some _ => .error (.excessValue flag)
      | false, none => reading.raise flag

/-- Reads letters of flags up to the first one that takes a value: the value is what follows, after
an equals sign or at once. -/
def readShort (known : List Flag) (reading : Reading) : List Char → Except ArgumentError Reading
  | [] => .ok reading
  | letter :: rest =>
      match known.find? fun flag => flag.short? = some letter with
      | none => .error (.unknownArgument (String.ofList ['-', letter]))
      | some flag =>
          if flag.takesValue then
            match rest with
            | [] => reading.await flag
            | '=' :: value => reading.assign flag (String.ofList value)
            | value => reading.assign flag (String.ofList value)
          else do readShort known (← reading.raise flag) rest

def readWord (verb : Verb) (reading : Reading) (text : String) : Except ArgumentError Reading :=
  if verb = .make ∧ reading.word = none then do
    return { ← reading.settle with word := some text }
  else .error (.unknownArgument text)

/-- What is wrong with a word where the command should stand. -/
def strayWord (reading : Reading) (text : String) : ArgumentError :=
  if reading.wordsOnly && isCommandWord text then .unknownArgument text else .unknownCommand text

/-- What asking for help by a word results in: the commands have none of their own. -/
def helpOn : List String → ArgumentError
  | [] => .help
  | [word] => if isCommandWord word then .help else .unknownCommand word
  | first :: second :: _ => .unknownCommand (if isCommandWord first then second else first)

/-- What an argument other than a word makes of the reading. -/
def readFlag (known : List Flag) (reading : Reading) : Argument → Except ArgumentError Reading
  | .separator => .ok { reading with wordsOnly := true }
  | .long name value => reading.readLong known name value
  | .short letters => reading.readShort known letters
  | .word _ => .ok reading

/-- The flag that needs the next word as its value. -/
def hungry? (reading : Reading) : Option Flag :=
  match reading.waiting with
  | some (flag, none) => if reading.wordsOnly then none else some flag
  | _ => none

def form (reading : Reading) (text : String) : Argument :=
  if reading.wordsOnly then .word text else .ofText text

def readBehind (verb : Verb) : Reading → List String → Except ArgumentError Reading
  | reading, [] => reading.settle
  | reading, text :: rest =>
      match reading.form text, reading.hungry? with
      | .word word, some flag => readBehind verb { reading with waiting := some (flag, some word) } rest
      | .word word, none => do readBehind verb (← reading.readWord verb word) rest
      | argument, _ => do readBehind verb (← reading.readFlag (flags (some verb)) argument) rest

/-- Reads up to the command; results in the command and what stands behind it. -/
def readFront : Reading → List String → Except ArgumentError (Reading × Option (Verb × List String))
  | reading, [] => .ok (reading, none)
  | reading, text :: rest =>
      match reading.form text, reading.hungry? with
      | .word word, some flag => readFront { reading with waiting := some (flag, some word) } rest
      | .word word, none =>
          match reading.wordsOnly, Verb.ofName? word with
          | false, some verb => .ok (reading, some (verb, rest))
          | wordsOnly, _ =>
              .error (if !wordsOnly && word = helpWord then helpOn rest else reading.strayWord word)
      | argument, _ => do readFront (← reading.readFlag (flags none) argument) rest

def has (reading : Reading) (flag : Flag) : Bool :=
  (reading.values.lookup flag).isSome

end Reading

def Verb.command (verb : Verb) (reading : Reading) : Except ArgumentError Command :=
  let pretend := reading.has .pretend
  let force := reading.has .force
  match verb with
  | install => .ok .install
  | run => .ok (.run pretend force)
  | rollback => .ok (.rollback pretend force)
  | reset => .ok (.reset pretend force)
  | refresh => .ok (.refresh force)
  | status => .ok .status
  | make =>
      match reading.word with
      | some name => .ok (.make name (reading.values.lookup .table) (reading.values.lookup .create))
      | none => .error .missingName

namespace Options

/-- The options for a command; what was not given has a value of its own. -/
def ofValues (values : List (Flag × String)) (command : Command) : Options where
  config := (values.lookup .config).getD "quarry.toml"
  database := values.lookup .database
  path := (values.lookup .path).getD "migrations"
  environment := (values.lookup .environment).getD "local"
  verbose := (values.lookup .verbose).isSome
  command

def ofArguments (arguments : List String) : Except ArgumentError Options := do
  match ← Reading.readFront {} arguments with
  | (front, some (verb, rest)) =>
      let behind ← Reading.readBehind verb {} rest
      let command ← verb.command behind
      return ofValues (behind.values ++ (← front.settle).values) command
  | (front, none) => throw (if (← front.settle).values.isEmpty then .nothing else .noCommand)

end Options

end SqlToolkit.CommandLine
