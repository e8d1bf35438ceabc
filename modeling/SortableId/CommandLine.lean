/-!
# Command lines

A command takes flags, options with a value, and positional words, or hands over to a command of
its own.  Long names stand behind two hyphens and may carry their value behind an equals sign; one
hyphen introduces letters, of which the last may carry its value directly.  Behind two hyphens alone
all words are positional.  Words are taken from left to right and the first one that has no place
ends the scan, unless a request for help or for the version came before it.
-/

namespace SortableId.CommandLine

/-- Why a command line does not lead to a command. -/
inductive Stop where
  | help
  | version
  | misuse
  deriving DecidableEq, Repr

/-- A parameter of a command.  A flag has no check of values. -/
structure Parameter where
  long : String
  short : Option Char := none
  accepts : Option (String → Bool) := none

/-- What a command takes. -/
structure Grammar where
  parameters : List Parameter
  positionals : Nat := 0
  commands : List String := []
  hasVersion : Bool := false

/-- What a command was given. -/
structure Arguments where
  flags : List String := []
  values : List (String × String) := []
  positionals : List String := []
  deriving DecidableEq, Repr

namespace Arguments

/-- Whether a parameter was given. -/
def given (arguments : Arguments) (long : String) : Bool :=
  arguments.flags.contains long || arguments.values.any fun value => value.1 == long

/-- The value of an option. -/
def value? (arguments : Arguments) (long : String) : Option String :=
  arguments.values.lookup long

/-- Adds a flag, which may be given once. -/
def addFlag (arguments : Arguments) (flag : Parameter) : Except Stop Arguments :=
  if arguments.given flag.long then .error .misuse
  else .ok { arguments with flags := flag.long :: arguments.flags }

/-- Adds the value of an option, which may be given once and has to be acceptable. -/
def addValue (arguments : Arguments) (option : Parameter) (value : String) :
    Except Stop Arguments :=
  if !arguments.given option.long && option.accepts.all (· value) then
    .ok { arguments with values := (option.long, value) :: arguments.values }
  else
    .error .misuse

/-- Adds a positional word, if there is a place for it. -/
def addPositional (grammar : Grammar) (arguments : Arguments) (word : String) :
    Except Stop Arguments :=
  if arguments.positionals.length < grammar.positionals then
    .ok { arguments with positionals := arguments.positionals ++ [word] }
  else
    .error .misuse

end Arguments

namespace Grammar

/-- The parameter with the given long name. -/
def long? (grammar : Grammar) (name : String) : Option Parameter :=
  grammar.parameters.find? fun parameter => parameter.long == name

/-- The parameter with the given letter. -/
def short? (grammar : Grammar) (letter : Char) : Option Parameter :=
  grammar.parameters.find? fun parameter => parameter.short == some letter

/-- Takes a long name and the value behind its equals sign, if it has one.  An option without such
a value waits for the next word. -/
def scanLong (grammar : Grammar) (arguments : Arguments) (name : String)
    (attached : Option String) : Except Stop (Arguments × Option Parameter) :=
  match grammar.long? name, attached with
  | some parameter, none =>
      if parameter.accepts.isSome then .ok (arguments, some parameter)
      else do return (← arguments.addFlag parameter, none)
  | some parameter, some value =>
      if parameter.accepts.isSome then do return (← arguments.addValue parameter value, none)
      else .error .misuse
  | none, none =>
      if name = "help" then .error .help
      else if name = "version" ∧ grammar.hasVersion then .error .version
      else .error .misuse
  | none, some _ => .error .misuse

/-- Takes the letters behind one hyphen.  An option takes what follows its letter as its value, with
or without an equals sign; if nothing follows, it waits for the next word. -/
def scanShort (grammar : Grammar) (arguments : Arguments) :
    List Char → Except Stop (Arguments × Option Parameter)
  | [] => .ok (arguments, none)
  | letter :: rest =>
      match grammar.short? letter with
      | some parameter =>
          if parameter.accepts.isSome then
            match rest with
            | [] => .ok (arguments, some parameter)
            | '=' :: value => do
                return (← arguments.addValue parameter (String.ofList value), none)
            | value => do return (← arguments.addValue parameter (String.ofList value), none)
          else do
            scanShort grammar (← arguments.addFlag parameter) rest
      | none =>
          if letter = 'h' then .error .help
          else if letter = 'V' ∧ grammar.hasVersion then .error .version
          else .error .misuse

/-- Whether a word can be the value of an option that waits for one. -/
def isValue (word : String) : Bool :=
  match word.toList with
  | '-' :: _ :: _ => false
  | _ => true

/-- Takes words from left to right, while an option may be waiting for its value.  The name of a
command ends the scan; it is returned with the words behind it. -/
def scan (grammar : Grammar) (arguments : Arguments) (waiting : Option Parameter) :
    List String → Except Stop (Arguments × List String)
  | [] => if waiting.isSome then .error .misuse else .ok (arguments, [])
  | word :: rest =>
      match waiting with
      | some option =>
          if isValue word then do
            grammar.scan (← arguments.addValue option word) none rest
          else
            .error .misuse
      | none =>
          match word.toList with
          | ['-', '-'] => do
              return (← rest.foldlM (Arguments.addPositional grammar) arguments, [])
          | '-' :: '-' :: name => do
              let attached := name.dropWhile (· ≠ '=')
              let (arguments, waiting) ← grammar.scanLong arguments
                (String.ofList (name.takeWhile (· ≠ '=')))
                (if attached.isEmpty then none else some (String.ofList attached.tail))
              grammar.scan arguments waiting rest
          | '-' :: letter :: letters => do
              let (arguments, waiting) ← grammar.scanShort arguments (letter :: letters)
              grammar.scan arguments waiting rest
          | _ =>
              if grammar.commands.contains word then
                .ok (arguments, word :: rest)
              else do
                grammar.scan (← arguments.addPositional grammar word) none rest

/-- What a command was given, and the command that it hands over to with the words for it. -/
def parse (grammar : Grammar) (words : List String) : Except Stop (Arguments × List String) :=
  grammar.scan {} none words

end Grammar

end SortableId.CommandLine
