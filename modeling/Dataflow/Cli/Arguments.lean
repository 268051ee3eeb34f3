/-!
# Arguments

How the words of a command line are read. An option has a long name after two dashes and may have a
letter after one. Its value follows an equals sign, or directly the letter, or is the next word,
which then must not look like an option. An option may be given once at most. After two dashes alone
all words are taken as they are.

The settings directory may be given before or after the command; the one after it counts.
-/

namespace Dataflow

/-- What a command line asks for. -/
inductive Command where
  /-- Make the listing of a document. -/
  | compile (document : String) (root : Option String) (noPreview : Bool) (output : Option String)
  /-- Show the status of each node of a document. -/
  | status (document : String)
  /-- Find the columns of a document. -/
  | propagate (document : String) (library libraryUrl output : Option String)
  /-- Show the algorithms of the catalog, or the schema of one. -/
  | describe (algorithm : Option String)
  deriving DecidableEq

/-- A command line that makes sense. -/
inductive Invocation where
  /-- Show the version. -/
  | version
  /-- Run a command, with the settings of a directory. -/
  | run (config : Option String) (command : Command)
  deriving DecidableEq

namespace Arguments

/-- An option that a command knows. -/
structure Flag where
  /-- The name after two dashes. -/
  name : String
  /-- The letter after one dash. -/
  letter : Option Char
  /-- Whether a value belongs to it. -/
  hasValue : Bool
  /-- Whether the value may be empty. -/
  mayBeEmpty : Bool

/-- An option whose value is a path. -/
def pathFlag (name : String) (letter : Option Char) : Flag := ⟨name, letter, true, false⟩

/-- An option whose value is any text. -/
def textFlag (name : String) : Flag := ⟨name, none, true, true⟩

/-- An option without a value. -/
def switch (name : String) (letter : Option Char) : Flag := ⟨name, letter, false, false⟩

/-- The option for the directory with the settings. -/
def configFlag : Flag := pathFlag "config" (some 'c')

/-- The option for the file that the result is written to. -/
def outputFlag : Flag := pathFlag "output" (some 'o')

/-- The option for the version. -/
def versionFlag : Flag := switch "version" (some 'V')

/-- What a word of the command line is. -/
inductive Piece where
  /-- A word as it is. -/
  | word
  /-- The end of the options. -/
  | endOfOptions
  /-- An option with all that belongs to it. -/
  | complete (flag : Flag) (value : String)
  /-- An option whose value is the next word. -/
  | pending (flag : Flag)
  /-- Something that looks like an option and is none. -/
  | unknown

/-- An option by itself or with the text that follows it. -/
def pieceOf (flag : Option Flag) (attached : Option (List Char)) : Piece :=
  match flag, attached with
  | none, _ => .unknown
  | some flag, none => if flag.hasValue then .pending flag else .complete flag ""
  | some flag, some text =>
    if flag.hasValue then .complete flag (String.ofList text) else .unknown

/-- A text without the equals sign at its start. -/
def dropEquals : List Char → List Char
  | '=' :: rest => rest
  | text => text

/-- The text that is attached to a letter. -/
def attachedTo (flag : Option Flag) (rest : List Char) : Option (List Char) :=
  if rest.isEmpty || flag.any fun flag => !flag.hasValue then none else some (dropEquals rest)

/-- What a word of the command line is, given the options of the command. -/
def classify (flags : List Flag) (arg : String) : Piece :=
  match arg.toList with
  | ['-', '-'] => .endOfOptions
  | '-' :: '-' :: rest =>
    let name := rest.takeWhile (· != '=')
    let flag := flags.find? fun flag => flag.name.toList == name
    pieceOf flag (if rest.contains '=' then some (rest.drop (name.length + 1)) else none)
  | '-' :: letter :: rest =>
    let flag := flags.find? fun flag => flag.letter == some letter
    pieceOf flag (attachedTo flag rest)
  | _ => .word

/-- Whether a word cannot be the value of the option before it. -/
def looksLikeOption (arg : String) : Bool :=
  match arg.toList with
  | '-' :: _ :: _ => true
  | _ => false

/-- The options and words of a command. -/
structure Found where
  /-- The options with their values, by name. -/
  options : List (String × String)
  /-- The words that belong to no option. -/
  words : List String

namespace Found

/-- The value of an option. -/
def get? (found : Found) (name : String) : Option String := found.options.lookup name

/-- Whether an option was given. -/
def has (found : Found) (name : String) : Bool := (found.get? name).isSome

/-- Add an option that was not given before and whose value is allowed. -/
def add? (found : Found) (flag : Flag) (value : String) : Option Found :=
  if found.has flag.name || (flag.hasValue && !flag.mayBeEmpty && value.toList.isEmpty) then none
  else some { found with options := (flag.name, value) :: found.options }

/-- Read the words behind a command. -/
def read? (flags : List Flag) : List String → Found → Option Found
  | [], found => some found
  | arg :: rest, found =>
    match classify flags arg with
    | .word => read? flags rest { found with words := found.words ++ [arg] }
    | .endOfOptions => some { found with words := found.words ++ rest }
    | .complete flag value => (found.add? flag value).bind (read? flags rest)
    | .pending flag =>
      match rest with
      | [] => none
      | value :: others =>
        if looksLikeOption value then none
        else (found.add? flag value).bind (read? flags others)
    | .unknown => none

end Found

/-- A word that names a file. -/
def fileWord : List String → Option String
  | [word] => if word.toList.isEmpty then none else some word
  | _ => none

/-- The options of a command. -/
def flagsOf : String → Option (List Flag)
  | "compile" => some [configFlag, textFlag "root", switch "no-preview" none, outputFlag]
  | "status" => some [configFlag]
  | "propagate" => some
    [configFlag, pathFlag "library" none, textFlag "library-url", outputFlag]
  | "describe" => some [configFlag]
  | _ => none

/-- The command with a name, from its options and words. -/
def commandOf (name : String) (found : Found) : Option Command :=
  match name with
  | "compile" => (fileWord found.words).map fun document =>
    .compile document (found.get? "root") (found.has "no-preview") (found.get? "output")
  | "status" => (fileWord found.words).map .status
  | "propagate" =>
    if found.has "library" && found.has "library-url" then none
    else (fileWord found.words).map fun document =>
      .propagate document (found.get? "library") (found.get? "library-url") (found.get? "output")
  | "describe" =>
    match found.words with
    | [] => some (.describe none)
    | [algorithm] => some (.describe (some algorithm))
    | _ => none
  | _ => none

/-- The command with a name and the words behind it, given the directory that came before it. -/
def readCommand (config : Option String) (name : String) (rest : List String) :
    Option Invocation := do
  let flags ← flagsOf name
  let found ← Found.read? flags rest ⟨[], []⟩
  let command ← commandOf name found
  return .run ((found.get? configFlag.name).or config) command

/-- Read the words before a command and the command, given the options found so far. -/
def readTop : List String → Found → Option Invocation
  | [], _ => none
  | arg :: rest, found =>
    match classify [configFlag, versionFlag] arg with
    | .word => readCommand (found.get? configFlag.name) arg rest
    | .complete flag value =>
      if flag.hasValue then (found.add? flag value).bind (readTop rest) else some .version
    | .pending flag =>
      match rest with
      | [] => none
      | value :: others =>
        if looksLikeOption value then none
        else (found.add? flag value).bind (readTop others)
    | .endOfOptions | .unknown => none

/-- Read a command line; `none` if it makes no sense. -/
def read? (args : List String) : Option Invocation := readTop args ⟨[], []⟩

end Arguments

end Dataflow
