namespace RefreshRate.Daemon

/-!
# The command line

The daemon takes one configuration file and a few options.  Arguments are read
from left to right, and the first thing that decides ends the reading: a request
for help or for the version, or a fault.
-/

/-- An option that takes a value. -/
inductive ValueOption where
  | log
  | notify
  deriving Repr, DecidableEq

/-- What the daemon is asked to do. -/
structure Options where
  configPath : String
  logPath? : Option String := none
  notifyPath? : Option String := none
  /-- Whether signals are read from standard input. -/
  readsInput : Bool := false
  deriving Repr, DecidableEq

/-- What a command line asks for. -/
inductive Invocation where
  | run (options : Options)
  | help
  | version
  deriving Repr, DecidableEq

/-- Why a command line is refused. -/
inductive UsageError where
  | unexpectedArgument (argument : String)
  | unwantedValue (argument : String)
  | missingValue (option : ValueOption)
  | emptyValue
  | repeatedOption (argument : String)
  | missingConfig
  deriving Repr, DecidableEq

/-- The form of an argument. -/
inductive Argument where
  /-- Two dashes: all that follows is plain. -/
  | separator
  /-- Two dashes and a name, and a value after an equals sign. -/
  | long (name : String) (value? : Option String)
  /-- A dash and letters, of which the last may be followed by a value. -/
  | short (letter : Char) (rest : List Char)
  | plain
  deriving Repr, DecidableEq

namespace Argument

/-- The value after the first equals sign. -/
def attachedValue? (chars : List Char) : Option String :=
  match chars.dropWhile (· != '=') with
  | [] =>
      none
  | _ :: value =>
      some (String.ofList value)

/-- The form of the characters of an argument. -/
def ofChars : List Char → Argument
  | ['-', '-'] =>
      .separator
  | '-' :: '-' :: chars =>
      .long (String.ofList (chars.takeWhile (· != '='))) (attachedValue? chars)
  | '-' :: letter :: rest =>
      .short letter rest
  | _ =>
      .plain

end Argument

/-- The options given so far. -/
structure OptionDraft where
  configPath? : Option String := none
  logPath? : Option String := none
  notifyPath? : Option String := none
  readsInput : Bool := false
  deriving Repr, DecidableEq

namespace OptionDraft

/-- Give the configuration file. -/
def giveConfig
    (draft : OptionDraft)
    (path : String) :
    Except UsageError OptionDraft :=
  if draft.configPath?.isSome then
    .error (.unexpectedArgument path)
  else if path.isEmpty then
    .error .emptyValue
  else
    .ok { draft with configPath? := some path }

/-- Give the value of an option. -/
def giveValue
    (draft : OptionDraft)
    (option : ValueOption)
    (value : String) :
    Except UsageError OptionDraft :=
  if value.isEmpty then
    .error .emptyValue
  else
    match option with
    | .log =>
        if draft.logPath?.isSome then
          .error (.repeatedOption "--log")
        else
          .ok { draft with logPath? := some value }
    | .notify =>
        if draft.notifyPath?.isSome then
          .error (.repeatedOption "--notify")
        else
          .ok { draft with notifyPath? := some value }

/-- Ask for signals to be read from standard input. -/
def giveInput (draft : OptionDraft) : Except UsageError OptionDraft :=
  if draft.readsInput then
    .error (.repeatedOption "--stdin")
  else
    .ok { draft with readsInput := true }

/-- The invocation that is asked for when all arguments have been read. -/
def finish (draft : OptionDraft) : Except UsageError Invocation :=
  match draft.configPath? with
  | none =>
      .error .missingConfig
  | some configPath =>
      .ok
        (.run
          { configPath
            logPath? := draft.logPath?
            notifyPath? := draft.notifyPath?
            readsInput := draft.readsInput })

end OptionDraft

/-- How the reading of arguments goes on after one of them. -/
inductive Progress where
  /-- More arguments may follow. -/
  | more (draft : OptionDraft)
  /-- The next argument is the value of an option. -/
  | awaiting (draft : OptionDraft) (option : ValueOption)
  /-- The arguments that follow do not matter. -/
  | decided (invocation : Invocation)
  deriving Repr, DecidableEq

/-- Read an option that takes a value, which may be attached to it. -/
def readValueOption
    (draft : OptionDraft)
    (option : ValueOption) :
    Option String → Except UsageError Progress
  | some value =>
      (draft.giveValue option value).map .more
  | none =>
      .ok (.awaiting draft option)

/-- Read an option that takes no value. -/
def readFlag
    (argument : String)
    (effect : Except UsageError Progress) :
    Option String → Except UsageError Progress
  | some _ =>
      .error (.unwantedValue argument)
  | none =>
      effect

/-- Read an option that is given by its name. -/
def readLong
    (draft : OptionDraft)
    (argument name : String)
    (value? : Option String) :
    Except UsageError Progress :=
  if name = "log" then
    readValueOption draft .log value?
  else if name = "notify" then
    readValueOption draft .notify value?
  else if name = "stdin" then
    readFlag argument (draft.giveInput.map .more) value?
  else if name = "help" then
    readFlag argument (.ok (.decided .help)) value?
  else if name = "version" then
    readFlag argument (.ok (.decided .version)) value?
  else
    .error (.unexpectedArgument argument)

/-- The value that follows the letter of an option, perhaps after an equals sign. -/
def letterValue? : List Char → Option String
  | [] =>
      none
  | '=' :: value =>
      some (String.ofList value)
  | value =>
      some (String.ofList value)

/-- Read an option that is given by its letter. -/
def readShort
    (draft : OptionDraft)
    (argument : String)
    (letter : Char)
    (rest : List Char) :
    Except UsageError Progress :=
  if letter = 'o' then
    readValueOption draft .log (letterValue? rest)
  else if letter = 'n' then
    readValueOption draft .notify (letterValue? rest)
  else if letter = 'h' then
    .ok (.decided .help)
  else if letter = 'V' then
    .ok (.decided .version)
  else
    .error (.unexpectedArgument argument)

/-- Read the arguments after the separator. -/
def readPlain
    (draft : OptionDraft) :
    List String → Except UsageError Invocation
  | [] =>
      draft.finish
  | argument :: rest =>
      match draft.giveConfig argument with
      | .error reason =>
          .error reason
      | .ok draft =>
          readPlain draft rest

/-- Read arguments, of which the first may be the value of an option. -/
def readArguments
    (draft : OptionDraft)
    (awaiting? : Option ValueOption) :
    List String → Except UsageError Invocation
  | [] =>
      match awaiting? with
      | some option =>
          .error (.missingValue option)
      | none =>
          draft.finish
  | argument :: rest =>
      let progress :=
        match awaiting?, Argument.ofChars argument.toList with
        | some option, .plain =>
            (draft.giveValue option argument).map Progress.more
        | some option, _ =>
            .error (.missingValue option)
        | none, .plain =>
            (draft.giveConfig argument).map .more
        | none, .separator =>
            (readPlain draft rest).map .decided
        | none, .long name value? =>
            readLong draft argument name value?
        | none, .short letter letters =>
            readShort draft argument letter letters
      match progress with
      | .error reason =>
          .error reason
      | .ok (.more draft) =>
          readArguments draft none rest
      | .ok (.awaiting draft option) =>
          readArguments draft (some option) rest
      | .ok (.decided invocation) =>
          .ok invocation

namespace Invocation

/-- Read a command line. -/
def ofArguments (arguments : List String) : Except UsageError Invocation :=
  readArguments {} none arguments

end Invocation

end RefreshRate.Daemon
