/-!
# Command lines

A command line names a command in one or two words and may give the address of the service with
the option `--api-url` at each level; the innermost one counts. It is read from left to right, and
the first thing that cannot be read decides how the reading ends. Two things are looked at late: a
level's option is put in force when the next one comes or the level ends, so an option given twice
is noticed only then, and that a command is missing is noticed at the very end.
-/

namespace DashboardTools.Command

/-- What the program can be told to do: serve tools, or one of the commands about a session. -/
inductive Action where
  | serve
  | login
  | status
  | logout
  deriving DecidableEq

/-- The words that name an action on a command line. -/
def Action.words : Action → String
  | .serve => "serve"
  | .login => "auth login"
  | .status => "auth status"
  | .logout => "auth logout"

/-- Why a reading ends without a command: a request for help or the version, or a mistake. -/
inductive Stop where
  | unknownArgument
  | invalidSubcommand
  | invalidValue
  | argumentConflict
  | tooManyValues
  | missingSubcommand
  | displayHelp
  | displayVersion
  | displayHelpOnMissing
  deriving DecidableEq

/-- The three kinds of place in a command line: at its start, after `auth`, and after a whole
command. -/
inductive Level where
  | top
  | auth
  | leaf (action : Action)
  deriving DecidableEq

/-- The level that a word leads to, if the word is a command of this level. -/
def Level.step? : Level → String → Option Level
  | .top, "serve" => some (.leaf .serve)
  | .top, "auth" => some .auth
  | .auth, "login" => some (.leaf .login)
  | .auth, "status" => some (.leaf .status)
  | .auth, "logout" => some (.leaf .logout)
  | _, _ => none

/-- Whether commands may follow at this level. Below an action there are none. -/
def Level.hasCommands : Level → Bool
  | .leaf _ => false
  | _ => true

/-- Whether a word names a command at this level; asking for help is one wherever there are
others. -/
def Level.names (level : Level) (word : String) : Bool :=
  (level.step? word).isSome || (level.hasCommands && word == "help")

/-- An option that was met: it waits for its value, or has one that is not in force yet. -/
inductive Pending where
  | nothing
  | awaited
  | given (value : String)
  deriving DecidableEq

/-- What a level knows of its option: the value in force, and one that was begun but not yet
settled. -/
structure OptionState where
  inForce? : Option String
  pending : Pending
  deriving DecidableEq

/-- Nothing known yet: no value in force and none awaited. -/
def OptionState.start : OptionState := ⟨none, .nothing⟩

/-- Puts a pending value in force. A value that is still awaited is an error, and so is a second
value. -/
def OptionState.settle (state : OptionState) : Except Stop OptionState :=
  match state.pending with
  | .nothing => .ok state
  | .awaited => .error .invalidValue
  | .given value =>
    if state.inForce?.isSome then .error .argumentConflict else .ok ⟨some value, .nothing⟩

/-- A command line that was read: the action, the address that it was given, and whether it was
named. -/
structure Line where
  apiAddress? : Option String
  /-- Whether the command was named or is the one for an empty command line. -/
  named : Bool
  action : Action
  deriving DecidableEq

/-- Ends a level without a command below it. An empty command line means serving; a group of
commands needs one of them. -/
def Level.finish (level : Level) (state : OptionState) : Except Stop Line := do
  let state ← state.settle
  match level with
  | .top => .ok ⟨state.inForce?, false, .serve⟩
  | .auth => .error (if state.inForce?.isSome then .missingSubcommand else .displayHelpOnMissing)
  | .leaf action => .ok ⟨state.inForce?, true, action⟩

/-- Answers a request for help about the command that the words name. -/
def helpAbout (level : Level) : List String → Stop
  | [] => .displayHelp
  | word :: rest =>
    match level.step? word with
    | some next => helpAbout next rest
    | none =>
      if level.hasCommands && word == "help" then
        if rest.isEmpty then .displayHelp else .invalidSubcommand
      else .invalidSubcommand

/-- What is wrong with a word that is neither an option nor a command. -/
def Level.strayWord (level : Level) : Stop :=
  if level.hasCommands then .invalidSubcommand else .unknownArgument

/-- What is wrong with the first word after two hyphens. -/
def Level.strayAfterHyphens (level : Level) (word : String) : Stop :=
  if level.names word then .unknownArgument else level.strayWord

/-- A word that starts with a hyphen, taken apart into its option and a value written with it. -/
inductive Shape where
  | plain
  | hyphens
  | long (name : List Char) (value? : Option (List Char))
  | short (letter : Char)
  deriving DecidableEq

/-- Takes a word apart. Only a word that begins with a hyphen and goes on after it has a shape other
than plain. -/
def Shape.ofWord (word : String) : Shape :=
  match word.toList with
  | ['-', '-'] => .hyphens
  | '-' :: '-' :: rest =>
    match rest.dropWhile (· != '=') with
    | [] => .long rest none
    | _ :: value => .long (rest.takeWhile (· != '=')) (some value)
  | '-' :: letter :: _ => .short letter
  | _ => .plain

/-- Ends the reading for a help or version option, after a pending value is put in force. -/
def OptionState.display (state : OptionState) (stop : Stop) : Stop :=
  match state.settle with
  | .ok _ => stop
  | .error problem => problem

/-- The line below a level, with the level's own option behind it. -/
def Line.under (line : Line) (state : OptionState) : Except Stop Line := do
  let state ← state.settle
  .ok { line with apiAddress? := line.apiAddress?.or state.inForce? }

/-- Reads the words at a level, from left to right. A word that leads to a level below is followed
there with the rest. -/
def readWords (level : Level) (state : OptionState) : List String → Except Stop Line
  | [] => level.finish state
  | word :: rest =>
    match if state.pending = .awaited then none else level.step? word with
    | some next => do
      let line ← readWords next .start rest
      line.under state
    | none =>
      if state.pending ≠ .awaited ∧ level.hasCommands ∧ word = "help" then
        .error (helpAbout level rest)
      else
        match Shape.ofWord word with
        | .hyphens =>
          match rest with
          | [] => level.finish state
          | stray :: _ => .error (level.strayAfterHyphens stray)
        | .long name value? =>
          if name = "api-url".toList then
            match state.settle with
            | .error problem => .error problem
            | .ok state =>
              match value? with
              | none => readWords level { state with pending := .awaited } rest
              | some value =>
                if state.inForce?.isSome then .error .argumentConflict
                else readWords level ⟨some (.ofList value), .nothing⟩ rest
          else if name = "help".toList then
            .error (if value?.isSome then .tooManyValues else state.display .displayHelp)
          else if name = "version".toList ∧ level = .top then
            .error (if value?.isSome then .tooManyValues else state.display .displayVersion)
          else .error .unknownArgument
        | .short letter =>
          if letter = 'h' then .error (state.display .displayHelp)
          else if letter = 'V' ∧ level = .top then .error (state.display .displayVersion)
          else .error .unknownArgument
        | .plain =>
          if state.pending = .awaited then
            readWords level { state with pending := .given word } rest
          else .error level.strayWord

/-- Reads a command line, without the program's name, beginning at the top level with nothing
known. -/
def Line.parse (words : List String) : Except Stop Line := readWords .top .start words

end DashboardTools.Command
