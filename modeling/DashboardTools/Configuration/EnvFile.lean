import DashboardTools.Text.Blank
import DashboardTools.Text.WordTable

/-!
# Environment files

An environment file sets variables that are not set yet, one `KEY=value` a line, in order, up to
the first line that cannot be read. A value may be quoted and then span lines; single quotes keep
everything as it is, double quotes and bare text know a backslash escape and the value of another
variable after a dollar sign. A number sign after a blank opens a comment.
-/

namespace DashboardTools.Configuration

open DashboardTools.Text

/-- Variables with their values, the first of a name being the one that counts. -/
abbrev Environment := List (String × String)

/-- The value of a variable, from the first entry with its name. -/
def Environment.value? (environment : Environment) (name : String) : Option String :=
  (environment.find? (·.1 == name)).map (·.2)

/-- Sets a variable that is not set yet. One that is set keeps its value, so the process goes before
the file. -/
def Environment.setDefault (environment : Environment) (name value : String) : Environment :=
  if (environment.value? name).isSome then environment else environment ++ [(name, value)]

namespace EnvFile

/-- What a reader of lines has seen last: nothing special, a blank, a backslash, or an open quote
with or without a backslash. -/
inductive Scan where
  | plain
  | gap
  | escape
  | single
  | singleEscape
  | double
  | doubleEscape
  deriving DecidableEq

/-- Reads one character in search of where a value ends; none when the character opens a comment. -/
def Scan.step? : Scan → Char → Option Scan
  | gap, '#' => none
  | plain, c | gap, c =>
    some (match c with
      | '\\' => escape
      | '"' => double
      | '\'' => single
      | _ => plain)
  | escape, _ => some plain
  | double, '\\' => some doubleEscape
  | double, '"' => some plain
  | double, _ => some double
  | doubleEscape, _ => some double
  | single, '\\' => some singleEscape
  | single, '\'' => some plain
  | single, _ => some single
  | singleEscape, _ => some single

/-- Reads one character, a blank after plain text included. Only after such a blank can a comment
open. -/
def Scan.next? (scan : Scan) (c : Char) : Option Scan :=
  if scan = plain ∧ isBlank c ∧ c ≠ '\n' ∧ c ≠ '\r' then some gap else scan.step? c

/-- Reads a line; answers the part before a comment and where the reader stands after it, `none`
after a comment. -/
def scanLine (scan : Scan) : List Char → List Char × Option Scan
  | [] => ([], some scan)
  | c :: rest =>
    match scan.next? c with
    | none => ([], none)
    | some next =>
      let (read, last?) := scanLine next rest
      (c :: read, last?)

/-- The lines of a text, each with the line feed that ends it. -/
def rawLines : List Char → List (List Char)
  | [] => []
  | c :: rest =>
    if c = '\n' then ['\n'] :: rawLines rest
    else
      match rawLines rest with
      | [] => [[c]]
      | line :: lines => (c :: line) :: lines

/-- The line without the line feed at its end and a carriage return before that. -/
def dropEnding (line : List Char) : List Char :=
  if line.getLast? = some '\n' then
    let line := line.dropLast
    if line.getLast? = some '\r' then line.dropLast else line
  else line

/-- Joins lines that an open quote or a backslash holds together; an unfinished one at the end is
lost. `before` is what has been read of the present one. -/
def joinLines (before : List Char) (scan : Scan) : List (List Char) → List (List Char)
  | [] => []
  | line :: rest =>
    if ((before ++ line).dropWhile isBlank).head? = some '#' then joinLines [] .plain rest
    else
      match scanLine scan line with
      | (read, none) => (before ++ read) :: joinLines [] .plain rest
      | (read, some .plain) => dropEnding (before ++ read) :: joinLines [] .plain rest
      | (read, some next) => joinLines (before ++ read) next rest

/-- Where the reader of a value stands: in bare or quoted text, after a backslash, in the name of a
variable, or behind the value. `quoted` says whether double quotes are open. -/
inductive Mode where
  | bare
  | ended
  | single
  | double
  | escape (quoted : Bool)
  | name (quoted braced : Bool) (letters : List Char)
  deriving DecidableEq

/-- The mode in which reading goes on after a substitution, in quotes or outside of them. -/
def Mode.resume (quoted : Bool) : Mode := if quoted then .double else .bare

/-- The value of a variable, empty when it is not set. -/
def substitute (environment : Environment) (letters : List Char) : List Char :=
  ((environment.value? (.ofList letters)).getD "").toList

/-- Reads a value, with its quotes, escapes and substitutions; none when it breaks the rules of the
file. -/
def readValue? (environment : Environment) : Mode → List Char → Option (List Char)
  | .single, [] | .double, [] | .escape true, [] | .name true _ _, [] | .name _ true _, [] => none
  | .name false false letters, [] => some (substitute environment letters)
  | .bare, [] | .ended, [] | .escape false, [] => some []
  | .ended, c :: rest =>
    if c = ' ' ∨ c = '\t' then readValue? environment .ended rest
    else if c = '#' then some []
    else none
  | .escape quoted, c :: rest =>
    let read := readValue? environment (.resume quoted) rest
    if c = '\\' ∨ c = '\'' ∨ c = '"' ∨ c = '$' ∨ c = ' ' then read.map (c :: ·)
    else if c = 'n' then read.map ('\n' :: ·)
    else none
  | .single, c :: rest =>
    if c = '\'' then readValue? environment .bare rest
    else (readValue? environment .single rest).map (c :: ·)
  | .name quoted true letters, c :: rest =>
    if c = '\x7d' then
      (readValue? environment (.resume quoted) rest).map (substitute environment letters ++ ·)
    else readValue? environment (.name quoted true (letters ++ [c])) rest
  | .name quoted false letters, c :: rest =>
    if isWordChar c then readValue? environment (.name quoted false (letters ++ [c])) rest
    else if c = '\x7b' ∧ letters = [] then readValue? environment (.name quoted true []) rest
    else
      let value := substitute environment letters
      if c = '$' then (readValue? environment (.name quoted false []) rest).map (value ++ ·)
      else (readValue? environment (.resume quoted) rest).map (value ++ c :: ·)
  | .double, c :: rest =>
    if c = '$' then readValue? environment (.name true false []) rest
    else if c = '"' then readValue? environment .bare rest
    else if c = '\\' then readValue? environment (.escape true) rest
    else (readValue? environment .double rest).map (c :: ·)
  | .bare, c :: rest =>
    if c = '$' then readValue? environment (.name false false []) rest
    else if c = '\'' then readValue? environment .single rest
    else if c = '"' then readValue? environment .double rest
    else if c = '\\' then readValue? environment (.escape false) rest
    else if c = ' ' ∨ c = '\t' then readValue? environment .ended rest
    else (readValue? environment .bare rest).map (c :: ·)

/-- Whether a character may stand in a variable's name after its first. -/
def isNameChar (c : Char) : Bool := c.isAlphanum || c == '_' || c == '.'

/-- The variable's name at the start of a text, with the text after it. -/
def takeName? (text : List Char) : Option (List Char × List Char) :=
  match text with
  | [] => none
  | c :: _ =>
    if c.isAlpha || c == '_' then some (text.takeWhile isNameChar, text.dropWhile isNameChar)
    else none

/-- What a line says: nothing, or one variable and its value. -/
inductive Line where
  | nothing
  | setting (name value : String)
  deriving DecidableEq

/-- The text after an equals sign and the blanks around it. -/
def afterEquals? (text : List Char) : Option (List Char) :=
  match text.dropWhile isBlank with
  | '=' :: rest => some (rest.dropWhile isBlank)
  | _ => none

/-- Reads one line; `none` when it breaks the rules. A line may start with the word `export`. -/
def readLine? (environment : Environment) (line : List Char) : Option Line :=
  match (trimEnd line).dropWhile isBlank with
  | [] => some .nothing
  | '#' :: _ => some .nothing
  | text => do
    let (name, rest) ← takeName? text
    let (name, value) ←
      match afterEquals? rest with
      | some value => some (name, value)
      | none =>
        if name = "export".toList then do
          let (name, rest) ← takeName? (rest.dropWhile isBlank)
          let value ← afterEquals? rest
          some (name, value)
        else none
    match value with
    | [] | '#' :: _ => some (.setting (.ofList name) "")
    | _ => do
      let read ← readValue? environment .bare value
      some (.setting (.ofList name) (.ofList read))

/-- Sets what the lines say, up to the first that breaks the rules. -/
def setLines (environment : Environment) : List (List Char) → Environment
  | [] => environment
  | line :: rest =>
    match readLine? environment line with
    | none => environment
    | some .nothing => setLines environment rest
    | some (.setting name value) => setLines (environment.setDefault name value) rest

/-- The text without a byte order mark at its start. -/
def dropMark : List Char → List Char
  | '\uFEFF' :: rest => rest
  | text => text

/-- Sets the variables that a file names and that are not set yet. -/
def load (environment : Environment) (text : String) : Environment :=
  setLines environment (joinLines [] .plain (rawLines (dropMark text.toList)))

end EnvFile

end DashboardTools.Configuration
