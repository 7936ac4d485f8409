import DashboardTools.Json.Printer
import DashboardTools.Text.Quoted

/-!
# Tool parameters and arguments

A tool declares parameters, each of one kind. Arguments come as the fields of an object and are
looked at in the order of their names. The first that is not of its parameter's kind is reported,
and after all of them the first required parameter without an argument; fields that name no
parameter do not count. A parameter that is not required also takes null, which means nothing.
-/

namespace DashboardTools.Tool

open DashboardTools.Decimal
open DashboardTools.Json
open DashboardTools.Text

/-- What kind of argument a parameter takes, and with it how a value is read. -/
inductive Kind where
  | text
  | flag
  | count
  | texts
  | textMap
  /-- One of several names; `emptyFits` tells whether an empty map under a name counts as
  nothing. -/
  | choice (names : List String) (emptyFits : Bool)
  deriving DecidableEq

/-- A parameter of a tool: its name and its kind, whether it is required, and what a user is told of
it. -/
structure Parameter where
  name : String
  description : String
  kind : Kind
  isRequired : Bool
  deriving DecidableEq

/-- An argument of its parameter's kind, as it was read from a value. -/
inductive Argument where
  | text (text : String)
  | flag (value : Bool)
  | count (n : Nat)
  | texts (items : List String)
  | textMap (fields : List (String × String))
  | choice (name : String)
  deriving DecidableEq

/-- An argument as a value, as it stands in the body of a call. A choice stands there by its
name. -/
def Argument.toValue : Argument → Value
  | .text given => .string given
  | .flag value => .bool value
  | .count n => .int n
  | .texts items => .array (items.map .string)
  | .textMap fields => .object (fields.map fun field => (field.1, .string field.2))
  | .choice name => .string name

/-- The text of a text argument, or the name that was chosen. Other arguments have none. -/
def Argument.text? : Argument → Option String
  | .text given => some given
  | .choice name => some name
  | _ => none

/-- The number of a count argument. Other arguments have none. -/
def Argument.count? : Argument → Option Nat
  | .count n => some n
  | _ => none

/-- What is wrong with arguments. Only the first thing that is found is reported. -/
inductive ArgumentProblem where
  | missing (name : String)
  | wrongType (found expected : String)
  | wrongValue (found expected : String)
  | unknownVariant (found : String) (known : List String)
  deriving DecidableEq

/-- A text between backticks, as messages quote the names of fields. -/
def ticked (text : String) : String := "\x60" ++ text ++ "\x60"

/-- The names that a choice offers, as a message lists them. -/
def offered : List String → String
  | [] => "there are no variants"
  | [one] => "expected " ++ ticked one
  | [one, other] => "expected " ++ ticked one ++ " or " ++ ticked other
  | names => "expected one of " ++ String.intercalate ", " (names.map ticked)

/-- The words for a problem with arguments, which tell what was found and what was expected. -/
def ArgumentProblem.message : ArgumentProblem → String
  | .missing name => "missing field " ++ ticked name
  | .wrongType found expected => "invalid type: " ++ found ++ ", expected " ++ expected
  | .wrongValue found expected => "invalid value: " ++ found ++ ", expected " ++ expected
  | .unknownVariant found known => "unknown variant " ++ ticked found ++ ", " ++ offered known

/-- How a message describes a value: by its kind, with the value itself where it is a single one. -/
def describe : Value → String
  | .null => "null"
  | .bool true => "boolean " ++ ticked "true"
  | .bool false => "boolean " ++ ticked "false"
  | .int n => "integer " ++ ticked (.ofList (intText n))
  | .float x => "floating point " ++ ticked (.ofList ((floatText? x).getD []))
  | .string text => "string " ++ .ofList (quote text.toList)
  | .array _ => "sequence"
  | .object _ => "map"

/-- The problem of a value that is not of the type expected. -/
def wrongType (value : Value) (expected : String) : ArgumentProblem :=
  .wrongType (describe value) expected

/-- Reads a text. Only a string is one; numbers are not turned into texts. -/
def readText : Value → Except ArgumentProblem String
  | .string text => .ok text
  | value => .error (wrongType value "a string")

/-- Reads the texts of a sequence, in order. The first one that is none is reported. -/
def readTexts : List Value → Except ArgumentProblem (List String)
  | [] => .ok []
  | value :: rest => do
    let text ← readText value
    let texts ← readTexts rest
    .ok (text :: texts)

/-- Reads the texts of a map, in order, with the names they stand under. -/
def readTextFields : List (String × Value) → Except ArgumentProblem (List (String × String))
  | [] => .ok []
  | field :: rest => do
    let text ← readText field.2
    let fields ← readTextFields rest
    .ok ((field.1, text) :: fields)

/-- Reads one of the names that a choice offers, compared exactly. -/
def readVariant (names : List String) (text : String) : Except ArgumentProblem String :=
  if names.contains text then .ok text else .error (.unknownVariant text names)

/-- Whether a value under a name is nothing. An empty map is, for some choices and not for
others. -/
def isNothing (emptyFits : Bool) : Value → Bool
  | .null => true
  | .object [] => emptyFits
  | _ => false

/-- Reads a choice: a name, or an object with the name as its one key and nothing in it. -/
def readChoice (names : List String) (emptyFits : Bool) : Value → Except ArgumentProblem String
  | .string text => readVariant names text
  | .object [(key, value)] => do
    let name ← readVariant names key
    if isNothing emptyFits value then .ok name else .error (wrongType value "unit")
  | .object _ => .error (.wrongValue "map" "map with a single key")
  | value => .error (wrongType value "string or map")

/-- Reads a count, an integer that is not negative. A float is none, even if it is whole. -/
def readCount : Value → Except ArgumentProblem Nat
  | .int n => if 0 ≤ n then .ok n.toNat else .error (.wrongValue (describe (.int n)) "usize")
  | value => .error (wrongType value "usize")

/-- Reads an argument of a kind, or says what was found in its place. -/
def Kind.read : Kind → Value → Except ArgumentProblem Argument
  | .text, value => (readText value).map .text
  | .flag, .bool b => .ok (.flag b)
  | .flag, value => .error (wrongType value "a boolean")
  | .count, value => (readCount value).map .count
  | .texts, .array items => (readTexts items).map .texts
  | .texts, value => .error (wrongType value "a sequence")
  | .textMap, .object fields => (readTextFields fields).map .textMap
  | .textMap, value => .error (wrongType value "a map")
  | .choice names emptyFits, value => (readChoice names emptyFits value).map .choice

/-- Reads the argument of a parameter; null is nothing where it is not required. -/
def Parameter.read (parameter : Parameter) (value : Value) :
    Except ArgumentProblem (Option Argument) :=
  match parameter.isRequired, value with
  | false, .null => .ok none
  | _, value => (parameter.kind.read value).map some

/-- Arguments by the names of their parameters. Parameters that were left out or null are not among
them. -/
abbrev Arguments := List (String × Argument)

/-- The argument of a parameter, if it was given. -/
def Arguments.find? (arguments : Arguments) (name : String) : Option Argument :=
  (List.find? (fun entry => entry.1 == name) arguments).map (·.2)

/-- The text given for a parameter, if one was given. -/
def Arguments.text? (arguments : Arguments) (name : String) : Option String :=
  (arguments.find? name).bind Argument.text?

/-- Reads the fields that name a parameter, in order. The other fields are passed over. -/
def readFields (parameters : List Parameter) :
    List (String × Value) → Except ArgumentProblem Arguments
  | [] => .ok []
  | field :: rest =>
    match parameters.find? (·.name == field.1) with
    | none => readFields parameters rest
    | some parameter => do
      let argument? ← parameter.read field.2
      let arguments ← readFields parameters rest
      match argument? with
      | some argument => .ok ((field.1, argument) :: arguments)
      | none => .ok arguments

/-- The first required parameter that no field names, in the order of the parameters. -/
def firstMissing? (parameters : List Parameter) (fields : List (String × Value)) :
    Option Parameter :=
  parameters.find? fun parameter =>
    parameter.isRequired && !fields.any fun field => field.1 == parameter.name

/-- Reads the arguments for parameters: first what is there, and then whether anything is
missing. -/
def readArguments (parameters : List Parameter) (fields : List (String × Value)) :
    Except ArgumentProblem Arguments := do
  let arguments ← readFields parameters fields
  match firstMissing? parameters fields with
  | some parameter => .error (.missing parameter.name)
  | none => .ok arguments

end DashboardTools.Tool
