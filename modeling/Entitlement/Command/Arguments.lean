import Entitlement.Command.Basic
import Entitlement.Text.Numeral

/-! # Arguments of the program

The program is called with options, the name of a command, and what the command needs.
Arguments are looked at from left to right. A value is examined only when it is clear
that it is complete: at the next value of another kind, at an option, or at the end; a
word that does not fit at all is reported before the values that are still pending. -/

namespace Entitlement

inductive ArgumentFault where
  | helpWanted
  | nothingGiven
  | missingCommand
  | unknownCommand
  | unknownArgument
  | repeatedOption
  | missingValue
  | surplusValue
  | invalidValue
  | missingArgument
  | presetNotText
deriving DecidableEq

def ArgumentFault.usage : String :=
  "Usage: wd-admin [--config <CONFIG>] <COMMAND>

Commands:
  migrate           Create tables and indexes if missing
  seed              Create the permission catalogue and the usual roles
  roles             List live roles
  permissions       List live permissions
  check             Decide whether a user holds any of the given permissions
  assign-default    Replace a user's roles with the default role
  sync-permissions  Replace a role's permission set
"

def ArgumentFault.exitStatus : ArgumentFault → Nat
  | helpWanted => 0
  | _ => 2

namespace Arguments

/-! ## Shapes of arguments -/

inductive Shape where
  | ending
  | long (name : String) (value : Option String)
  | short (name : Char)
  | word (text : String)
deriving DecidableEq

def Shape.of (argument : String) : Shape :=
  match argument.toList with
  | ['-', '-'] => .ending
  | '-' :: '-' :: rest =>
      let name := String.ofList (rest.takeWhile (· ≠ '='))
      match rest.dropWhile (· ≠ '=') with
      | '=' :: value => .long name (some (String.ofList value))
      | _ => .long name none
  | '-' :: name :: _ => .short name
  | _ => .word argument

/-- Whether an option asks for help; `surplus` tells whether a value is written behind
it, which it must not be. -/
def wantsHelp : Shape → Option Bool
  | .long "help" value => some value.isSome
  | .short 'h' => some false
  | _ => none

/-! ## Values of a command -/

structure Operand where
  fits : String → Bool
  isRequired : Bool := true
  isRepeated : Bool := false

structure OperandState where
  expected : List Operand
  begun : Bool
  sound : Bool
  values : List String

def OperandState.take (state : OperandState) (value : String) :
    Except ArgumentFault OperandState :=
  match state.expected with
  | [] => .error .unknownArgument
  | operand :: others =>
      if !state.sound && !state.begun then .error .invalidValue
      else
        let sound := state.sound && operand.fits value
        let values := state.values ++ [value]
        if operand.isRepeated then .ok ⟨operand :: others, true, sound, values⟩
        else .ok ⟨others, false, sound, values⟩

def OperandState.finish (state : OperandState) : Except ArgumentFault (List String) :=
  let waiting := if state.begun then state.expected.tail else state.expected
  if !state.sound then .error .invalidValue
  else if waiting.any (·.isRequired) then .error .missingArgument
  else .ok state.values

def readValues (onlyValues : Bool) (state : OperandState) :
    List String → Except ArgumentFault (List String)
  | [] => state.finish
  | argument :: rest =>
      if onlyValues then do
        readValues true (← state.take argument) rest
      else
        match Shape.of argument with
        | .ending => readValues true state rest
        | .word value => do
            readValues false (← state.take value) rest
        | option =>
            match wantsHelp option with
            | none => .error .unknownArgument
            | some true => .error .surplusValue
            | some false => .error (if state.sound then .helpWanted else .invalidValue)

def readOperands (operands : List Operand) (arguments : List String) :
    Except ArgumentFault (List String) :=
  readValues false ⟨operands, false, true, []⟩ arguments

/-! ## Commands -/

def commandNames : List String :=
  ["migrate", "seed", "roles", "permissions", "check", "assign-default", "sync-permissions"]

def anyText : Operand := { fits := fun _ => true }

def readCommand (name : String) (arguments : List String) : Except ArgumentFault Command :=
  match name with
  | "migrate" => (readOperands [] arguments).map fun _ => .migrate
  | "seed" => (readOperands [] arguments).map fun _ => .seed
  | "roles" => (readOperands [] arguments).map fun _ => .roles
  | "permissions" => (readOperands [] arguments).map fun _ => .permissions
  | "check" => do
      let fits (value : String) : Bool := (PermissionKey.ofArgument value).isOk
      let values ← readOperands [anyText, { fits, isRepeated := true }] arguments
      match values with
      | [] => .error .missingArgument
      | userUuid :: required =>
          .ok (.check userUuid
            (required.filterMap fun value => (PermissionKey.ofArgument value).toOption))
  | "assign-default" => do
      let fits (value : String) : Bool := (Text.integer? value).isSome
      match (← readOperands [{ fits }] arguments).head?.bind Text.integer? with
      | some userId => .ok (.assignDefault userId)
      | none => .error .missingArgument
  | "sync-permissions" => do
      let fits (value : String) : Bool := (Uuid.ofText? value).isSome
      let permissions : Operand := { anyText with isRequired := false, isRepeated := true }
      let values ← readOperands [{ fits }, permissions] arguments
      match values.head?.bind Uuid.ofText? with
      | some roleUuid => .ok (.syncPermissions roleUuid values.tail)
      | none => .error .missingArgument
  | _ => .error .unknownCommand

def help : List String → ArgumentFault
  | [] => .helpWanted
  | [name] => if name = "help" ∨ name ∈ commandNames then .helpWanted else .unknownCommand
  | _ => .unknownCommand

/-! ## Options of the program -/

inductive Preset where
  | missing
  | text
  | notText
deriving DecidableEq

structure OptionState where
  path : Option String
  /-- The option that names a settings file, if it is pending: its value, if that has come. -/
  pending : Option (Option String)

def OptionState.settle (state : OptionState) : Except ArgumentFault OptionState :=
  match state.pending, state.path with
  | none, _ => .ok state
  | some none, _ => .error .missingValue
  | some (some _), some _ => .error .repeatedOption
  | some (some path), none => .ok ⟨some path, none⟩

def readOption (state : OptionState) (option : Shape) : Except ArgumentFault OptionState :=
  match wantsHelp option, option with
  | some true, _ => .error .surplusValue
  | some false, _ => do
      let _ ← state.settle
      .error .helpWanted
  | none, .long "config" none => do
      let state ← state.settle
      .ok { state with pending := some none }
  | none, .long "config" (some path) => do
      let state ← state.settle
      OptionState.settle { state with pending := some (some path) }
  | none, _ => .error .unknownArgument

/-- What a call without a command comes to. What is named elsewhere only matters if no option
names a settings file. -/
def withoutCommand (preset : Preset) (state : OptionState) : ArgumentFault :=
  match state.settle with
  | .error fault => fault
  | .ok state =>
      match state.path, preset with
      | some _, _ | none, .text => .missingCommand
      | none, .missing => .nothingGiven
      | none, .notText => .presetNotText

def afterEnding (word : String) : ArgumentFault :=
  if word = "help" ∨ word ∈ commandNames then .unknownArgument else .unknownCommand

/-- Reads the options of the program, the command and its values. Faults in the values
are reported before those of a pending option. -/
def readFrom (preset : Preset) (state : OptionState) :
    List String → Except ArgumentFault (Option String × Command)
  | [] => .error (withoutCommand preset state)
  | argument :: rest =>
      match Shape.of argument with
      | .ending =>
          match rest with
          | [] => .error (withoutCommand preset state)
          | word :: _ => .error (afterEnding word)
      | .word word =>
          if state.pending = some none then
            readFrom preset { state with pending := some (some word) } rest
          else if word = "help" then .error (help rest)
          else if word ∈ commandNames then do
            let command ← readCommand word rest
            let state ← state.settle
            if state.path.isNone ∧ preset = .notText then .error .presetNotText
            .ok (state.path, command)
          else .error .unknownCommand
      | option => do
          readFrom preset (← readOption state option) rest

/-- Reads the arguments: the settings file that they name, if they name one, and the
command. -/
def read (preset : Preset) (arguments : List String) :
    Except ArgumentFault (Option String × Command) :=
  readFrom preset ⟨none, none⟩ arguments

end Arguments
end Entitlement
