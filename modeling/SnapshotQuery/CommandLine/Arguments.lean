import SnapshotQuery.Query.Retry

/-!
# Arguments

The program has two commands, `simulate` and `check-config`.  Arguments are read
from left to right; an option that waits for its value is looked at when the
next known option comes or the arguments end.
-/

namespace SnapshotQuery

inductive UsageError where
  | displayHelp
  | displayVersion
  | missingCommand
  | invalidCommand
  | unknownArgument
  | invalidValue
  /-- A value is not a number of 32 bits. -/
  | invalidNumber
  | missingOption
  | repeatedOption
  /-- A switch is given a value. -/
  | unexpectedValue
deriving DecidableEq, Inhabited

/-- Asking for help is no failure. -/
def UsageError.exitCode : UsageError → Nat
  | displayHelp | displayVersion => 0
  | _ => 2

inductive OptionEffect (Draft : Type) where
  | switch (set : Draft → Draft)
  | valued (read : Draft → String → Except UsageError Draft)

structure OptionForm (Draft : Type) where
  name : String
  given : Draft → Bool
  effect : OptionEffect Draft

/-- An option that takes a value, with the value if it has come already. -/
structure PendingOption (Draft : Type) where
  given : Draft → Bool
  read : Draft → String → Except UsageError Draft
  value : Option String

inductive Token where
  /-- Two dashes: no options follow. -/
  | separator
  | long (name : String) (value : Option String)
  /-- One dash and letters, of which the first one counts. -/
  | short (letter : Char)
  | word (text : String)
deriving DecidableEq

namespace Token

def splitValue (text : List Char) : String × Option String :=
  let name := String.ofList (text.takeWhile fun letter => letter ≠ '=')
  match text.dropWhile fun letter => letter ≠ '=' with
  | [] => (name, none)
  | _ :: value => (name, some (String.ofList value))

def ofText (text : String) : Token :=
  match text.toList with
  | ['-', '-'] => separator
  | '-' :: '-' :: rest =>
      let (name, value) := splitValue rest
      long name value
  | '-' :: letter :: _ => short letter
  | _ => word text

end Token

namespace Arguments

variable {Draft : Type}

/-- Take an option into the settings. -/
def accept (draft : Draft) (given : Draft → Bool)
    (read : Draft → String → Except UsageError Draft) (value : String) :
    Except UsageError Draft :=
  if given draft then .error .repeatedOption else read draft value

/-- Look at the option that waits for its value. -/
def resolve (draft : Draft) : Option (PendingOption Draft) → Except UsageError Draft
  | none => .ok draft
  | some option =>
      match option.value with
      | none => .error .invalidValue
      | some value => accept draft option.given option.read value

def read (options : List (OptionForm Draft)) :
    Draft → Option (PendingOption Draft) → List Token → Except UsageError Draft
  | draft, pending, [] => resolve draft pending
  | draft, pending, [.separator] => resolve draft pending
  | _, _, .separator :: _ :: _ => .error .unknownArgument
  | draft, pending, .short letter :: _ =>
      if letter = 'h' then do
        let _ ← resolve draft pending
        .error .displayHelp
      else .error .unknownArgument
  | draft, pending, .word text :: rest =>
      match pending with
      | some ⟨given, take, none⟩ => read options draft (some ⟨given, take, some text⟩) rest
      | _ => .error .unknownArgument
  | draft, pending, .long name value :: rest =>
      if name = "help" then
        if value.isSome then .error .unexpectedValue
        else do
          let _ ← resolve draft pending
          .error .displayHelp
      else
        match options.find? fun option => option.name = name with
        | none => .error .unknownArgument
        | some ⟨_, given, .switch set⟩ =>
            if value.isSome then .error .unexpectedValue
            else do
              let draft ← resolve draft pending
              if given draft then .error .repeatedOption else read options (set draft) none rest
        | some ⟨_, given, .valued take⟩ => do
            let draft ← resolve draft pending
            match value with
            | some value => read options (← accept draft given take value) none rest
            | none => read options draft (some ⟨given, take, none⟩) rest

def digits? : List Char → Option Nat
  | [] => none
  | letters =>
      if letters.all Char.isDigit then
        some (letters.foldl (fun number letter => 10 * number + (letter.toNat - '0'.toNat)) 0)
      else none

/-- A number of 32 bits; a sign may stand before its digits. -/
def number (text : String) : Except UsageError Nat :=
  let parsed := match text.toList with
    | '+' :: rest => digits? rest
    | '-' :: rest => (digits? rest).filter fun value => value = 0
    | letters => digits? letters
  match parsed.filter fun value => value < UInt32.size with
  | some value => .ok value
  | none => .error .invalidNumber

/-- A path is any text that is not empty. -/
def path (text : String) : Except UsageError String :=
  if text.isEmpty then .error .invalidValue else .ok text

end Arguments

inductive PolicyName where
  | noRetry
  | maxRetry
  | indefinite
deriving DecidableEq, Inhabited

def PolicyName.ofText (text : String) : Except UsageError PolicyName :=
  if text = "no-retry" then .ok noRetry
  else if text = "max-retry" then .ok maxRetry
  else if text = "indefinite" then .ok indefinite
  else .error .invalidValue

structure SimulateArguments where
  config : Option String
  rows : Nat
  writes : Nat
  rowsPerWrite : Nat
  /-- Each refill leaves a random number of rows, at most `rowsPerWrite`. -/
  randomWrites : Bool
  policy : Option PolicyName
  maxRetries : Nat
  rederive : Bool
deriving DecidableEq, Inhabited

namespace SimulateArguments

def retryPolicy? (arguments : SimulateArguments) : Option RetryPolicy :=
  arguments.policy.map fun
    | .noRetry => .noRetry
    | .maxRetry => .maxRetry arguments.maxRetries
    | .indefinite => .indefinite

/-- Options being read; each is nothing until it is given. -/
structure Draft where
  config : Option String
  rows : Option Nat
  writes : Option Nat
  rowsPerWrite : Option Nat
  randomWrites : Bool
  policy : Option PolicyName
  maxRetries : Option Nat
  rederive : Bool

def options : List (OptionForm Draft) := [
  { name := "config"
    given := fun draft => draft.config.isSome
    effect := .valued fun draft text => do
      return { draft with config := some (← Arguments.path text) } },
  { name := "rows"
    given := fun draft => draft.rows.isSome
    effect := .valued fun draft text => do
      return { draft with rows := some (← Arguments.number text) } },
  { name := "writes"
    given := fun draft => draft.writes.isSome
    effect := .valued fun draft text => do
      return { draft with writes := some (← Arguments.number text) } },
  { name := "rows-per-write"
    given := fun draft => draft.rowsPerWrite.isSome
    effect := .valued fun draft text => do
      return { draft with rowsPerWrite := some (← Arguments.number text) } },
  { name := "random-writes"
    given := fun draft => draft.randomWrites
    effect := .switch fun draft => { draft with randomWrites := true } },
  { name := "policy"
    given := fun draft => draft.policy.isSome
    effect := .valued fun draft text => do
      return { draft with policy := some (← PolicyName.ofText text) } },
  { name := "max-retries"
    given := fun draft => draft.maxRetries.isSome
    effect := .valued fun draft text => do
      return { draft with maxRetries := some (← Arguments.number text) } },
  { name := "rederive"
    given := fun draft => draft.rederive
    effect := .switch fun draft => { draft with rederive := true } }]

def ofTokens (tokens : List Token) : Except UsageError SimulateArguments := do
  let draft ← Arguments.read options ⟨none, none, none, none, false, none, none, false⟩ none tokens
  return {
    config := draft.config
    rows := draft.rows.getD 10
    writes := draft.writes.getD 0
    rowsPerWrite := draft.rowsPerWrite.getD 3
    randomWrites := draft.randomWrites
    policy := draft.policy
    maxRetries := draft.maxRetries.getD 3
    rederive := draft.rederive }

end SimulateArguments

inductive Invocation where
  | simulate (arguments : SimulateArguments)
  | checkConfig (path : String)
deriving DecidableEq, Inhabited

namespace Invocation

def checkConfigOptions : List (OptionForm (Option String)) := [
  { name := "config"
    given := Option.isSome
    effect := .valued fun _ text => (Arguments.path text).map some }]

def checkConfigOfTokens (tokens : List Token) : Except UsageError Invocation := do
  match ← Arguments.read checkConfigOptions none none tokens with
  | some path => .ok (.checkConfig path)
  | none => .error .missingOption

def commandNames : List String := ["simulate", "check-config", "help"]

/-- `help` takes the name of one command. -/
def help : List String → UsageError
  | [] => .displayHelp
  | [name] => if name ∈ commandNames then .displayHelp else .invalidCommand
  | _ => .invalidCommand

def ofArguments (arguments : List String) : Except UsageError Invocation :=
  match arguments with
  | [] => .error .missingCommand
  | first :: rest =>
      match Token.ofText first with
      | .word "simulate" =>
          (SimulateArguments.ofTokens (rest.map Token.ofText)).map simulate
      | .word "check-config" => checkConfigOfTokens (rest.map Token.ofText)
      | .word "help" => .error (help rest)
      | .word _ => .error .invalidCommand
      | .separator =>
          match rest with
          | [] => .error .missingCommand
          | name :: _ =>
              .error (if name ∈ commandNames then .unknownArgument else .invalidCommand)
      | .long name value =>
          if name = "help" ∨ name = "version" then
            if value.isSome then .error .unexpectedValue
            else .error (if name = "help" then .displayHelp else .displayVersion)
          else .error .unknownArgument
      | .short letter =>
          if letter = 'h' then .error .displayHelp
          else if letter = 'V' then .error .displayVersion
          else .error .unknownArgument

def configPath? : Invocation → Option String
  | simulate arguments => arguments.config
  | checkConfig path => some path

end Invocation

end SnapshotQuery
