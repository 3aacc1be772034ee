import BindTrace.CommandLine.Options

/-!
# Reading a command line

Arguments are read from left to right.  An option takes its value from behind an equals sign or from
the next argument that is no option, and is settled when the next option starts or the line ends;
only then is its value read.  Behind a bare double dash no argument is an option.
-/

namespace BindTrace

namespace CommandLine

structure Progress where
  statsInterval? : Option UInt64 := none
  attachSymbol? : Option String := none
  settled : List OptionName := []
  pending? : Option (OptionName × Option String) := none

namespace Progress

def store (progress : Progress) (option : OptionName) (value : String) :
    Except UsageError Progress :=
  match option with
  | .attachSymbol => .ok { progress with attachSymbol? := some value }
  | .statsInterval =>
      match Numeral.ofString value with
      | .ok number => .ok { progress with statsInterval? := some number }
      | .error reason => .error (.invalidValue option value reason)

/-- Settles an option with its value: first that it has one, then that it is new, then the value. -/
def settle (progress : Progress) (option : OptionName) (value? : Option String) :
    Except UsageError Progress :=
  match value? with
  | none => .error (.missingValue option)
  | some value =>
      if option ∈ progress.settled then .error (.repeated option)
      else { progress with settled := progress.settled ++ [option] }.store option value

def settlePending (progress : Progress) : Except UsageError Progress :=
  match progress.pending? with
  | none => .ok progress
  | some (option, value?) => { progress with pending? := none }.settle option value?

/-- The options with a value, counting the one that is not settled yet, and without an option that
is not settled because it is a repeat. -/
def used (progress : Progress) : List OptionName :=
  match progress.pending? with
  | some (option, some _) =>
      if option ∈ progress.settled then progress.settled.erase option
      else progress.settled ++ [option]
  | _ => progress.settled

def options (progress : Progress) : Options :=
  let defaults : Options := {}
  { statsInterval := progress.statsInterval?.getD defaults.statsInterval
    attachSymbol := progress.attachSymbol?.getD defaults.attachSymbol }

end Progress

inductive Argument where
  | separator
  | long (word : String) (value? : Option String)
  | short (letter : Char)
  | plain
deriving DecidableEq

namespace Argument

def splitValue : List Char → List Char × Option (List Char)
  | [] => ([], none)
  | '=' :: rest => ([], some rest)
  | c :: rest =>
      let later := splitValue rest
      (c :: later.1, later.2)

def ofChars : List Char → Argument
  | ['-', '-'] => separator
  | '-' :: '-' :: rest =>
      let split := splitValue rest
      long (String.ofList split.1) (split.2.map String.ofList)
  | '-' :: letter :: _ => short letter
  | _ => plain

end Argument

def readLong (progress : Progress) (word : String) (value? : Option String) :
    Except UsageError Progress :=
  match OptionName.ofWord? word, value? with
  | some option, some value => do (← progress.settlePending).settle option (some value)
  | some option, none => do
      let settled ← progress.settlePending
      pure { settled with pending? := some (option, none) }
  | none, _ =>
      if word = "help" then
        match value? with
        | some value => .error (.unexpectedValue value !progress.settled.isEmpty)
        | none => do
            let _ ← progress.settlePending
            throw .helpRequested
      else
        .error (.unexpectedArgument ("--" ++ word) progress.used)

def readShort (progress : Progress) (letter : Char) : Except UsageError Progress :=
  if letter = 'h' then do
    let _ ← progress.settlePending
    throw .helpRequested
  else
    .error (.unexpectedArgument (String.ofList ['-', letter]) [])

/-- Reads an argument that is no option: the value that an option waits for, or nothing expected. -/
def readPlain (progress : Progress) (argument : String) : Except UsageError Progress :=
  match progress.pending? with
  | some (option, none) => .ok { progress with pending? := some (option, some argument) }
  | _ => .error (.unexpectedArgument argument [])

def readAll (progress : Progress) : List String → Except UsageError Progress
  | [] => progress.settlePending
  | argument :: rest =>
      match Argument.ofChars argument.toList with
      | .separator =>
          match rest with
          | [] => progress.settlePending
          | unexpected :: _ => .error (.unexpectedArgument unexpected [])
      | .long word value? => do readAll (← readLong progress word value?) rest
      | .short letter => do readAll (← readShort progress letter) rest
      | .plain => do readAll (← readPlain progress argument) rest

def parse (arguments : List String) : Except UsageError Options :=
  (readAll {} arguments).map Progress.options

end CommandLine

end BindTrace
