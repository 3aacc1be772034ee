import BindTrace.CommandLine.Numeral

/-!
# Options of the command line

The settings that a user can give, the ways in which a command line can be wrong, and the texts
shown for them.
-/

namespace BindTrace

namespace CommandLine

structure Options where
  -- Seconds between reports of the trigger count; zero turns them off.
  statsInterval : UInt64 := 10
  attachSymbol : String := "__x64_sys_bind"
deriving DecidableEq

inductive OptionName where
  | statsInterval
  | attachSymbol
deriving DecidableEq, Repr

namespace OptionName

def word : OptionName → String
  | statsInterval => "stats-interval"
  | attachSymbol => "attach-symbol"

/-- What stands for the value of an option in a text. -/
def placeholder : OptionName → String
  | statsInterval => "STATS_INTERVAL"
  | attachSymbol => "ATTACH_SYMBOL"

def synopsis (option : OptionName) : String :=
  "--" ++ option.word ++ " <" ++ option.placeholder ++ ">"

def ofWord? (word : String) : Option OptionName :=
  if word = statsInterval.word then some statsInterval
  else if word = attachSymbol.word then some attachSymbol
  else none

end OptionName

inductive UsageError where
  | helpRequested
  | unexpectedArgument (argument : String) (used : List OptionName)
  | missingValue (option : OptionName)
  | repeated (option : OptionName)
  | invalidValue (option : OptionName) (value : String) (reason : NumeralError)
  | unexpectedValue (value : String) (afterOption : Bool)
deriving DecidableEq

def programName : String := "kestrel"

def choice : String :=
  "<" ++ OptionName.statsInterval.synopsis ++ "|" ++ OptionName.attachSymbol.synopsis ++ ">"

/-- The options of a usage line, or any of them where none is named. -/
def synopses : List OptionName → String
  | [] => "[OPTIONS]"
  | options => " ".intercalate (options.map OptionName.synopsis)

def usage (rest : String) : String :=
  "Usage: " ++ programName ++ " " ++ rest ++ "\n"

def hint : String :=
  "\nFor more information, try '--help'.\n"

def help : String :=
  "Trace bind(2) calls host-wide\n\n" ++ usage "[OPTIONS]" ++
    "\nOptions:\n      " ++ OptionName.statsInterval.synopsis ++
    "\n          Seconds between probe trigger reports, 0 disables them [default: 10]\n      " ++
    OptionName.attachSymbol.synopsis ++
    "\n          Kernel symbol the entry and return probes attach to [default: __x64_sys_bind]\n" ++
    "  -h, --help\n          Print help\n"

namespace UsageError

def message : UsageError → String
  | helpRequested => help
  | unexpectedArgument argument used =>
      "error: unexpected argument '" ++ argument ++ "' found\n\n" ++
        usage (synopses used) ++ hint
  | missingValue option =>
      "error: a value is required for '" ++ option.synopsis ++ "' but none was supplied\n" ++ hint
  | repeated option =>
      "error: the argument '" ++ option.synopsis ++ "' cannot be used multiple times\n\n" ++
        usage "[OPTIONS]" ++ hint
  | invalidValue option value reason =>
      "error: invalid value '" ++ value ++ "' for '" ++ option.synopsis ++ "': " ++ reason.text ++
        "\n" ++ hint
  | unexpectedValue value afterOption =>
      "error: unexpected value '" ++ value ++ "' for '--help' found; no more were expected\n\n" ++
        usage (if afterOption then "--help " ++ choice else "--help") ++ hint

end UsageError

end CommandLine

end BindTrace
