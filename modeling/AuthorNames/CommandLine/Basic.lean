import AuthorNames.Settings.Basic
import AuthorNames.Text.Lines
import AuthorNames.Text.Utf8
/-!
What a command line asks for, and what can be wrong with one.
-/

namespace AuthorNames.CommandLine

/-- The options that take a value. -/
inductive ValueOption where
  | baseUrl | domain | onMissingName | timeout | config
  deriving DecidableEq, Repr

/-- The name of an option, as it is written. -/
def ValueOption.flag : ValueOption → String
  | .baseUrl => "--base-url"
  | .domain => "--domain"
  | .onMissingName => "--on-missing-name"
  | .timeout => "--timeout"
  | .config => "--config"

/-- What stands for the option's value where its use is shown. -/
def ValueOption.placeholder : ValueOption → String
  | .baseUrl => "<BASE_URL>"
  | .domain => "<DOMAIN>"
  | .onMissingName => "<ON_MISSING_NAME>"
  | .timeout => "<SECS>"
  | .config => "<CONFIG>"

/-- All options that take a value. -/
def ValueOption.all : List ValueOption :=
  [.baseUrl, .domain, .onMissingName, .timeout, .config]

/-- The option and its value, as messages show it. -/
def ValueOption.usage (o : ValueOption) : String :=
  o.flag ++ " " ++ o.placeholder

/-- The options that take none. -/
inductive Switch where
  | verbose | help | version
  deriving DecidableEq, Repr

/-- The name of a switch. -/
def Switch.flag : Switch → String
  | .verbose => "--verbose"
  | .help => "--help"
  | .version => "--version"

/-- All switches. -/
def Switch.all : List Switch :=
  [.verbose, .help, .version]

/-- The letter that stands for a switch behind a single hyphen. -/
def Switch.ofLetter? : Char → Option Switch
  | 'v' => some .verbose
  | 'h' => some .help
  | 'V' => some .version
  | _ => none

/-- The switch as messages show it; one that may be repeated has three dots behind it. -/
def Switch.usage : Switch → String
  | .verbose => "--verbose..."
  | switch => switch.flag

/-- A run that a command line asks for. The path of the settings file may be any bytes. -/
structure Request where
  baseUrl : Option String
  domain : Option String
  onMissingName : Option MissingNamePolicy
  timeout : Option UInt64
  config : Option (List UInt8)
  /-- How often `-v` was given, as far as it is counted. -/
  verbosity : UInt8
  deriving DecidableEq, Repr

/-- Nothing is asked for. -/
def Request.empty : Request :=
  ⟨none, none, none, none, none, 0⟩

/-- Why digits are no number of 64 bits. -/
inductive NumberFault where
  | empty | badDigit | tooLarge
  deriving DecidableEq, Repr

/-- The wording of it. -/
def NumberFault.message : NumberFault → String
  | .empty => "cannot parse integer from empty string"
  | .badDigit => "invalid digit found in string"
  | .tooLarge => "number too large to fit in target type"

/-- What is wrong with a command line. -/
inductive UsageFault where
  | unexpected (argument : String)
  /-- A value for a switch. -/
  | unexpectedValue (value : String) (switch : Switch)
  | noValue (option : ValueOption)
  | repeated (option : ValueOption)
  | unknownPolicy (value : String)
  | badNumber (value : String) (fault : NumberFault)
  | notUtf8
  deriving DecidableEq, Repr

/-- What is wrong, in words. -/
def UsageFault.text : UsageFault → String
  | .unexpected argument => "unexpected argument '" ++ argument ++ "' found"
  | .unexpectedValue value switch =>
    "unexpected value '" ++ value ++ "' for '" ++ switch.usage ++ "' found; no more were expected"
  | .noValue option => "a value is required for '" ++ option.usage ++ "' but none was supplied"
  | .repeated option => "the argument '" ++ option.usage ++ "' cannot be used multiple times"
  | .unknownPolicy value =>
    "invalid value '" ++ value ++ "' for '" ++ ValueOption.onMissingName.usage ++ "'"
  | .badNumber value fault =>
    "invalid value '" ++ value ++ "' for '" ++ ValueOption.timeout.usage ++ "': " ++ fault.message
  | .notUtf8 => "invalid UTF-8 was detected in one or more arguments"

/-- The wording of a fault, in one line. -/
def UsageFault.message (f : UsageFault) : String :=
  Text.firstLine ("error: " ++ f.text)

/-- What a command line comes to other than a run. -/
inductive Stop where
  | help (isLong : Bool)
  | version
  | fault (fault : UsageFault)
  deriving DecidableEq, Repr

/-- The name of the program and its version. -/
def versionText : String :=
  "authormap 0.1.0\n"

/-- The options in short. -/
def shortHelp : String :=
"Map author ids to display names and contact addresses

Usage: authormap [OPTIONS]

Options:
      --base-url <BASE_URL>
          Base URL the author id is appended to
      --domain <DOMAIN>
          Domain used for synthesized addresses
      --on-missing-name <ON_MISSING_NAME>
          What to do when a profile page has no display name [possible values: abort, fallback]
      --timeout <SECS>
          Per-request timeout (default: none)
      --config <CONFIG>
          Read settings from this JSON file
  -v, --verbose...
          Verbose logging
  -h, --help
          Print help (see more with '--help')
  -V, --version
          Print version
"

/-- The options at length. -/
def longHelp : String :=
"Map author ids to display names and contact addresses

Usage: authormap [OPTIONS]

Options:
      --base-url <BASE_URL>
          Base URL the author id is appended to

      --domain <DOMAIN>
          Domain used for synthesized addresses

      --on-missing-name <ON_MISSING_NAME>
          What to do when a profile page has no display name

          Possible values:
          - abort:    Stop the run with an error naming the identifier
          - fallback: Emit the same record a failed fetch would produce

      --timeout <SECS>
          Per-request timeout (default: none)

      --config <CONFIG>
          Read settings from this JSON file

  -v, --verbose...
          Verbose logging

  -h, --help
          Print help (see a summary with '-h')

  -V, --version
          Print version
"

/-- The text that is printed in place of a run. -/
def Stop.message : Stop → String
  | .help true => longHelp
  | .help false => shortHelp
  | .version => versionText
  | .fault f => f.message

/-- The exit status: asking for help is no fault. -/
def Stop.exitCode : Stop → Nat
  | .fault _ => 2
  | _ => 0

end AuthorNames.CommandLine
