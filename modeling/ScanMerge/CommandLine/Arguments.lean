import ScanMerge.Disk.Basic
import ScanMerge.Report.Basic
import ScanMerge.Settings
import ScanMerge.Text.Encoding

/-!
The arguments of the command line: flags, options with a value each, and lists of values that commas
separate. The words are bytes; a path keeps the bytes of its word, other values have to be text.
-/

set_option autoImplicit false

namespace ScanMerge.CommandLine

/-- A word of the command line, or the value of a variable of the environment. -/
abbrev Word : Type := List UInt8

/-- A switch without a value. -/
inductive Flag where
  | includeMeasures
  | verbose
  | quiet
  | failOnWarnings
  | dryRun
  | initConfig
  | help
  | version
  deriving DecidableEq, Repr

inductive Setting where
  | manifest
  | config
  | output
  | format
  | concurrency
  | encoding
  | extensions
  | exclude
  deriving DecidableEq, Repr

inductive Switch where
  | flag (flag : Flag)
  | setting (setting : Setting)
  deriving DecidableEq, Repr

def Switch.ofName? (name : String) : Option Switch :=
  match name with
  | "include-measures" => some (.flag .includeMeasures)
  | "verbose" => some (.flag .verbose)
  | "quiet" => some (.flag .quiet)
  | "fail-on-warnings" => some (.flag .failOnWarnings)
  | "dry-run" => some (.flag .dryRun)
  | "init-config" => some (.flag .initConfig)
  | "help" => some (.flag .help)
  | "version" => some (.flag .version)
  | "manifest" => some (.setting .manifest)
  | "config" => some (.setting .config)
  | "output" => some (.setting .output)
  | "format" => some (.setting .format)
  | "concurrency" => some (.setting .concurrency)
  | "encoding" => some (.setting .encoding)
  | "extensions" => some (.setting .extensions)
  | "exclude" => some (.setting .exclude)
  | _ => none

def Switch.ofLetter? (letter : Char) : Option Switch :=
  match letter with
  | 'm' => some (.setting .manifest)
  | 'c' => some (.setting .config)
  | 'o' => some (.setting .output)
  | 'v' => some (.flag .verbose)
  | 'q' => some (.flag .quiet)
  | 'h' => some (.flag .help)
  | 'V' => some (.flag .version)
  | _ => none

/-- Why arguments give no settings for a run. -/
inductive UsageError where
  | unknownArgument
  /-- A value is missing, empty or none of the choices. -/
  | invalidValue
  | notNumber
  /-- A value that has to be text is not UTF-8. -/
  | notText
  /-- A switch is given twice. -/
  | repeated
  /-- A value is given to a flag. -/
  | unneededValue
  | missingManifest
  | helpRequested
  | versionRequested
  deriving DecidableEq, Repr

/-- The arguments of a run. -/
structure Arguments where
  manifest : Option Path := none
  config : Option Path := none
  output : Option Path := none
  format : Option ReportFormat := none
  concurrency : Option Nat := none
  encoding : Option String := none
  extensions : Option (List String) := none
  exclude : Option (List String) := none
  includeMeasures : Bool := false
  verbose : Bool := false
  quiet : Bool := false
  failOnWarnings : Bool := false
  dryRun : Bool := false
  initConfig : Bool := false
  deriving DecidableEq, Repr, Inhabited

namespace Arguments

/-- The format of the report; Markdown unless another one is given. -/
def reportFormat (arguments : Arguments) : ReportFormat :=
  arguments.format.getD .markdown

/-! ### Values -/

def textOf (word : Word) : Except UsageError String :=
  (Text.Utf8.decode? word).elim (.error .notText) fun chars => .ok (String.ofList chars)

/-- A number of 64 bits; a plus sign may stand before it. -/
def number? (text : String) : Option Nat :=
  let digits :=
    match text.toList with
    | '+' :: rest => rest
    | digits => digits
  if digits = [] ∨ !digits.all Char.isDigit then none
  else
    let value := Instant.valueOfDigits digits
    if value < UInt64.size then some value else none

def numberOf (word : Word) : Except UsageError Nat := do
  (number? (← textOf word)).elim (.error .notNumber) .ok

/-- A path that is not empty. -/
def pathOf (word : Word) : Except UsageError Path :=
  if word = [] then .error .invalidValue else .ok ⟨word⟩

def comma : UInt8 := 0x2C

def commaSeparated : Word → List Word
  | [] => [[]]
  | byte :: rest =>
    if byte = comma then [] :: commaSeparated rest
    else
      match commaSeparated rest with
      | [] => [[byte]]
      | first :: others => (byte :: first) :: others

def textsOf (word : Word) : Except UsageError (List String) :=
  (commaSeparated word).mapM textOf

/-- The word for a format. What is not text is none of the choices, either. -/
def formatOf (word : Word) : Except UsageError ReportFormat :=
  match textOf word with
  | .ok "markdown" => .ok .markdown
  | .ok "json" => .ok .json
  | _ => .error .invalidValue

/-- A single value in place of none. -/
def once {α β : Type} (present : Option α) (value : Except UsageError β) : Except UsageError β :=
  if present.isSome then .error .repeated else value

/-- The arguments with a value for a setting. Lists of values grow; other settings are given once.
-/
def set (arguments : Arguments) (setting : Setting) (word : Word) : Except UsageError Arguments :=
  match setting with
  | .manifest =>
    (once arguments.manifest (pathOf word)).map fun path => { arguments with manifest := some path }
  | .config =>
    (once arguments.config (pathOf word)).map fun path => { arguments with config := some path }
  | .output =>
    (once arguments.output (pathOf word)).map fun path => { arguments with output := some path }
  | .format =>
    (once arguments.format (formatOf word)).map fun format =>
      { arguments with format := some format }
  | .concurrency =>
    (once arguments.concurrency (numberOf word)).map fun number =>
      { arguments with concurrency := some number }
  | .encoding =>
    (once arguments.encoding (textOf word)).map fun name => { arguments with encoding := some name }
  | .extensions =>
    (textsOf word).map fun names =>
      { arguments with extensions := some (arguments.extensions.getD [] ++ names) }
  | .exclude =>
    (textsOf word).map fun names =>
      { arguments with exclude := some (arguments.exclude.getD [] ++ names) }

def raise (arguments : Arguments) (flag : Flag) : Except UsageError Arguments :=
  let once (present : Bool) (raised : Arguments) : Except UsageError Arguments :=
    if present then .error .repeated else .ok raised
  match flag with
  | .includeMeasures => once arguments.includeMeasures { arguments with includeMeasures := true }
  | .verbose => once arguments.verbose { arguments with verbose := true }
  | .quiet => once arguments.quiet { arguments with quiet := true }
  | .failOnWarnings => once arguments.failOnWarnings { arguments with failOnWarnings := true }
  | .dryRun => once arguments.dryRun { arguments with dryRun := true }
  | .initConfig => once arguments.initConfig { arguments with initConfig := true }
  | .help => .error .helpRequested
  | .version => .error .versionRequested

/-! ### Words -/

/-- The arguments so far, with a setting that was named last and its value, if that was given. It is
stored when the next known switch or the end is met. -/
structure Progress where
  arguments : Arguments
  pending : Option (Setting × Option Word)

/-- Stores the setting that was named last. -/
def Progress.settle (progress : Progress) : Except UsageError Arguments :=
  match progress.pending with
  | none => .ok progress.arguments
  | some (_, none) => .error .invalidValue
  | some (setting, some word) => progress.arguments.set setting word

def Progress.raise (progress : Progress) (flag : Flag) : Except UsageError Progress := do
  let arguments ← progress.settle
  return ⟨← arguments.raise flag, none⟩

/-- Names a setting, with or without a value. -/
def Progress.name (progress : Progress) (setting : Setting) (value : Option Word) :
    Except UsageError Progress := do
  let arguments ← progress.settle
  match value with
  | none => return ⟨arguments, some (setting, none)⟩
  | some word => return ⟨← arguments.set setting word, none⟩

def hyphen : UInt8 := 0x2D

def equalsSign : UInt8 := 0x3D

/-- A word that begins with two hyphens, after those. -/
def Progress.readName (progress : Progress) (rest : Word) : Except UsageError Progress :=
  let name := Text.Utf8.decode? (rest.takeWhile (· ≠ equalsSign))
  let value :=
    match rest.dropWhile (· ≠ equalsSign) with
    | [] => none
    | _ :: value => some value
  match name.bind fun chars => Switch.ofName? (String.ofList chars), value with
  | none, _ => .error .unknownArgument
  | some (.flag _), some _ => .error .unneededValue
  | some (.flag flag), none => progress.raise flag
  | some (.setting setting), value => progress.name setting value

/-- A word that begins with one hyphen, after that: letters of flags, and at the end possibly one of
a setting with its value. Each letter of a switch is one byte. -/
def Progress.readLetters (progress : Progress) : Word → Except UsageError Progress
  | [] => .ok progress
  | letter :: rest =>
    match Switch.ofLetter? (.ofUInt8 letter) with
    | none => .error .unknownArgument
    | some (.flag flag) => do (← progress.raise flag).readLetters rest
    | some (.setting setting) =>
      if rest = [] then progress.name setting none
      else if rest.head? = some equalsSign then progress.name setting (some rest.tail)
      else progress.name setting (some rest)

/-- A word that is no switch: the value of the setting that was named last, if it has none yet. -/
def Progress.readValue (progress : Progress) (word : Word) : Except UsageError Progress :=
  match progress.pending with
  | some (setting, none) => .ok { progress with pending := some (setting, some word) }
  | _ => .error .unknownArgument

/-- A word that does not end the switches. A hyphen alone is no switch. -/
def Progress.readWord (progress : Progress) (word : Word) : Except UsageError Progress :=
  if [hyphen, hyphen].isPrefixOf word then progress.readName (word.drop 2)
  else if [hyphen].isPrefixOf word ∧ word ≠ [hyphen] then progress.readLetters (word.drop 1)
  else progress.readValue word

/-- The arguments after all words. Two hyphens end the switches, and nothing may follow them. -/
def Progress.readWords (progress : Progress) : List Word → Except UsageError Arguments
  | [] => progress.settle
  | word :: rest =>
    if word = [hyphen, hyphen] then
      if rest = [] then progress.settle else .error .unknownArgument
    else do (← progress.readWord word).readWords rest

/-- Reads arguments. A manifest is needed, also from the environment, unless settings are to be
written. -/
def ofWords (environment : Option Word) (words : List Word) : Except UsageError Arguments := do
  let arguments ← Progress.readWords ⟨{}, none⟩ words
  let arguments ←
    match arguments.manifest, environment with
    | none, some word => arguments.set .manifest word
    | _, _ => .ok arguments
  if arguments.manifest.isNone ∧ !arguments.initConfig then .error .missingManifest
  else .ok arguments

/-! ### Use -/

/-- What is wrong with arguments that could be read. -/
inductive Objection where
  | noManifest
  | manifestNotFile (path : Path)
  | noWorkers
  | verboseAndQuiet
  | unknownEncoding (name : String)
  deriving DecidableEq, Repr

def Objection.message : Objection → String
  | .noManifest => "A scan manifest is required (--manifest)"
  | .manifestNotFile path => s!"Manifest does not exist: {path.display}"
  | .noWorkers => "Concurrency must be at least 1"
  | .verboseAndQuiet => "Cannot use both --verbose and --quiet"
  | .unknownEncoding name => s!"Unknown encoding: {name}"

/-- The encoding is given and not known. -/
def unknownEncoding? (arguments : Arguments) : Option Objection :=
  arguments.encoding.bind fun name =>
    if (Text.Encoding.ofName? name).isNone then some (.unknownEncoding name) else none

/-- What is wrong with the arguments, if anything. Nothing is when settings are to be written. -/
def objection? (arguments : Arguments) (disk : Disk) : Option Objection :=
  if arguments.initConfig then none
  else
    match arguments.manifest with
    | none => some .noManifest
    | some path =>
      if !disk.isFile path then some (.manifestNotFile path)
      else if arguments.concurrency = some 0 then some .noWorkers
      else if arguments.verbose && arguments.quiet then some .verboseAndQuiet
      else arguments.unknownEncoding?

/-- The settings as the arguments change them. They keep what is shown for the path of a report. -/
def merge (arguments : Arguments) (settings : Settings) : Settings :=
  { settings with
    general :=
      { output := (arguments.output.map Path.display).getD settings.general.output
        verbose := arguments.verbose || settings.general.verbose
        concurrency := arguments.concurrency.getD settings.general.concurrency }
    encoding := { default := arguments.encoding.getD settings.encoding.default }
    scanner :=
      { extensions := arguments.extensions.getD settings.scanner.extensions
        excludes := arguments.exclude.getD settings.scanner.excludes }
    report :=
      { failOnWarnings := arguments.failOnWarnings || settings.report.failOnWarnings
        includeMeasures := arguments.includeMeasures || settings.report.includeMeasures } }

end Arguments

inductive LogLevel where
  | error
  | info
  | debug
  deriving DecidableEq, Repr

def LogLevel.word : LogLevel → String
  | .error => "ERROR"
  | .info => "INFO"
  | .debug => "DEBUG"

/-- The level of a run. To be quiet counts more than to be verbose. -/
def LogLevel.ofSettings (settings : Settings) (quiet : Bool) : LogLevel :=
  if quiet then .error else if settings.general.verbose then .debug else .info

end ScanMerge.CommandLine
