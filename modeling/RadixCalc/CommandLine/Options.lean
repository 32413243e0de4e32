import RadixCalc.Console.Answer
import RadixCalc.Text.WholeNumber

/-!
Options of the command line. Long options may be shortened as long as only one
is meant; short options may be joined with each other and with a value. An
argument that looks like a negative number or holds a space is a value, not an
option. There are no arguments other than options and their values.
-/

namespace RadixCalc.CommandLine

/-- What a double dash is that is attached to an option in the place of its value. Parsers of
arguments differ in this. -/
inductive AttachedDash where
  /-- Text like any other. -/
  | text
  /-- No value at all, although the option takes one. -/
  | nothing
deriving DecidableEq, Repr

/-- What an option is handed for text in the place of its value. -/
def AttachedDash.handsOver (dash : AttachedDash) (text : String) : Option String :=
  if dash = .nothing ∧ text = "--" then none else some text

/-- The options. -/
inductive Switch where
  | help
  | expression
  | inputBase
  | outputBase
  | format
  | precision
  | version
  | logLevel
  | logFile
  | healthCheck
deriving DecidableEq, Repr

namespace Switch

/-- Options in the order in which they are described, under each of their spellings. -/
def spellings : List (String × Switch) :=
  [("-h", help), ("--help", help), ("-e", expression), ("--eval", expression), ("-i", inputBase),
    ("--input-base", inputBase), ("-o", outputBase), ("--output-base", outputBase),
    ("--format", format), ("-p", precision), ("--precision", precision), ("-v", version),
    ("--version", version), ("--log-level", logLevel), ("--log-file", logFile),
    ("--health-check", healthCheck)]

def ofSpelling? (text : List Char) : Option Switch :=
  spellings.lookup (String.ofList text)

def takesValue : Switch → Bool
  | help | version | healthCheck => false
  | expression | inputBase | outputBase | format | precision | logLevel | logFile => true

end Switch

/-- What was said about a base; `missing` is a base that was asked for without a value. -/
inductive BaseChoice where
  | standard
  | number (base : Int)
  | missing
deriving DecidableEq, Repr

/-- What was asked for on the command line. An expression can be asked for without its text. -/
structure Options where
  expressions : List (Option String) := []
  inputBase : BaseChoice := .standard
  outputBase : BaseChoice := .standard
  format : AnswerFormat := .human
  precision : Option Int := none
  version : Bool := false
  logLevel : Option String := none
  logFile : Option String := none
  healthCheck : Bool := false
deriving DecidableEq, Repr

/-- Why arguments give no options. -/
inductive Refusal where
  | usage
  | helpWanted
deriving DecidableEq, Repr

/-- An argument by itself. What is attached to an option stands after an equals sign or follows its
letter directly. -/
inductive Argument where
  | value (text : String)
  | separator
  | option (switch : Switch) (long : Bool) (attached : Option (List Char))
  | unknown

namespace Argument

/-- A minus sign and decimal digits, with a point before the last of them or none. -/
def looksNegative (text : List Char) : Bool :=
  match text with
  | '-' :: rest =>
      let body := if rest.getLast? = some '\n' then rest.dropLast else rest
      let whole := body.takeWhile Text.isDecimalDigit
      match body.dropWhile Text.isDecimalDigit with
      | [] => !whole.isEmpty
      | '.' :: places => !places.isEmpty && places.all Text.isDecimalDigit
      | _ => false
  | _ => false

/-- Text before and after the first equals sign, if there is one. -/
def splitEquals? (text : List Char) : Option (List Char × List Char) :=
  match text.dropWhile (· != '=') with
  | [] => none
  | _ :: after => some (text.takeWhile (· != '='), after)

/-- The options a shortened long option may mean. -/
def longMatches (text : List Char) : List Argument :=
  let stem := text.takeWhile (· != '=')
  let attached := (splitEquals? text).map Prod.snd
  (Switch.spellings.filter fun spelling => stem.isPrefixOf spelling.1.toList).map
    fun spelling => .option spelling.2 true attached

/-- The options that text beginning with a single dash may mean. -/
def shortMatches (text : List Char) : List Argument :=
  match Switch.ofSpelling? (text.take 2) with
  | some switch => [.option switch false (some (text.drop 2))]
  | none => []

def matchesOf (text : List Char) : List Argument :=
  if (text.drop 1).head? = some '-' then longMatches text else shortMatches text

/-- An option that is written out, with what stands after an equals sign. -/
def ofStem? (text : List Char) : Option Argument :=
  match splitEquals? text with
  | some (stem, after) =>
      (Switch.ofSpelling? stem).map fun switch =>
        .option switch ((stem.drop 1).head? = some '-') (some after)
  | none => none

/-- What an argument is when it begins with a dash and does not spell an option. -/
def ofDashed (text : List Char) : Except Refusal Argument :=
  match ofStem? text with
  | some argument => .ok argument
  | none =>
      match matchesOf text with
      | [argument] => .ok argument
      | [] =>
          if looksNegative text || text.contains ' ' then .ok (.value (String.ofList text))
          else .ok .unknown
      | _ => .error .usage

/-- What an argument is, whatever stands around it. -/
def ofText (text : String) : Except Refusal Argument :=
  let characters := text.toList
  if characters.head? ≠ some '-' then .ok (.value text)
  else
    match Switch.ofSpelling? characters with
    | some switch => .ok (.option switch ((characters.drop 1).head? = some '-') none)
    | none => if characters.length = 1 then .ok (.value text) else ofDashed characters

/-- All arguments; a double dash makes values of everything after it. -/
def ofTexts : List String → Except Refusal (List Argument)
  | [] => .ok []
  | text :: rest =>
      if text = "--" then .ok (.separator :: rest.map .value)
      else do
        let argument ← ofText text
        let arguments ← ofTexts rest
        pure (argument :: arguments)

end Argument

/-- Joined short options taken apart: options without values, and the one that ends the cluster
with its value if that is attached. -/
structure Cluster where
  flags : List Switch
  last : Switch
  value : Option String

namespace Cluster

/-- Takes apart what is attached to `switch`: its value, or more letters of short options. -/
def ofAttached (switch : Switch) (long : Bool) : List Char → Except Refusal Cluster
  | [] =>
      if switch.takesValue then .ok { flags := [], last := switch, value := some "" }
      else .error .usage
  | char :: rest =>
      if switch.takesValue then
        .ok { flags := [], last := switch, value := some (String.ofList (char :: rest)) }
      else if long then .error .usage
      else
        match Switch.ofSpelling? ['-', char] with
        | none => .error .usage
        | some next =>
            match rest with
            | [] => .ok { flags := [switch], last := next, value := none }
            | letter :: later => do
                let cluster ← ofAttached next false (letter :: later)
                pure { cluster with flags := switch :: cluster.flags }

def ofOption (switch : Switch) (long : Bool) : Option (List Char) → Except Refusal Cluster
  | none => .ok { flags := [], last := switch, value := none }
  | some attached => ofAttached switch long attached

/-- Whether the value of the last option has to be the next argument. -/
def lacksValue (cluster : Cluster) : Bool :=
  cluster.last.takesValue && cluster.value.isNone

end Cluster

namespace Options

def readNumber (text : String) : Except Refusal Int :=
  match Text.WholeNumber.read text.toList with
  | some number => .ok number
  | none => .error .usage

def logLevels : List String := ["DEBUG", "INFO", "WARNING", "ERROR"]

/-- Records an option that takes no value. -/
def setFlag (options : Options) : Switch → Except Refusal Options
  | .help => .error .helpWanted
  | .version => .ok { options with version := true }
  | .healthCheck => .ok { options with healthCheck := true }
  | _ => .error .usage

/-- Records an option that was given without the value it takes. But for expressions and bases it is
as if it had never been given. -/
def setMissing (options : Options) : Switch → Except Refusal Options
  | .expression => .ok { options with expressions := options.expressions ++ [none] }
  | .inputBase => .ok { options with inputBase := .missing }
  | .outputBase => .ok { options with outputBase := .missing }
  | .precision => .ok { options with precision := none }
  | .format => .ok { options with format := .human }
  | .logLevel => .ok { options with logLevel := none }
  | .logFile => .ok { options with logFile := none }
  | .help | .version | .healthCheck => .error .usage

/-- Records an option with its value. -/
def setPresent (options : Options) (text : String) : Switch → Except Refusal Options
  | .expression => .ok { options with expressions := options.expressions ++ [some text] }
  | .inputBase => do
      let base ← readNumber text
      pure { options with inputBase := .number base }
  | .outputBase => do
      let base ← readNumber text
      pure { options with outputBase := .number base }
  | .precision => do
      let digits ← readNumber text
      pure { options with precision := some digits }
  | .format =>
      match AnswerFormat.ofName? text with
      | some format => .ok { options with format }
      | none => .error .usage
  | .logLevel =>
      if logLevels.contains text then .ok { options with logLevel := some text }
      else .error .usage
  | .logFile => .ok { options with logFile := some text }
  | .help | .version | .healthCheck => .error .usage

/-- Records an option with the text in the place of its value. -/
def setValue (dash : AttachedDash) (options : Options) (text : String) (switch : Switch) :
    Except Refusal Options :=
  match dash.handsOver text with
  | some value => options.setPresent value switch
  | none => options.setMissing switch

/-- Records the options of a cluster in order; `value` is that of the last one. -/
def setCluster (dash : AttachedDash) (options : Options) (cluster : Cluster)
    (value : Option String) : Except Refusal Options := do
  let flagged ← cluster.flags.foldlM setFlag options
  match value with
  | some text => flagged.setValue dash text cluster.last
  | none => flagged.setFlag cluster.last

/-- Goes through the arguments; `stray` tells whether one was met that belongs to no option, which
is only refused after all options have been taken. -/
def collect (dash : AttachedDash) (options : Options) (stray : Bool) :
    List Argument → Except Refusal Options
  | [] => if stray then .error .usage else .ok options
  | .value _ :: rest => collect dash options true rest
  | .separator :: rest => collect dash options true rest
  | .unknown :: rest => collect dash options true rest
  | .option switch long attached :: rest => do
      let cluster ← Cluster.ofOption switch long attached
      if cluster.lacksValue then
        match rest with
        | .value text :: later => do
            let next ← options.setCluster dash cluster (some text)
            collect dash next stray later
        | _ => .error .usage
      else do
        let next ← options.setCluster dash cluster cluster.value
        collect dash next stray rest

def ofArguments (dash : AttachedDash) (arguments : List String) : Except Refusal Options := do
  let classified ← Argument.ofTexts arguments
  collect dash {} false classified

end Options

end RadixCalc.CommandLine
