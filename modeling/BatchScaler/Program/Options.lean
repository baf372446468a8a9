import BatchScaler.Text.DecimalDigit

namespace BatchScaler

inductive OptionName
  | logLevel
  | logCategories
  | settings
  deriving DecidableEq, Repr

inductive OptionValue
  | absent
  /-- The option was given `--` for a value, as in `--settings=--`. Older option parsers drop such a
  value, and so does this one; newer ones keep it as a text. -/
  | blank
  | text (value : String)
  deriving DecidableEq, Repr

def OptionValue.nonempty? : OptionValue → Option String
  | text value => if value = "" then none else some value
  | _ => none

structure Options where
  logLevel : OptionValue := .absent
  logCategories : OptionValue := .absent
  settings : OptionValue := .absent
  deriving DecidableEq, Repr

namespace OptionName

def flag : OptionName → String
  | logLevel => "--log-level"
  | logCategories => "--log-cats"
  | settings => "--settings"

def all : List OptionName :=
  [logLevel, logCategories, settings]

def ofFlag? (arg : String) : Option OptionName :=
  all.find? (·.flag == arg)

def inline? (arg : String) : Option (OptionName × String) :=
  match arg.toList.dropWhile (· != '=') with
  | _ :: value =>
    (ofFlag? (String.ofList (arg.toList.takeWhile (· != '=')))).map fun name =>
      (name, String.ofList value)
  | [] => none

end OptionName

namespace Options

def set (o : Options) (name : OptionName) (value : OptionValue) : Options :=
  match name with
  | .logLevel => { o with logLevel := value }
  | .logCategories => { o with logCategories := value }
  | .settings => { o with settings := value }

/-- Whether a text is a negative number: a minus with digits, perhaps after a point. A line feed may
follow. -/
def isNegativeNumber (cs : List Char) : Bool :=
  let isDigit (c : Char) : Bool := (Text.decimalDigit? c).isSome
  let isEnd (rest : List Char) : Bool := rest == [] || rest == ['\n']
  match cs with
  | '-' :: body =>
    let whole := body.takeWhile isDigit
    match body.dropWhile isDigit with
    | '.' :: fraction =>
      !(fraction.takeWhile isDigit).isEmpty && isEnd (fraction.dropWhile isDigit)
    | rest => !whole.isEmpty && isEnd rest
  | _ => false

def looksLikeOption (arg : String) : Bool :=
  arg.toList.head? == some '-' && arg != "-" &&
    ((OptionName.ofFlag? arg).isSome || (OptionName.inline? arg).isSome ||
      !(isNegativeNumber arg.toList || arg.toList.contains ' '))

/-- Takes the options out of a command line. The result is the option that lacks a value, or the
options with the arguments that are left. -/
def splitFrom (o : Options) : List String → Except OptionName (Options × List String)
  | [] => .ok (o, [])
  | arg :: rest =>
    if arg = "--" then .ok (o, arg :: rest)
    else
      match OptionName.ofFlag? arg, OptionName.inline? arg with
      | some name, _ =>
        match rest with
        | value :: rest =>
          if looksLikeOption value then .error name
          else splitFrom (o.set name (.text value)) rest
        | [] => .error name
      | none, some (name, value) =>
        splitFrom (o.set name (if value = "--" then .blank else .text value)) rest
      | none, none =>
        (splitFrom o rest).map fun (o, words) => (o, arg :: words)

def split (args : List String) : Except OptionName (Options × List String) :=
  splitFrom {} args

def usageError (name : OptionName) : String :=
  "usage: image-resizer [--log-level LOG_LEVEL] [--log-cats LOG_CATS]\n" ++
    "                     [--settings SETTINGS]\n" ++
    "image-resizer: error: argument " ++ name.flag ++ ": expected one argument\n"

end Options

end BatchScaler
