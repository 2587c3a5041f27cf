import RouterTelemetry.Environment.Basic
import RouterTelemetry.Settings.Basic

/-!
# The command line

Arguments override settings.  An option is given once, in its long form or, if it
has one, in its short form; short forms may be joined, and the value of an option
is attached to it or is the next argument.  Some options have a variable that
stands in for them.
-/

namespace RouterTelemetry.Startup

/-- An option with a value. -/
inductive Override where
  /-- The file that settings are loaded from. -/
  | document
  | endpoint
  | password
  | port
  | address
  | metricsPath
deriving Repr, DecidableEq

namespace Override

/-- Every option with a value. -/
def all : List Override :=
  [.document, .endpoint, .password, .port, .address, .metricsPath]

/-- The long form of an option. -/
def long : Override → String
  | .document => "config"
  | .endpoint => "bbox"
  | .password => "password"
  | .port => "port"
  | .address => "addr"
  | .metricsPath => "metrics-path"

/-- The short form of an option. -/
def short? : Override → Option Char
  | .document => some 'c'
  | .port => some 'p'
  | .address => some 'a'
  | _ => none

/-- The variable that stands in for an option. -/
def standIn? : Override → Option String
  | .endpoint => some "BBOX_ENDPOINT"
  | .password => some "BBOX_PASSWORD"
  | .port => some "EXPORTER_PORT"
  | .address => some "EXPORTER_ADDR"
  | _ => none

end Override

/-- The number that a port is given as; a sign may precede it. -/
def portOfText? (text : String) : Option UInt16 :=
  let (negative, digits) := match text.toList with
    | '-' :: cs => (true, cs)
    | '+' :: cs => (false, cs)
    | cs => (false, cs)
  if digits.isEmpty || !digits.all Char.isDigit then
    none
  else
    let n := digits.foldl (fun total digit => 10 * total + (digit.toNat - '0'.toNat)) 0
    if n < 0x10000 ∧ (negative → n = 0) then some n.toUInt16 else none

/-! ## Arguments -/

/-- What the arguments have said so far. -/
structure Given where
  values : List (Override × String) := []
  debug : Bool := false
deriving Repr, DecidableEq

/-- The value of an option. -/
def Given.value? (given : Given) (override : Override) : Option String :=
  given.values.lookup override

/-- The value may be given to the option. -/
def Override.accepts (override : Override) (value : String) : Bool :=
  override ≠ .port || (portOfText? value).isSome

/-- Gives an option its value, unless it has one. -/
def Given.set? (given : Given) (override : Override) (value : String) : Option Given :=
  match given.value? override with
  | some _ => none
  | none =>
      if override.accepts value then
        some { given with values := given.values ++ [(override, value)] }
      else
        none

/-- Asks for the log of a developer, unless it has been asked for. -/
def Given.setDebug? (given : Given) : Option Given :=
  if given.debug then none else some { given with debug := true }

/-- What an argument leads to. -/
inductive Progress where
  | next (given : Given)
  /-- The next argument has to be the value of an option. -/
  | wanting (override : Override) (given : Given)
  /-- The program only tells about itself. -/
  | about
deriving Repr, DecidableEq

/-- Takes an argument in its long form, without the dashes. -/
def takeLong? (name : String) (value? : Option String) (given : Given) : Option Progress :=
  match name, value? with
  | "debug", none => given.setDebug?.map .next
  | "help", none => some .about
  | "version", none => some .about
  | name, value? =>
      match Override.all.find? (·.long == name), value? with
      | none, _ => none
      | some override, none => some (.wanting override given)
      | some override, some value => (given.set? override value).map .next

/-- The value attached to a short form; an equals sign may precede it. -/
def attachedValue : List Char → String
  | '=' :: cs => String.ofList cs
  | cs => String.ofList cs

/-- Takes joined short forms. -/
def takeShort? : List Char → Given → Option Progress
  | [], given => some (.next given)
  | c :: cs, given =>
      if c = 'd' then
        match given.setDebug? with
        | some given => takeShort? cs given
        | none => none
      else if c = 'h' ∨ c = 'V' then
        some .about
      else
        match Override.all.find? (·.short? == some c), cs with
        | none, _ => none
        | some override, [] => some (.wanting override given)
        | some override, cs => (given.set? override (attachedValue cs)).map .next

/-- The form of an argument. -/
inductive Form where
  | long (name : String) (value? : Option String)
  | short (letters : List Char)
  /-- Ends the options. -/
  | ending
  | plain
deriving Repr, DecidableEq

/-- The form that an argument has. -/
def formOf (argument : String) : Form :=
  match argument.toList with
  | ['-', '-'] => .ending
  | '-' :: '-' :: cs =>
      let name := String.ofList (cs.takeWhile (· ≠ '='))
      match cs.dropWhile (· ≠ '=') with
      | [] => .long name none
      | _ :: value => .long name (some (String.ofList value))
  | '-' :: c :: cs => .short (c :: cs)
  | _ => .plain

/-- Takes one argument; only the last one ends the options. -/
def takeOne? (argument : String) (last : Bool) (given : Given) : Option Progress :=
  match formOf argument with
  | .long name value? => takeLong? name value? given
  | .short letters => takeShort? letters given
  | .ending => if last then some (.next given) else none
  | .plain => none

/-- Takes the arguments one after the other; `some none` stands for a program that
only tells about itself. -/
def takeAll? (given : Given) : List String → Option (Option Given)
  | [] => some (some given)
  | argument :: rest =>
      match takeOne? argument rest.isEmpty given with
      | none => none
      | some .about => some none
      | some (.next given) => takeAll? given rest
      | some (.wanting override given) =>
          match rest with
          | [] => none
          | value :: rest =>
              if formOf value = .plain then
                match given.set? override value with
                | none => none
                | some given => takeAll? given rest
              else
                none

/-! ## Options -/

/-- Gives an option the value of its variable, unless it has one. -/
def Given.fill? (environment : Environment) (given : Given) (override : Override) :
    Option Given :=
  match given.value? override, override.standIn?.bind environment.value? with
  | none, some value => given.set? override value
  | _, _ => some given

/-- What the arguments and the variables that stand in for them say. -/
structure Options where
  document : String := "config/Default.toml"
  endpoint : Option String := none
  password : Option String := none
  port : Option UInt16 := none
  address : Option String := none
  metricsPath : Option String := none
  debug : Bool := false
deriving Repr, DecidableEq

/-- The options that were given. -/
def Given.options (given : Given) : Options :=
  let default : Options := {}
  { document := (given.value? .document).getD default.document
    endpoint := given.value? .endpoint
    password := given.value? .password
    port := (given.value? .port).bind portOfText?
    address := given.value? .address
    metricsPath := given.value? .metricsPath
    debug := given.debug }

/-- What a command line asks for. -/
inductive Command where
  | run (options : Options)
  /-- Tells about the program. -/
  | about
  /-- No command line of this program. -/
  | misuse
deriving Repr, DecidableEq

/-- Reads a command line. -/
def Command.parse (arguments : List String) (environment : Environment) : Command :=
  match takeAll? {} arguments with
  | none => .misuse
  | some none => .about
  | some (some given) =>
      match Override.all.foldlM (Given.fill? environment) given with
      | none => .misuse
      | some given => .run given.options

/-- The name of the document that a command loads. -/
def Command.documentName : Command → String
  | .run options => options.document
  | _ => ""

/-- The settings with what the options override. -/
def Options.override (options : Options) (settings : Settings) : Settings :=
  { router := { settings.router with
      endpoint := options.endpoint.getD settings.router.endpoint
      password := options.password.getD settings.router.password }
    site := {
      address := options.address.getD settings.site.address
      port := options.port.getD settings.site.port
      metricsPath := options.metricsPath.getD settings.site.metricsPath } }

end RouterTelemetry.Startup
