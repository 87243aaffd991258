import SenderAudit.Audit
import SenderAudit.Doh.Client

/-!
The options of the command line. Arguments are read from left to right, and the first one
that decides what to do ends the reading: one that asks for help or for the version, or one
that cannot be understood.
-/
namespace SenderAudit.CommandLine

inductive Setting where
  | out
  | format
  | selector
  | endpoint
  | timeout
  deriving DecidableEq, Repr

inductive Flag where
  | stdin
  | help
  | version
  deriving DecidableEq, Repr

def longOptions : List (String × (Setting ⊕ Flag)) := [
  ("out", .inl .out), ("format", .inl .format), ("dkim-selector", .inl .selector),
  ("doh-endpoint", .inl .endpoint), ("timeout-ms", .inl .timeout), ("stdin", .inr .stdin),
  ("help", .inr .help), ("version", .inr .version)]

/-- What the arguments say; an option that is not given says nothing. -/
structure Options where
  domains : List String := []
  stdin : Bool := false
  out : Option String := none
  format : Option String := none
  selectors : List String := []
  endpoint : Option String := none
  timeoutMs : Option Nat := none
  deriving DecidableEq, Repr

def commonSelectors : List String :=
  ["default", "google", "selector1", "selector2", "k1", "s1", "s2", "dkim", "mail"]

namespace Options

def formatName (o : Options) : String :=
  o.format.getD "human"

def client (o : Options) : Doh.Client :=
  let base : Doh.Client := {}
  { base with
    endpoint := o.endpoint.getD base.endpoint
    timeoutMs := o.timeoutMs.getD base.timeoutMs }

def auditOptions (o : Options) : AuditOptions :=
  { selectors := addSelectors [] (if o.selectors.isEmpty then commonSelectors else o.selectors) }

/-- Gives an option its value. Only selectors can be given more than once. -/
def set? (o : Options) (value : String) : Setting → Option Options
  | .out => if o.out.isSome then none else some { o with out := some value }
  | .format => if o.format.isSome then none else some { o with format := some value }
  | .selector => some { o with selectors := o.selectors ++ [value] }
  | .endpoint => if o.endpoint.isSome then none else some { o with endpoint := some value }
  | .timeout =>
      if o.timeoutMs.isSome then none
      else (Text.decimal? (UInt64.size - 1) value.toList).map fun n => { o with timeoutMs := some n }

end Options

/-- What one argument is: the end of the options, a value, a group of short options, or a
long option with what stands after its equals sign. -/
inductive Argument where
  | endOfOptions
  | value (text : String)
  | short (letters : List Char)
  | long (name : String) (attached : Option String)
  deriving DecidableEq, Repr

def Argument.read (arg : String) : Argument :=
  match arg.toList with
  | ['-', '-'] => .endOfOptions
  | '-' :: '-' :: body => match Text.cut '=' body with
    | some (name, attached) => .long (String.ofList name) (some (String.ofList attached))
    | none => .long (String.ofList body) none
  | '-' :: c :: rest => .short (c :: rest)
  | _ => .value arg

inductive Command where
  | check (options : Options)
  | help
  | version
  | misuse
  deriving DecidableEq, Repr

/-- A group of short options does what its first letter says. -/
def shortCommand : List Char → Command
  | 'h' :: _ => .help
  | 'V' :: _ => .version
  | _ => .misuse

def readArguments (o : Options) : List String → Command
  | [] => .check o
  | arg :: rest =>
      match Argument.read arg with
      | .endOfOptions => .check { o with domains := o.domains ++ rest }
      | .value text => readArguments { o with domains := o.domains ++ [text] } rest
      | .short letters => shortCommand letters
      | .long name attached =>
          match longOptions.lookup name, attached, rest with
          | some (.inl setting), some value, rest => match o.set? value setting with
            | some o => readArguments o rest
            | none => .misuse
          | some (.inl setting), none, value :: rest =>
              match Argument.read value, o.set? value setting with
              | .value _, some o => readArguments o rest
              | _, _ => .misuse
          | some (.inr .stdin), none, rest =>
              if o.stdin then .misuse else readArguments { o with stdin := true } rest
          | some (.inr .help), none, _ => .help
          | some (.inr .version), none, _ => .version
          | _, _, _ => .misuse

def Command.ofArguments (args : List String) : Command :=
  readArguments {} args

/-- The domains in the lines of a text: blanks around them do not count, and a number sign
begins a comment. -/
def domainLines (text : List Char) : List String :=
  (((Text.fields '\n' text).map Text.trim).filter fun line =>
    !line.isEmpty && line.head? != some '#').map String.ofList

end SenderAudit.CommandLine
