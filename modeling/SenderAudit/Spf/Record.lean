import SenderAudit.DomainName
import SenderAudit.Spf.Qualifier

/-!
Records of sender policy. The targets of a record are names in canonical form, in the
order in which they stand in it.
-/
namespace SenderAudit.Spf

/-- The contents of a record; `existing` holds the targets of `exists`, and modifiers
without a meaning here are kept by name, in ascending order. -/
structure Record where
  all : Option Qualifier := none
  ip4 : List String := []
  ip6 : List String := []
  a : List DomainName := []
  mx : List DomainName := []
  includes : List DomainName := []
  existing : List DomainName := []
  redirect : Option DomainName := none
  exp : Option DomainName := none
  modifiers : List (String × String) := []
  deriving DecidableEq, Repr

inductive Mechanism where
  | all
  | ip4
  | ip6
  | a
  | mx
  | included
  | existing
  | ptr
  deriving DecidableEq, Repr

namespace Mechanism

def name : Mechanism → String
  | .all => "all"
  | .ip4 => "ip4"
  | .ip6 => "ip6"
  | .a => "a"
  | .mx => "mx"
  | .included => "include"
  | .existing => "exists"
  | .ptr => "ptr"

def every : List Mechanism := [.all, .ip4, .ip6, .a, .mx, .included, .existing, .ptr]

def ofName? (s : List Char) : Option Mechanism :=
  every.find? fun m => m.name.toList == Text.lower s

end Mechanism

inductive ParseError where
  | invalidVersion (found : String)
  | unknownMechanism (term : String)
  | missingValue (term : String)
  | duplicateModifier (name : String)
  deriving DecidableEq, Repr

def ParseError.message : ParseError → String
  | .invalidVersion found => s!"record must start with 'v=spf1' (found '{found}')"
  | .unknownMechanism term => s!"unknown mechanism '{term}'"
  | .missingValue term => s!"mechanism '{term}' requires a value"
  | .duplicateModifier name => s!"modifier '{name}' appears more than once"

/-- What is wrong with a record without making it unusable. -/
inductive Warning where
  | badRedirect (value : String)
  | badExp (value : String)
  | extraAll (term : String)
  | unqualifiedAll (term : String)
  | badNetwork (mechanism : Mechanism) (value : String)
  | badTarget (mechanism : Mechanism) (value : String)
  | deprecatedPtr
  | passesAll
  | assertsNothing
  | redirectIgnored
  deriving DecidableEq, Repr

def Warning.message : Warning → String
  | .badRedirect value => s!"omitting redirect with invalid target '{value}'"
  | .badExp value => s!"dropping exp with invalid target '{value}'"
  | .extraAll term => s!"ignoring extra '{term}' mechanism"
  | .unqualifiedAll term => s!"ignoring '{term}': expected one of +all, -all, ~all, ?all"
  | .badNetwork mechanism value => s!"dropping {mechanism.name} with invalid network '{value}'"
  | .badTarget mechanism value =>
      let verb := if mechanism = .included then "omitting" else "dropping"
      s!"{verb} {mechanism.name} with invalid target '{value}'"
  | .deprecatedPtr => "ptr mechanism is deprecated (RFC 7208 §5.5)"
  | .passesAll => "+all authorizes every host on the internet"
  | .assertsNothing => "?all asserts nothing about unlisted hosts"
  | .redirectIgnored => "redirect is ignored by receivers when 'all' is present"

end SenderAudit.Spf
