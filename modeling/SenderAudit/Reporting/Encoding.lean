import SenderAudit.Audit
import SenderAudit.Json.Value

/-!
Reports as JSON. Every field of a structure is present, with null for a value that is not
known, and findings are written out in words.
-/
namespace SenderAudit

def DomainName.toJson (name : DomainName) : Json :=
  .text name.text

namespace Spf

def Qualifier.toJson (q : Qualifier) : Json :=
  .text q.allTerm

def Record.toJson (r : Record) : Json :=
  .object [
    ("all", .ofOption Qualifier.toJson r.all),
    ("ip4", .ofTexts r.ip4),
    ("ip6", .ofTexts r.ip6),
    ("a", .array (r.a.map DomainName.toJson)),
    ("mx", .array (r.mx.map DomainName.toJson)),
    ("include", .array (r.includes.map DomainName.toJson)),
    ("exists", .array (r.existing.map DomainName.toJson)),
    ("redirect", .ofOption DomainName.toJson r.redirect),
    ("exp", .ofOption DomainName.toJson r.exp),
    ("modifiers", .object (r.modifiers.map fun (name, value) => (name, .text value)))]

mutual

def Outcome.toJson : Outcome → Json
  | ⟨domain, valid, record, parsed, effective, includes, redirect, lookups, problems, warnings⟩ =>
      .object [
        ("domain", .text domain),
        ("valid", .bool valid),
        ("record", .ofOption .text record),
        ("parsed", .ofOption Record.toJson parsed),
        ("allMechanisms", .array (effective.toList.map Qualifier.toJson)),
        ("includes", .array (includesToJson includes)),
        ("redirect", redirectToJson redirect),
        ("dnsLookupCount", .ofNat lookups),
        ("errors", .ofTexts (problems.map (·.message Problem.message))),
        ("warnings", .ofTexts (warnings.map (·.message Warning.message)))]

def includesToJson : List Outcome → List Json
  | [] => []
  | o :: rest => o.toJson :: includesToJson rest

def redirectToJson : Option Outcome → Json
  | none => .null
  | some o => o.toJson

end

end Spf

def Dkim.Outcome.toJson (o : Dkim.Outcome) : Json :=
  .object [
    ("selector", .text o.selector),
    ("domain", .text o.domain),
    ("valid", .bool o.valid),
    ("record", .ofOption .text o.record),
    ("error", .ofOption (fun p => .text p.message) o.problem),
    ("keyType", .ofOption .text o.keyType),
    ("keyBits", .ofOption .ofNat o.keyBits),
    ("testing", .bool o.testing)]

def Dmarc.Outcome.toJson (o : Dmarc.Outcome) : Json :=
  .object [
    ("domain", .text o.domain),
    ("valid", .bool o.valid),
    ("record", .ofOption .text o.record),
    ("policy", .ofOption (fun p => .text p.word) o.policy),
    ("error", .ofOption (fun p => .text p.message) o.problem),
    ("subdomainPolicy", .ofOption (fun p => .text p.word) o.subdomainPolicy),
    ("percentage", .ofOption .ofNat o.percentage),
    ("rua", .ofTexts o.rua),
    ("ruf", .ofTexts o.ruf),
    ("dkimAlignment", .ofOption (fun a => .text a.word) o.dkimAlignment),
    ("spfAlignment", .ofOption (fun a => .text a.word) o.spfAlignment),
    ("warnings", .ofTexts (o.warnings.map (·.message)))]

namespace Scorecard

def perCategory (form : Category → Json) : Json :=
  .object (Category.all.map fun c => (c.name, form c))

def Evidence.scoreToJson (e : Evidence) : Json :=
  .object [
    ("total", .number e.total),
    ("spf", .number (e.score .spf)),
    ("dkim", .number (e.score .dkim)),
    ("dmarc", .number (e.score .dmarc)),
    ("details", .object (e.details.map fun (key, points) => (key, .number points))),
    ("reasons", perCategory fun c => .text (e.reason c)),
    ("recommendations", perCategory fun c => .text (e.recommendation c))]

end Scorecard

def Report.toJson (r : Report) : Json :=
  .object [
    ("domain", r.domain.toJson),
    ("spf", r.spf.toJson),
    ("dkim", .array (r.dkim.map (·.toJson))),
    ("dmarc", r.dmarc.toJson),
    ("score", r.evidence.scoreToJson)]

end SenderAudit
