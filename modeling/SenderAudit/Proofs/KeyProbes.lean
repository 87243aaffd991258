import SenderAudit.Proofs.AuditLookups
import SenderAudit.Proofs.LookupPoints
import SenderAudit.Proofs.StoredSelectors

/-!
How often an audit probes one key. Stored selectors differ, but a probe drops the blanks
around a selector once more: two of them are probed as one if they differ only in blanks that
stood before final dots.
-/
namespace SenderAudit

namespace Dkim

def PublishesKey (resolver : Resolver) (name : DomainName) : Prop :=
  ∃ answers record, (resolver name).texts = .ok answers ∧ findRecord? answers = some record ∧
    (KeyTags.read record.toList).publicKey ≠ []

theorem assess_valid (o : Outcome) (name : DomainName)
    (answer : Except LookupFailure (List String)) :
    (assess o name answer).valid = true ↔
      ∃ answers record, answer = .ok answers ∧ findRecord? answers = some record ∧
        (KeyTags.read record.toList).publicKey ≠ [] := by
  cases answer with
  | error failure => simp [assess, Outcome.fail]
  | ok answers =>
      cases found : findRecord? answers with
      | none => simp [assess, found, Outcome.fail]
      | some record =>
          by_cases keyless : (KeyTags.read record.toList).publicKey = []
          · simp [assess, found, assessRecord, keyless, Outcome.fail]
          · simp [assess, found, assessRecord, keyless]

theorem probe_valid (resolver : Resolver) (domain selector : String) :
    (probe resolver domain selector).1.valid = true ↔
      ∃ key, (probe resolver domain selector).2 = some key ∧ PublishesKey resolver key := by
  unfold probe
  dsimp only
  split
  · simp [Outcome.fail]
  · split
    · simp [Outcome.fail]
    · rename_i key _
      rw [assess_valid]
      simp [PublishesKey]

theorem countP_valid_le (resolver : Resolver) (domain : String) (selectors : List String)
    (key : DomainName)
    (only : ∀ other ∈ (probeAll resolver domain selectors).2,
      PublishesKey resolver other → other = key) :
    (probeAll resolver domain selectors).1.countP (·.valid) ≤
      (probeAll resolver domain selectors).2.count key := by
  rw [probeAll, List.countP_map, List.count_filterMap]
  apply List.countP_mono_left
  intro made isProbe valid
  obtain ⟨selector, given, rfl⟩ := List.mem_map.mp isProbe
  obtain ⟨found, asked, published⟩ := (probe_valid resolver domain selector).mp valid
  have inNames : found ∈ (probeAll resolver domain selectors).2 :=
    List.mem_filterMap.mpr ⟨_, isProbe, asked⟩
  rw [asked, only found inNames published]
  exact beq_self_eq_true _

/-- Selectors in lower case have one key's name only if they differ in blanks around them. -/
theorem trim_eq_of_keyText (name : DomainName) (s t text : String)
    (low : ∀ c ∈ s.toList, c.toLower = c) (low' : ∀ c ∈ t.toList, c.toLower = c)
    (ofFirst : keyText? name s = some text) (ofSecond : keyText? name t = some text) :
    Text.trim s.toList = Text.trim t.toList := by
  have first := ((keyText_eq_some name s text).mp ofFirst).2
  have second := ((keyText_eq_some name t text).mp ofSecond).2
  have spelled := congrArg String.toList (first.symm.trans second)
  simp only [String.toList_append, String.toList_ofList, List.append_cancel_right_eq] at spelled
  rwa [Text.lower_eq_self _ fun c inside => low c (Text.mem_of_mem_trim _ c inside),
    Text.lower_eq_self _ fun c inside => low' c (Text.mem_of_mem_trim _ c inside)] at spelled

theorem names_nodup (resolver : Resolver) (name : DomainName) (selectors : List String) :
    (probeAll resolver name.text selectors).2.Nodup ↔
      (selectors.filterMap (keyText? name)).Nodup := by
  rw [← probeAll_texts resolver, List.nodup_map_iff DomainName.text_injective]

end Dkim

/-- No two normal forms of the selectors are apart in blanks around them only, if they have a
key's name. -/
def ProbedApart (name : DomainName) (selectors : List String) : Prop :=
  ∀ first ∈ selectors, ∀ second ∈ selectors, ∀ s t,
    normalSelector? first = some s → normalSelector? second = some t →
    Dkim.NamesKey name (Text.trim s.toList) → Text.trim s.toList = Text.trim t.toList → s = t

theorem probedApart_of_solid (name : DomainName) (selectors : List String)
    (solid : ∀ selector ∈ selectors, ∀ s, normalSelector? selector = some s →
      Text.trim s.toList = s.toList) : ProbedApart name selectors := by
  intro first isFirst second isSecond s t form form' _ same
  rw [solid first isFirst s form, solid second isSecond t form'] at same
  exact String.toList_inj.mp same

theorem keyTexts_nodup (name : DomainName) (calls : List SelectorCall) :
    ((storedSelectors calls).filterMap (Dkim.keyText? name)).Nodup ↔
      ProbedApart name (givenSelectors calls) := by
  have pairs : ((storedSelectors calls).filterMap (Dkim.keyText? name)).Nodup ↔
      (storedSelectors calls).Pairwise fun s t => ∀ text, Dkim.keyText? name s = some text →
        ∀ text', Dkim.keyText? name t = some text' → text ≠ text' := List.pairwise_filterMap
  rw [pairs]
  constructor
  · intro distinct first isFirst second isSecond s t ofFirst ofSecond names same
    have stored := (mem_storedSelectors calls s).mpr ⟨first, isFirst, ofFirst⟩
    have stored' := (mem_storedSelectors calls t).mpr ⟨second, isSecond, ofSecond⟩
    have made := (Dkim.keyText_eq_some name s _).mpr ⟨names, rfl⟩
    have made' := (Dkim.keyText_eq_some name t _).mpr ⟨same ▸ names, rfl⟩
    by_contra differ
    have symmetric : Std.Symm fun s t => ∀ text, Dkim.keyText? name s = some text →
        ∀ text', Dkim.keyText? name t = some text' → text ≠ text' :=
      ⟨fun _ _ unequal text ofText text' ofText' => (unequal text' ofText' text ofText).symm⟩
    apply distinct.forall stored stored' differ _ made _ made'
    rw [same]
  · intro apart
    apply (storedSelectors_nodup calls).pairwise_of_forall_ne
    rintro s stored t stored' differ text ofFirst _ ofSecond rfl
    obtain ⟨first, isFirst, form⟩ := (mem_storedSelectors calls s).mp stored
    obtain ⟨second, isSecond, form'⟩ := (mem_storedSelectors calls t).mp stored'
    apply differ
    apply apart first isFirst second isSecond s t form form'
    · exact ((Dkim.keyText_eq_some name s text).mp ofFirst).1
    · exact Dkim.trim_eq_of_keyText name s t text (normalSelector_lower first s form)
        (normalSelector_lower second t form') ofFirst ofSecond

namespace Scorecard.Evidence

theorem points_severalKeys (e : Evidence) (atMostOne : e.dkim.countP (·.valid) ≤ 1) :
    e.points .severalKeys = 0 := by
  rw [List.countP_eq_length_filter] at atMostOne
  have few : ¬ 2 ≤ e.validKeys.length := by
    rw [validKeys]
    omega
  rw [points, award, if_neg]
  simpa using few

end Scorecard.Evidence

/-- The names of keys that an audit looks up are distinct exactly if no two of the selectors
given are stored apart and probed as one. Then a key at a single name makes one outcome valid
at most, and earns no points for several. -/
theorem audit_probes_keys_once (resolver : Resolver) (domain : String) (name : DomainName)
    (isName : DomainName.parse domain = .ok name) (limits : Spf.Limits)
    (calls : List SelectorCall) :
    ∃ report keys, audit resolver domain { selectors := storedSelectors calls, limits } =
        .ok (report, (Spf.evaluate resolver limits name.text).2.queried ++ keys ++
          (Dmarc.check resolver name.text).2.toList) ∧
      keys = (Dkim.probeAll resolver name.text (storedSelectors calls)).2 ∧
      (keys.Nodup ↔ ProbedApart name (givenSelectors calls)) ∧
      (keys.Nodup → ∀ key, (∀ other ∈ keys, Dkim.PublishesKey resolver other → other = key) →
        report.dkim.countP (·.valid) ≤ 1 ∧
          report.evidence.details.lookup "dkim.multiple_selectors" = some 0) := by
  obtain ⟨report, run, outcomes, facts⟩ := audit_of_name resolver domain
    { selectors := storedSelectors calls, limits } name isName
  refine ⟨report, _, run, rfl, ?_, ?_⟩
  · rw [Dkim.names_nodup]
    exact keyTexts_nodup name calls
  · intro distinct key only
    have few : report.dkim.countP (·.valid) ≤ 1 := by
      rw [outcomes]
      calc (Dkim.probeAll resolver name.text (storedSelectors calls)).1.countP (·.valid)
          ≤ (Dkim.probeAll resolver name.text (storedSelectors calls)).2.count key :=
            Dkim.countP_valid_le resolver name.text (storedSelectors calls) key only
        _ ≤ 1 := List.nodup_iff_count_le_one.mp distinct key
    refine ⟨few, ?_⟩
    have awarded := report.evidence.details_lookup .severalKeys
    rw [report.evidence.points_severalKeys] at awarded
    · exact awarded
    · rw [facts, List.countP_map]
      exact few

def s1Name : DomainName where
  text := "s1._domainkey.a.example"
  canonical := DomainName.fault?_eq_none_iff.mp (by decide +kernel)

def oneKeyZone : Resolver := fun name =>
  if name = plainName then ⟨.ok ["v=spf1 -all"], 0⟩
  else if name = s1Name then ⟨.ok ["v=DKIM1; k=ed25519; p=abc"], 0⟩
  else ⟨.error (.nameNotFound name.text), 0⟩

theorem oneKeyZone_published (name : DomainName) (published : Dkim.PublishesKey oneKeyZone name) :
    name = s1Name := by
  obtain ⟨answers, record, answered, found, _⟩ := published
  unfold oneKeyZone at answered
  split at answered
  · cases answered
    have none : Dkim.findRecord? ["v=spf1 -all"] = none := by decide +kernel
    rw [none] at found
    cases found
  · split at answered
    · assumption
    · cases answered

def repeatedCalls : List SelectorCall :=
  [.one " S1. ", .several ["s1", "s2", "  "]]

theorem oneKeyZone_probes_keys_once :
    DomainName.parse "a.example" = .ok plainName ∧
    ∃ report keys, audit oneKeyZone "a.example" { selectors := storedSelectors repeatedCalls } =
        .ok (report, (Spf.evaluate oneKeyZone {} plainName.text).2.queried ++ keys ++
          (Dmarc.check oneKeyZone plainName.text).2.toList) ∧
      keys = (Dkim.probeAll oneKeyZone plainName.text (storedSelectors repeatedCalls)).2 ∧
      (ProbedApart plainName (givenSelectors repeatedCalls) ∧ keys.Nodup) ∧
      (∀ other ∈ keys, Dkim.PublishesKey oneKeyZone other → other = s1Name) ∧
      report.dkim.countP (·.valid) ≤ 1 ∧
      report.evidence.details.lookup "dkim.multiple_selectors" = some 0 := by
  have isName : DomainName.parse "a.example" = .ok plainName := by decide +kernel
  obtain ⟨report, keys, run, areKeys, distinct, few⟩ :=
    audit_probes_keys_once oneKeyZone "a.example" plainName isName {} repeatedCalls
  have apart : ProbedApart plainName (givenSelectors repeatedCalls) := by
    apply probedApart_of_solid
    have forms : ∀ selector ∈ givenSelectors repeatedCalls,
        (normalSelector? selector).all fun s => Text.trim s.toList = s.toList := by
      decide +kernel
    intro selector given s form
    have solid := forms selector given
    rw [form] at solid
    exact of_decide_eq_true solid
  have only : ∀ other ∈ keys, Dkim.PublishesKey oneKeyZone other → other = s1Name :=
    fun other _ => oneKeyZone_published other
  exact ⟨isName, report, keys, run, areKeys, ⟨apart, distinct.mpr apart⟩, only,
    few (distinct.mpr apart) s1Name only⟩

/-- Gives `s1` twice, the second time with a blank before a final dot. -/
def dottedCalls : List SelectorCall :=
  [.several ["s1", "s1 ."]]

-- The one key is probed twice, makes two outcomes valid and earns the points for several.
theorem oneKeyZone_probed_twice :
    (∀ name, Dkim.PublishesKey oneKeyZone name → name = s1Name) ∧
    ¬ (Dkim.probeAll oneKeyZone plainName.text (storedSelectors dottedCalls)).2.Nodup ∧
    ∃ report names,
      audit oneKeyZone "a.example" { selectors := storedSelectors dottedCalls } =
        .ok (report, names) ∧
      names.map (·.text) = ["a.example", "s1._domainkey.a.example", "s1._domainkey.a.example",
        "_dmarc.a.example"] ∧
      report.dkim.countP (·.valid) = 2 ∧
      report.evidence.details.lookup "dkim.multiple_selectors" = some 5 := by
  refine ⟨oneKeyZone_published, by decide +kernel, ?_⟩
  have found : ((audit oneKeyZone "a.example"
      { selectors := storedSelectors dottedCalls }).toOption.any fun (report, names) =>
        names.map (·.text) = ["a.example", "s1._domainkey.a.example",
          "s1._domainkey.a.example", "_dmarc.a.example"] ∧
        report.dkim.countP (·.valid) = 2 ∧
        report.evidence.details.lookup "dkim.multiple_selectors" = some 5) = true := by
    decide +kernel
  cases result : audit oneKeyZone "a.example" { selectors := storedSelectors dottedCalls } with
  | error failure =>
      rw [result] at found
      cases found
  | ok audited =>
      obtain ⟨report, names⟩ := audited
      rw [result] at found
      exact ⟨report, names, rfl, of_decide_eq_true found⟩

end SenderAudit
