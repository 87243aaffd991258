import SenderAudit.Proofs.Tags

/-!
What the parts of a text assign to their keys, if a part without an equals sign is a key with
an empty value. The last part with a key decides.
-/
namespace SenderAudit.Text

/-- What stands before the first equals sign of a part, without blanks around it and case. -/
def partKey (part : List Char) : List Char :=
  lower (trim (part.takeWhile (· != '=')))

/-- What stands after the first equals sign, without blanks around it; nothing without one. -/
def partValue (part : List Char) : List Char :=
  trim (part.dropWhile (· != '=')).tail

/-- The last part with the key has the value. -/
def Assigns (s key value : List Char) : Prop :=
  ∃ earlier part later, fields ';' s = earlier ++ part :: later ∧ partKey part = key ∧
    partValue part = value ∧ ∀ other ∈ later, partKey other ≠ key

/-- What the last of the parts with a key has as its value. -/
def lastOf (key : List Char) (parts : List (List Char)) : Option (List Char) :=
  (parts.reverse.find? (partKey · == key)).map partValue

theorem lastOf_append (key : List Char) (parts others : List (List Char)) :
    lastOf key (parts ++ others) = (lastOf key others).or (lastOf key parts) := by
  rw [lastOf, List.reverse_append, List.find?_append, Option.map_or]
  rfl

theorem lastOf_singleton (key part : List Char) :
    lastOf key [part] = if partKey part = key then some (partValue part) else none := by
  by_cases same : partKey part = key <;> simp [lastOf, same]

theorem lastOf_append_cons (key part : List Char) (before after : List (List Char)) :
    lastOf key (before ++ part :: after) = (lastOf key after).or
      ((if partKey part = key then some (partValue part) else none).or (lastOf key before)) := by
  rw [List.append_cons, lastOf_append, lastOf_append, lastOf_singleton]

theorem lastOf_eq_some (key value : List Char) (parts : List (List Char)) :
    lastOf key parts = some value ↔ ∃ earlier part later, parts = earlier ++ part :: later ∧
      partKey part = key ∧ partValue part = value ∧ ∀ other ∈ later, partKey other ≠ key := by
  simp only [lastOf, Option.map_eq_some_iff, List.find?_eq_some_iff_append, beq_iff_eq]
  constructor
  · rintro ⟨part, ⟨isKey, before, after, split, others⟩, isValue⟩
    refine ⟨after.reverse, part, before.reverse, ?_, isKey, isValue, fun other isLater => ?_⟩
    · rw [← List.reverse_reverse parts, split, List.reverse_append, List.reverse_cons,
        List.append_assoc, List.singleton_append]
    · simpa using others other (List.mem_reverse.mp isLater)
  · rintro ⟨earlier, part, later, rfl, isKey, isValue, others⟩
    refine ⟨part, ⟨isKey, later.reverse, earlier.reverse, ?_, fun other isLater => ?_⟩, isValue⟩
    · rw [List.reverse_append, List.reverse_cons, List.append_assoc, List.singleton_append]
    · simpa using others other (List.mem_reverse.mp isLater)

theorem lastOf_eq_iff (key s t : List Char) :
    lastOf key (fields ';' s) = lastOf key (fields ';' t) ↔
      ∀ value, Assigns s key value ↔ Assigns t key value := by
  simp only [Assigns, ← lastOf_eq_some]
  exact ⟨fun same value => by rw [same], Option.ext⟩

theorem part_append (key value : List Char) (first : '=' ∉ key) :
    partKey (key ++ '=' :: value) = lower (trim key) ∧
      partValue (key ++ '=' :: value) = trim value := by
  have other := ne_of_absent '=' key first
  rw [partKey, partValue, List.takeWhile_append_of_pos other, List.dropWhile_append_of_pos other]
  simp

theorem part_bare (part : List Char) (bare : '=' ∉ part) :
    partKey part = lower (trim part) ∧ partValue part = [] := by
  have other := ne_of_absent '=' part bare
  rw [partKey, partValue, List.takeWhile_eq_self_iff.mpr other, List.dropWhile_eq_nil_iff.mpr other]
  exact ⟨rfl, rfl⟩

/-- A part with an equals sign is a tag; one without may be a key by itself. -/
def isTag (bareKeys : Bool) (part : List Char) : Bool :=
  part.contains '=' || bareKeys && !(trim part).isEmpty

theorem tag_of_part (bareKeys : Bool) (part : List Char) :
    (match cut '=' (trim part) with
      | some (key, value) => some (⟨lower (trim key), trim value⟩ : Tag)
      | none => if bareKeys && !(trim part).isEmpty then some ⟨lower (trim part), []⟩ else none) =
      if isTag bareKeys part then some ⟨partKey part, partValue part⟩ else none := by
  rcases cut_cases '=' part with ⟨key, value, rfl, first, _⟩ | ⟨bare, _⟩
  · have atFirst := cut_append '=' (trimStart key) (trimEnd value)
      (mt (List.dropWhile_sublist _).mem first)
    have signed : isTag bareKeys (key ++ '=' :: value) = true := by simp [isTag]
    rw [trim_append_cons key value '=' (by decide), atFirst, (part_append key value first).1,
      (part_append key value first).2, if_pos signed]
    simp only [trim_trimStart, trim_trimEnd]
  · rw [cut_eq_none '=' _ (mt (mem_of_mem_trim part '=') bare), (part_bare part bare).1,
      (part_bare part bare).2]
    simp [isTag, bare]

theorem tags_fields (bareKeys : Bool) (s : List Char) :
    tags bareKeys s = ((fields ';' s).filter (isTag bareKeys)).map fun part =>
      ⟨partKey part, partValue part⟩ := by
  rw [tags, List.filterMap_map, ← List.filterMap_eq_map', List.filterMap_filter]
  exact List.filterMap_congr fun part _ => tag_of_part bareKeys part

theorem lastValue?_fields (key : String) (bareKeys : Bool) (s : List Char) :
    lastValue? key (tags bareKeys s) =
      lastOf key.toList ((fields ';' s).filter (isTag bareKeys)) := by
  rw [tags_fields, lastValue?, ← List.map_reverse, List.find?_map, Option.map_map]
  rfl

theorem partKey_of_blank (part : List Char) (blank : trim part = []) : partKey part = [] := by
  rcases cut_cases '=' part with ⟨key, value, rfl, _, _⟩ | ⟨bare, _⟩
  · rw [trim_append_cons key value '=' (by decide)] at blank
    exact absurd blank (List.append_ne_nil_of_right_ne_nil _ (List.cons_ne_nil _ _))
  · rw [(part_bare part bare).1, blank]
    rfl

/-- The tags of a text, read for a key, are its parts. -/
theorem lastValue?_tags (key : String) (solid : key.toList ≠ []) (s : List Char) :
    lastValue? key (tags true s) = lastOf key.toList (fields ';' s) := by
  have kept : ∀ part, (isTag true part = true ∧ (partKey part == key.toList) = true) ↔
      (partKey part == key.toList) = true := by
    intro part
    refine and_iff_right_of_imp fun isKey => ?_
    by_contra noTag
    have blank : trim part = [] := by
      simp_all [isTag]
    rw [partKey_of_blank part blank, beq_iff_eq] at isKey
    exact solid isKey.symm
  rw [lastValue?_fields, lastOf, ← List.filter_reverse, List.find?_filter]
  simp only [kept, Bool.decide_eq_true, lastOf]

theorem lastValue?_assigns (key : String) (solid : key.toList ≠ []) (s value : List Char) :
    lastValue? key (tags true s) = some value ↔ Assigns s key.toList value := by
  rw [lastValue?_tags key solid, lastOf_eq_some, Assigns]

def Sets (s key value : List Char) : Prop :=
  ∃ earlier part later, (fields ';' s).filter ('=' ∈ ·) = earlier ++ part :: later ∧
    partKey part = key ∧ partValue part = value ∧ ∀ other ∈ later, partKey other ≠ key

theorem lastValue?_sets (key : String) (s value : List Char) :
    lastValue? key (tags false s) = some value ↔ Sets s key.toList value := by
  have signed : isTag false = fun part => decide ('=' ∈ part) := by
    funext part
    simp [isTag]
  rw [lastValue?_fields, signed, lastOf_eq_some, Sets]

end SenderAudit.Text
