import SenderAudit.Proofs.NameCase
import SenderAudit.Url.Address

/-!
An address in normal form is in ASCII, so that it takes as many octets as characters. Each part
of it is written in an alphabet of its own, or has its other octets in percent signs and digits.
-/
namespace SenderAudit

namespace Idna

@[simp] theorem allAscii_nil : allAscii [] = true :=
  rfl

@[simp] theorem allAscii_cons (c : Char) (s : List Char) :
    allAscii (c :: s) = (isAscii c && allAscii s) :=
  List.all_cons

@[simp] theorem allAscii_append (s t : List Char) :
    allAscii (s ++ t) = (allAscii s && allAscii t) :=
  List.all_append

theorem allAscii_flatMap {α : Type} (f : α → List Char) (items : List α)
    (each : ∀ item ∈ items, allAscii (f item) = true) : allAscii (items.flatMap f) = true := by
  rw [allAscii, List.all_flatMap]
  exact List.all_eq_true.mpr each

theorem allAscii_of_mem {s t : List Char} (within : ∀ c ∈ s, c ∈ t) (ascii : allAscii t = true) :
    allAscii s = true :=
  List.all_eq_true.mpr fun c member => List.all_eq_true.mp ascii c (within c member)

theorem allAscii_intercalate (gap : List Char) (ascii : allAscii gap = true)
    (pieces : List (List Char)) (each : ∀ piece ∈ pieces, allAscii piece = true) :
    allAscii (gap.intercalate pieces) = true := by
  induction pieces with
  | nil => rfl
  | cons first rest ih =>
      obtain ⟨isFirst, later⟩ := List.forall_mem_cons.mp each
      cases rest with
      | nil => simpa [List.intercalate] using isFirst
      | cons second others =>
          rw [List.intercalate_cons_cons, allAscii_append, allAscii_append, isFirst, ascii,
            ih later]
          rfl

theorem digitChar_ascii : ∀ n < 16, isAscii n.digitChar = true := by
  decide

theorem allAscii_toDigits (base : Nat) (atLeast : 1 < base) (atMost : base ≤ 16) (n : Nat) :
    allAscii (Nat.toDigits base n) = true := by
  induction n using Nat.strongRecOn with
  | ind n ih =>
      by_cases small : n < base
      · rw [Nat.toDigits_of_lt_base small, allAscii_cons, digitChar_ascii n (by omega)]
        rfl
      · have last := digitChar_ascii (n % base) (by
          have := @Nat.mod_lt n base (by omega)
          omega)
        rw [Nat.toDigits_of_base_le atLeast (by omega), allAscii_append,
          ih (n / base) (Nat.div_lt_self (by omega) atLeast), allAscii_cons, last]
        rfl

theorem allAscii_decimal (n : Nat) : allAscii (toString n).toList = true := by
  change allAscii n.repr.toList = true
  rw [Nat.repr_eq_ofList_toDigits, String.toList_ofList]
  exact allAscii_toDigits 10 (by decide) (by decide) n

namespace Punycode

theorem digit_ascii : ∀ n < 36, isAscii (digit n) = true := by
  decide

theorem threshold_bounds (place bias : Nat) :
    1 ≤ threshold place bias ∧ threshold place bias ≤ 26 := by
  unfold threshold
  split
  · omega
  · split <;> omega

theorem writeNumber_ascii (n place bias : Nat) :
    allAscii (writeNumber n place bias) = true := by
  have bounds := threshold_bounds
  induction n, place using writeNumber.induct bias with
  | case1 n place t below =>
      have small : n < 36 := by
        have := bounds place bias
        omega
      rw [writeNumber, dif_pos below, allAscii_cons, digit_ascii n small]
      rfl
  | case2 n place t atLeast ih =>
      have smallDigit : t + (n - t) % (36 - t) < 36 := by
        have := bounds place bias
        have := @Nat.mod_lt (n - t) (36 - t) (by omega)
        omega
      rw [writeNumber, dif_neg atLeast, allAscii_cons, digit_ascii _ smallDigit]
      exact ih

theorem passes_ascii (basicCount code : Nat) (text : List Char) (w : Writing)
    (ascii : allAscii w.digits = true) :
    allAscii (text.foldl (Writing.pass basicCount code) w).digits = true := by
  induction text generalizing w with
  | nil => exact ascii
  | cons c rest ih =>
      apply ih
      rw [Writing.pass]
      split
      · exact ascii
      · split
        · change allAscii (w.digits ++ writeNumber w.delta 36 w.bias) = true
          rw [allAscii_append, ascii, writeNumber_ascii]
          rfl
        · exact ascii

theorem writeCodes_ascii (text : List Char) (basicCount last : Nat) (codes : List Nat)
    (w : Writing) (ascii : allAscii w.digits = true) :
    allAscii (writeCodes text basicCount last codes w).digits = true := by
  induction codes generalizing last w with
  | nil => exact ascii
  | cons code rest ih =>
      apply ih
      exact passes_ascii basicCount code text _ ascii

theorem encode_ascii (text : List Char) : allAscii (encode text) = true := by
  have basic : allAscii (text.filter isAscii) = true :=
    List.all_eq_true.mpr fun c member => (List.mem_filter.mp member).2
  unfold encode
  dsimp only
  rw [allAscii_append, allAscii_append, basic, writeCodes_ascii _ _ _ _ _ allAscii_nil]
  split <;> rfl

end Punycode

theorem encodedLabel?_ascii (encoded : List Char) (label : Label)
    (read : encodedLabel? encoded = some label) : label.ascii = acePrefix ++ encoded := by
  unfold encodedLabel? at read
  by_cases long : encoded.length > maxEncodedLength
  · rw [if_pos long] at read
    cases read
  · rw [if_neg long] at read
    obtain ⟨shown, _, read⟩ := Option.bind_eq_some_iff.mp read
    split at read
    · cases read
      rfl
    · cases read

theorem label?_ascii (s : List Char) (label : Label) (read : label? s = some label) :
    allAscii label.ascii = true := by
  unfold label? at read
  split at read
  case isTrue encodes =>
    by_cases ascii : allAscii s = true
    · rw [if_pos ascii] at read
      rw [encodedLabel?_ascii _ label read, allAscii_append,
        allAscii_of_mem (fun c member => List.mem_of_mem_drop member) ascii]
      rfl
    · rw [if_neg ascii] at read
      cases read
  case isFalse =>
    by_cases ascii : allAscii s = true
    · rw [if_pos ascii] at read
      cases read
      exact ascii
    · rw [if_neg ascii] at read
      split at read
      · cases read
        exact Punycode.encode_ascii s
      · cases read

theorem mapM_label?_ascii (pieces : List (List Char)) (labels : List Label)
    (read : pieces.mapM label? = some labels) :
    ∀ label ∈ labels, allAscii label.ascii = true := by
  induction pieces generalizing labels with
  | nil =>
      cases read
      intro label member
      cases member
  | cons piece rest ih =>
      rw [List.mapM_cons] at read
      obtain ⟨first, isFirst, read⟩ := Option.bind_eq_some_iff.mp read
      obtain ⟨later, isLater, read⟩ := Option.bind_eq_some_iff.mp read
      cases read
      exact List.forall_mem_cons.mpr ⟨label?_ascii piece first isFirst, ih later isLater⟩

theorem toAscii?_ascii (name ascii : List Char) (read : toAscii? name = some ascii) :
    allAscii ascii = true := by
  obtain ⟨labels, isLabels, read⟩ := Option.bind_eq_some_iff.mp read
  obtain ⟨_, _, isMapped⟩ := Option.bind_eq_some_iff.mp isLabels
  split at read
  · cases read
  · cases read
    apply allAscii_intercalate _ (by decide)
    intro piece member
    obtain ⟨label, isLabel, rfl⟩ := List.mem_map.mp member
    exact mapM_label?_ascii _ labels isMapped label isLabel

end Idna

namespace Url

open Idna

theorem percent_ascii (octet : UInt8) : allAscii (percent octet) = true := by
  have table : ∀ n < 16, isAscii (Text.upperHexDigit n) = true := by decide
  have bound := octet.toNat_lt
  simp only [percent, allAscii_cons, table (octet.toNat / 16) (by omega),
    table (octet.toNat % 16) (by omega)]
  decide

theorem percents_ascii (c : Char) :
    allAscii ((String.utf8EncodeChar c).flatMap percent) = true :=
  allAscii_flatMap percent _ fun octet _ => percent_ascii octet

theorem encoded_ascii (needs : Char → Bool) (s : List Char) :
    allAscii (encoded needs s) = true := by
  apply allAscii_flatMap
  intro c _
  split
  case isTrue plain => simpa [isAscii] using (Bool.and_eq_true_iff.mp plain).1
  case isFalse => exact percents_ascii c

theorem isAlphanumOr_ascii (signs : List Char) (small : signs.all isAscii = true) (c : Char)
    (known : isAlphanumOr signs c = true) : isAscii c = true := by
  rcases Bool.or_eq_true_iff.mp known with letter | sign
  · exact decide_eq_true (Text.small_of_isAlphanum c letter)
  · exact List.all_eq_true.mp small c (List.contains_iff_mem.mp sign)

theorem formEncoded_ascii (s : List Char) : allAscii (formEncoded s) = true := by
  apply allAscii_flatMap
  intro c _
  split
  case isTrue safe => simpa using isAlphanumOr_ascii _ (by decide) c safe
  case isFalse =>
    split
    · decide
    · exact percents_ascii c

/-! Hosts. -/

theorem joined_ascii (gap : String) (ascii : allAscii gap.toList = true) (texts : List String)
    (each : ∀ text ∈ texts, allAscii text.toList = true) :
    allAscii (Text.joined gap texts).toList = true := by
  rw [Text.joined, String.toList_intercalate]
  apply allAscii_intercalate _ ascii
  intro piece member
  obtain ⟨text, isText, rfl⟩ := List.mem_map.mp member
  exact each text isText

theorem hexText_ascii (n : Nat) : allAscii (hexText n).toList = true := by
  rw [hexText, String.toList_ofList]
  exact allAscii_toDigits 16 (by decide) (by decide) n

theorem dottedText_ascii (n : Nat) : allAscii (dottedText n) = true := by
  apply joined_ascii _ (by decide)
  intro text member
  simp only [List.mem_cons, List.not_mem_nil, or_false] at member
  rcases member with rfl | rfl | rfl | rfl <;> exact allAscii_decimal _

theorem ipv6Text_ascii (groups : List Nat) : allAscii (ipv6Text groups) = true := by
  have texts (groups : List Nat) :
      allAscii (Text.joined ":" (groups.map hexText)).toList = true := by
    apply joined_ascii _ (by decide)
    intro text member
    obtain ⟨group, _, rfl⟩ := List.mem_map.mp member
    exact hexText_ascii group
  unfold ipv6Text
  dsimp only
  split
  · exact texts groups
  · rw [String.toList_append, String.toList_append, allAscii_append, allAscii_append, texts, texts]
    decide

theorem ipv4Host?_ascii (s host : List Char) (read : ipv4Host? s = some host) :
    allAscii host = true := by
  obtain ⟨_, _, read⟩ := Option.bind_eq_some_iff.mp read
  obtain ⟨value, _, read⟩ := Option.bind_eq_some_iff.mp read
  cases read
  exact dottedText_ascii value

theorem nameHost_ascii (s host : List Char) (read : nameHost s = .ok host) :
    allAscii host = true := by
  unfold nameHost at read
  split at read
  · cases read
  · split at read
    · cases read
    next ascii isAscii =>
      split at read
      · cases read
      · split at read
        · cases read
        · split at read
          · split at read
            next dotted isDotted =>
              cases read
              exact ipv4Host?_ascii ascii _ isDotted
            · cases read
          · cases read
            exact toAscii?_ascii _ _ isAscii

theorem host_ascii (s text : List Char) (read : host s = .ok text) : allAscii text = true := by
  unfold host at read
  split at read
  · cases read
  · dsimp only at read
    split at read
    · cases read
      rw [allAscii_append, allAscii_cons, ipv6Text_ascii]
      decide
    · cases read
  · exact nameHost_ascii s text read

/-! The parts of an address. -/

theorem credentialsText_ascii (s : List Char) : allAscii (credentialsText s) = true := by
  have isSign : isAscii ':' = true ∧ isAscii '@' = true := by decide
  simp [credentialsText, apply_ite allAscii, encoded_ascii, isSign]

theorem originText_ascii (o : Origin) (credentials : allAscii o.credentials = true)
    (host : allAscii o.host = true) : allAscii o.text = true := by
  unfold Origin.text
  simp only [allAscii_append, credentials, host]
  cases o.port with
  | none => rfl
  | some n =>
      simp only [allAscii_cons, allAscii_decimal]
      decide

theorem readOrigin_ascii (scheme s : List Char) (o : Origin)
    (read : readOrigin scheme s = .ok o) : allAscii o.text = true := by
  unfold readOrigin at read
  split at read
  next credentials rest _ =>
    split at read
    next name port _ =>
      cases isHost : host name with
      | error fault =>
          rw [isHost] at read
          cases read
      | ok text =>
          cases isPort : port? scheme port with
          | error fault =>
              rw [isHost, isPort] at read
              cases read
          | ok port =>
              rw [isHost, isPort] at read
              cases read
              exact originText_ascii _ (credentialsText_ascii _) (host_ascii _ text isHost)

theorem walkPath_ascii (passed segments : List (List Char))
    (ascii : ∀ segment ∈ passed, allAscii segment = true) :
    ∀ segment ∈ walkPath passed segments, allAscii segment = true := by
  induction segments generalizing passed with
  | nil => exact fun segment member => ascii segment (List.mem_reverse.mp member)
  | cons first rest ih =>
      have fewer : ∀ segment ∈ passed.tail, allAscii segment = true :=
        fun segment member => ascii segment (List.mem_of_mem_tail member)
      rw [walkPath]
      split
      · apply ih
        split
        · exact List.forall_mem_cons.mpr ⟨rfl, fewer⟩
        · exact fewer
      · split
        · apply ih
          split
          · exact List.forall_mem_cons.mpr ⟨rfl, ascii⟩
          · exact ascii
        · exact ih _ (List.forall_mem_cons.mpr ⟨encoded_ascii inPath first, ascii⟩)

theorem readPath_ascii (s : List Char) : allAscii (readPath s) = true := by
  unfold readPath
  dsimp only
  apply allAscii_flatMap
  intro segment member
  rw [allAscii_cons, walkPath_ascii [] _ (List.forall_mem_nil _) segment member]
  rfl

theorem marked_ascii (sign : Char) (isSign : isAscii sign = true) (needs : Char → Bool)
    (part : Option (List Char)) :
    allAscii (marked sign (part.map (encoded needs))) = true := by
  cases part with
  | none => rfl
  | some s =>
      rw [Option.map_some, marked, allAscii_cons, isSign, encoded_ascii]
      rfl

theorem lower_ascii (s : List Char) (ascii : allAscii s = true) :
    allAscii (Text.lower s) = true := by
  rw [allAscii, Text.all_lower isAscii_caseless]
  exact ascii

theorem cutScheme?_ascii (s scheme rest : List Char)
    (cut : cutScheme? s = some (scheme, rest)) : allAscii scheme = true := by
  unfold cutScheme? at cut
  split at cut
  next first others after _ =>
    split at cut
    next isScheme =>
      obtain ⟨isFirst, areOthers⟩ := Bool.and_eq_true_iff.mp isScheme
      cases cut
      apply lower_ascii
      have small := Text.small_of_isAlphanum first (Bool.or_eq_true_iff.mpr (.inl isFirst))
      rw [allAscii_cons, isAscii, decide_eq_true small]
      exact List.all_eq_true.mpr fun c member =>
        isAlphanumOr_ascii _ (by decide) c (List.all_eq_true.mp areOthers c member)
    next => cases cut
  next => cases cut

theorem characters_ascii (scheme path : List Char) (origin : Option Origin)
    (query fragment : Option (List Char)) (isScheme : allAscii scheme = true)
    (isOrigin : allAscii ((origin.map (·.text)).getD []) = true) (isPath : allAscii path = true) :
    allAscii (characters {
      scheme, origin, path
      query := query.map (encoded inQuery), fragment := fragment.map (encoded inFragment) }) =
        true := by
  have isQuery := marked_ascii '?' (by decide) inQuery query
  have isFragment := marked_ascii '#' (by decide) inFragment fragment
  simp only [characters, target, allAscii_append, allAscii_cons, isScheme, isOrigin, isPath,
    isQuery, isFragment]
  decide

theorem withParameter_ascii (u : Url) (name value : String)
    (ascii : allAscii u.characters = true) :
    allAscii (u.withParameter name value).characters = true := by
  have signs : isAscii '?' = true ∧ isAscii '&' = true ∧ isAscii '=' = true := by decide
  rcases u with ⟨scheme, origin, path, query, fragment⟩
  rcases query with _ | ⟨_ | ⟨c, rest⟩⟩
  all_goals
    simp [withParameter, characters, target, marked, formEncoded_ascii, signs] at ascii ⊢
    grind

/-- The normal form of an address is in ASCII. -/
theorem parse_ascii (input : String) (url : Url) (read : parse input = .ok url) :
    allAscii url.characters = true := by
  unfold parse at read
  split at read
  case h_1 => cases read
  case h_2 scheme rest cut =>
    have isScheme := cutScheme?_ascii _ scheme rest cut
    split at read
    case isTrue =>
      rw [readWeb] at read
      cases isOrigin : readOrigin scheme
        ((rest.dropWhile fun c => c == '/' || c == '\\').takeWhile (!endsOrigin ·)) with
      | error fault =>
          rw [isOrigin] at read
          cases read
      | ok origin =>
          rw [isOrigin] at read
          cases read
          exact characters_ascii _ _ _ _ _ isScheme (readOrigin_ascii _ _ origin isOrigin)
            (readPath_ascii _)
    case isFalse =>
      cases read
      exact characters_ascii _ _ _ _ _ isScheme rfl (encoded_ascii isControl _)

end Url

end SenderAudit
