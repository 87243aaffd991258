import SenderAudit.Proofs.Json.RoundTrip
import SenderAudit.Proofs.Json.Spellings

/-!
Values are read from any of their renderings. The grammar leaves blanks, spellings of strings and
the forms of numbers to the writer; a rendering is read as the tree of its parts, whatever blanks
stand around them and however deep they are nested.
-/
namespace SenderAudit.Json

/-! Numbers. -/

inductive WholePart : List Char → Prop
  | zero : WholePart ['0']
  | digits {first : Char} {rest : List Char} (isFirst : first.isDigit = true) (noZero : first ≠ '0')
      (areDigits : ∀ c ∈ rest, c.isDigit = true) : WholePart (first :: rest)

inductive Fraction : List Char → Prop
  | none : Fraction []
  | digits {digits : List Char} (nonempty : digits ≠ [])
      (areDigits : ∀ c ∈ digits, c.isDigit = true) : Fraction ('.' :: digits)

inductive Exponent : List Char → Prop
  | none : Exponent []
  | digits {e : Char} {sign digits : List Char} (isE : e ∈ ['e', 'E'])
      (isSign : sign ∈ [[], ['+'], ['-']]) (nonempty : digits ≠ [])
      (areDigits : ∀ c ∈ digits, c.isDigit = true) : Exponent (e :: (sign ++ digits))

inductive Number : List Char → Prop
  | intro {minus whole fraction exponent : List Char} (isMinus : minus ∈ [[], ['-']])
      (isWhole : WholePart whole) (isFraction : Fraction fraction)
      (isExponent : Exponent exponent) : Number (minus ++ (whole ++ (fraction ++ exponent)))

theorem isDigits_of_forall (digits : List Char) (nonempty : digits ≠ [])
    (areDigits : ∀ c ∈ digits, c.isDigit = true) : Text.isDigits digits = true := by
  rw [Text.isDigits, List.isEmpty_eq_false_iff.mpr nonempty, List.all_eq_true.mpr areDigits]
  rfl

theorem WholePart.digits_of_mem {s : List Char} (part : WholePart s) :
    ∀ c ∈ s, c.isDigit = true := by
  cases part with
  | zero => simp
  | digits isFirst _ areDigits => exact List.forall_mem_cons.mpr ⟨isFirst, areDigits⟩

theorem WholePart.isWhole {s : List Char} (part : WholePart s) : isWhole s = true := by
  cases part with
  | zero => decide
  | @digits first rest isFirst noZero areDigits =>
      have digits := isDigits_of_forall (first :: rest) (by simp)
        (List.forall_mem_cons.mpr ⟨isFirst, areDigits⟩)
      simp [Json.isWhole, digits, noZero]

theorem Exponent.isExponent {s : List Char} (exponent : Exponent s) : isExponent s = true := by
  cases exponent with
  | none => rfl
  | @digits e sign digits isE isSign nonempty areDigits =>
      have signed : afterSign (sign ++ digits) = digits := by
        simp only [List.mem_cons, List.not_mem_nil, or_false] at isSign
        rcases isSign with rfl | rfl | rfl
        · obtain ⟨first, rest, rfl⟩ := List.exists_cons_of_ne_nil nonempty
          have isFirst := areDigits first List.mem_cons_self
          rw [List.nil_append, afterSign.eq_def]
          split
          · next same =>
              rw [(List.cons.inj same).1] at isFirst
              exact absurd isFirst (by decide)
          · next same =>
              rw [(List.cons.inj same).1] at isFirst
              exact absurd isFirst (by decide)
          · rfl
        · rfl
        · rfl
      have isLetter : e = 'e' ∨ e = 'E' := by simpa using isE
      simp [Json.isExponent, signed, isDigits_of_forall digits nonempty areDigits, isLetter]

theorem Exponent.head {s : List Char} (exponent : Exponent s) :
    ∀ c, s.head? = some c → c.isDigit = false ∧ c ≠ '.' := by
  intro c isHead
  cases exponent with
  | none => cases isHead
  | digits isE _ _ _ =>
      cases isHead
      simp only [List.mem_cons, List.not_mem_nil, or_false] at isE
      rcases isE with rfl | rfl <;> decide

theorem span_digits (digits rest : List Char) (areDigits : ∀ c ∈ digits, c.isDigit = true)
    (ends : ∀ c, rest.head? = some c → c.isDigit = false) :
    (digits ++ rest).takeWhile Char.isDigit = digits ∧
      (digits ++ rest).dropWhile Char.isDigit = rest := by
  rw [List.takeWhile_append_of_pos areDigits, List.dropWhile_append_of_pos areDigits]
  cases rest with
  | nil => simp
  | cons c others => simp [ends c rfl]

theorem afterFraction?_append (fraction exponent : List Char) (isFraction : Fraction fraction)
    (isExponent : Exponent exponent) :
    afterFraction? (fraction ++ exponent) = some exponent := by
  cases isFraction with
  | none =>
      rw [List.nil_append, afterFraction?.eq_def]
      split
      · next rest => exact absurd rfl (isExponent.head '.' rfl).2
      · rfl
  | @digits digits nonempty areDigits =>
      obtain ⟨taken, dropped⟩ := span_digits digits exponent areDigits fun c isHead =>
        (isExponent.head c isHead).1
      rw [List.cons_append, afterFraction?, taken, dropped, List.isEmpty_eq_false_iff.mpr nonempty]
      rfl

theorem number_toDigits (n : Nat) : Number (Nat.toDigits 10 n) := by
  have whole : WholePart (Nat.toDigits 10 n) := by
    by_cases zero : (Nat.toDigits 10 n).head? = some '0'
    · rw [toDigits_head_zero n zero]
      exact .zero
    · have digits := toDigits_isDigit n
      obtain ⟨first, rest, split⟩ := List.exists_cons_of_ne_nil (@Nat.toDigits_ne_nil n 10)
      rw [split] at digits zero ⊢
      obtain ⟨isFirst, areDigits⟩ := List.forall_mem_cons.mp digits
      exact .digits isFirst (fun same => zero (congrArg some same)) areDigits
  have number := @Number.intro [] _ [] [] (by simp) whole .none .none
  rwa [List.nil_append, List.append_nil, List.append_nil] at number

theorem Number.isNumber {s : List Char} (number : Number s) : isNumber s = true := by
  cases number with
  | @intro minus whole fraction exponent isMinus isWhole isFraction isExponent =>
      have unsigned : afterMinus (minus ++ (whole ++ (fraction ++ exponent))) =
          whole ++ (fraction ++ exponent) := by
        simp only [List.mem_cons, List.not_mem_nil, or_false] at isMinus
        rcases isMinus with rfl | rfl
        · have first := isWhole.digits_of_mem
          rw [List.nil_append, afterMinus.eq_def]
          split
          · next rest same =>
              cases whole with
              | nil => cases isWhole
              | cons c others =>
                  have digit := first c List.mem_cons_self
                  rw [(List.cons.inj same).1] at digit
                  exact absurd digit (by decide)
          · rfl
        · rfl
      have ends : ∀ c, (fraction ++ exponent).head? = some c → c.isDigit = false := by
        intro c isHead
        cases isFraction with
        | none => exact (isExponent.head c isHead).1
        | digits _ _ =>
            cases isHead
            decide
      obtain ⟨taken, dropped⟩ := span_digits whole _ isWhole.digits_of_mem ends
      rw [Json.isNumber, unsigned, taken, dropped, isWhole.isWhole,
        afterFraction?_append fraction exponent isFraction isExponent, Option.any_some,
        isExponent.isExponent]
      rfl

theorem Number.isWordChar {s : List Char} (number : Number s) : ∀ c ∈ s, isWordChar c = true := by
  have ofDigits : ∀ digits : List Char, (∀ c ∈ digits, c.isDigit = true) →
      ∀ c ∈ digits, Json.isWordChar c = true := by
    intro digits areDigits c member
    simp [Json.isWordChar, Char.isAlphanum, areDigits c member]
  cases number with
  | @intro minus whole fraction exponent isMinus isWhole isFraction isExponent =>
      intro c member
      rcases List.mem_append.mp member with inMinus | member
      · simp only [List.mem_cons, List.not_mem_nil, or_false] at isMinus
        rcases isMinus with rfl | rfl
        · cases inMinus
        · rw [List.mem_singleton.mp inMinus]
          decide
      · rcases List.mem_append.mp member with inWhole | member
        · exact ofDigits whole isWhole.digits_of_mem c inWhole
        · rcases List.mem_append.mp member with inFraction | inExponent
          · cases isFraction with
            | none => cases inFraction
            | digits _ areDigits =>
                rcases List.mem_cons.mp inFraction with rfl | later
                · decide
                · exact ofDigits _ areDigits c later
          · cases isExponent with
            | none => cases inExponent
            | @digits e sign digits isE isSign _ areDigits =>
                simp only [List.mem_cons, List.not_mem_nil, or_false] at isE isSign
                rcases List.mem_cons.mp inExponent with rfl | later
                · rcases isE with rfl | rfl <;> decide
                · rcases List.mem_append.mp later with inSign | inDigits
                  · rcases isSign with rfl | rfl | rfl
                    · cases inSign
                    all_goals
                      rw [List.mem_singleton.mp inSign]
                      decide
                  · exact ofDigits digits areDigits c inDigits

theorem Number.isWord {s : String} (number : Number s.toList) : IsWord s := by
  have isNumber := number.isNumber
  refine ⟨?_, number.isWordChar, ?_⟩
  · intro empty
    rw [empty] at isNumber
    exact absurd isNumber (by decide)
  · rw [Json.isWord, isNumber, Bool.or_true]

/-! The grammar of values. -/

def inQuotes (written : List Char) : String :=
  "\"" ++ (String.ofList written ++ "\"")

inductive Padded (s : String) : String → Prop
  | intro {before after : String} (start : IsGap before.toList) (end_ : IsGap after.toList) :
      Padded s (before ++ (s ++ after))

theorem padded_self (s : String) : Padded s s := by
  have padded : Padded s ("" ++ (s ++ "")) := .intro (List.forall_mem_nil _) (List.forall_mem_nil _)
  rwa [String.empty_append, String.append_empty] at padded

mutual

inductive Renders : Tree → String → Prop
  | literal {s : String} (known : s ∈ ["null", "true", "false"]) : Renders (.word s.toList) s
  | number {s : String} (isNumber : Number s.toList) : Renders (.word s.toList) s
  | text {written : List Char} (inner : IsInner written) :
      Renders (.text (Utf8.encode written)) (inQuotes written)
  | emptyArray {gap : String} (isGap : IsGap gap.toList) : Renders (.array []) ("[" ++ (gap ++ "]"))
  | array {values : List Tree} {s : String} (elements : RendersElements values s) :
      Renders (.array values) ("[" ++ (s ++ "]"))
  | emptyObject {gap : String} (isGap : IsGap gap.toList) :
      Renders (.object []) ("\x7b" ++ (gap ++ "\x7d"))
  | object {fields : List (List UInt8 × Tree)} {s : String} (rendered : RendersFields fields s) :
      Renders (.object fields) ("\x7b" ++ (s ++ "\x7d"))

inductive RendersElements : List Tree → String → Prop
  | last {tree : Tree} {s t : String} (renders : Renders tree s) (padded : Padded s t) :
      RendersElements [tree] t
  | more {tree : Tree} {s t : String} {values : List Tree} {rest : String}
      (renders : Renders tree s) (padded : Padded s t) (others : RendersElements values rest) :
      RendersElements (tree :: values) (t ++ ("," ++ rest))

inductive RendersFields : List (List UInt8 × Tree) → String → Prop
  | last {key : List Char} {k : String} {tree : Tree} {s t : String} (inner : IsInner key)
      (paddedKey : Padded (inQuotes key) k) (renders : Renders tree s) (padded : Padded s t) :
      RendersFields [(Utf8.encode key, tree)] (k ++ (":" ++ t))
  | more {key : List Char} {k : String} {tree : Tree} {s t : String}
      {fields : List (List UInt8 × Tree)} {rest : String} (inner : IsInner key)
      (paddedKey : Padded (inQuotes key) k) (renders : Renders tree s) (padded : Padded s t)
      (others : RendersFields fields rest) :
      RendersFields ((Utf8.encode key, tree) :: fields) (k ++ (":" ++ (t ++ ("," ++ rest))))

end

/-! Reading what is rendered. -/

theorem run_append (start : Reading) (ts us : List Token) :
    Reading.run start (ts ++ us) = (Reading.run start ts).bind fun met => Reading.run met us := by
  induction ts generalizing start with
  | nil => rfl
  | cons token rest ih =>
      rw [List.cons_append, Reading.run, Reading.run]
      cases start.next? token with
      | none => rfl
      | some met => exact ih met

/-- A text leads the reading from one place to another, if what follows does not go on with a
word. -/
def Leads (s : String) (start stop : Reading) : Prop :=
  ∃ ts, Reads EndsWord s ts ∧ Reading.run start ts = some stop

/-- A text ends a word before it, if what follows the text does. -/
def Ends (s : String) : Prop :=
  ∀ rest, EndsWord rest → EndsWord (octets s ++ rest)

theorem Leads.append {s t : String} {start met stop : Reading} (first : Leads s start met)
    (second : Leads t met stop) (ends : Ends t) : Leads (s ++ t) start stop := by
  obtain ⟨ts, readsFirst, runFirst⟩ := first
  obtain ⟨us, readsSecond, runSecond⟩ := second
  refine ⟨ts ++ us, readsFirst.append readsSecond ends, ?_⟩
  rw [run_append, runFirst, Option.bind_some, runSecond]

inductive IsMark : String → Token → Prop
  | openArray : IsMark "[" .openArray
  | closeArray : IsMark "]" .closeArray
  | openObject : IsMark "\x7b" .openObject
  | closeObject : IsMark "\x7d" .closeObject
  | comma : IsMark "," .comma
  | colon : IsMark ":" .colon

theorem reads_mark {mark : String} {token : Token} (isMark : IsMark mark token) :
    Reads Anything mark [token] := by
  intro done rest _
  cases isMark <;> rfl

theorem ends_mark {mark : String} {token : Token} (isMark : IsMark mark token) (s : String) :
    Ends (mark ++ s) := by
  intro rest _
  rw [octets_append]
  cases isMark <;> exact endsWord_cons _ _ (by decide)

section Marks

variable {mark : String} {token : Token} {start met stop : Reading}

theorem leads_mark (isMark : IsMark mark token) (step : start.next? token = some stop) :
    Leads mark start stop := by
  refine ⟨[token], (reads_mark isMark).before_word, ?_⟩
  rw [Reading.run, step]
  rfl

theorem Leads.after_mark (isMark : IsMark mark token) (step : start.next? token = some met)
    {s : String} (later : Leads s met stop) : Leads (mark ++ s) start stop := by
  obtain ⟨ts, reads, run⟩ := later
  refine ⟨token :: ts, (reads_mark isMark).append reads fun _ _ => trivial, ?_⟩
  rw [Reading.run, step]
  exact run

theorem Leads.before_mark {s t : String} (first : Leads s start met) (isMark : IsMark mark token)
    (later : Leads (mark ++ t) met stop) : Leads (s ++ (mark ++ t)) start stop :=
  first.append later (ends_mark isMark t)

end Marks

theorem Leads.padded {s t : String} {start stop : Reading} (leads : Leads s start stop)
    (padded : Padded s t) : Leads t start stop := by
  obtain ⟨ts, reads, run⟩ := leads
  cases padded with
  | @intro before after first last =>
      have ahead : Reads Anything before [] := fun done rest _ =>
        readTokens_gap before.toList first done rest
      have behind : Reads EndsWord after [] := fun done rest _ =>
        readTokens_gap after.toList last done rest
      have whole := ahead.append (reads.append behind (endsWord_gap after.toList last))
        fun _ _ => trivial
      rw [List.nil_append, List.append_nil] at whole
      exact ⟨ts, whole, run⟩

theorem Leads.after_gap {gap s : String} {start stop : Reading} (leads : Leads s start stop)
    (isGap : IsGap gap.toList) : Leads (gap ++ s) start stop := by
  have padded : Padded s (gap ++ (s ++ "")) := .intro isGap (List.forall_mem_nil _)
  rw [String.append_empty] at padded
  exact leads.padded padded

theorem leads_word {s : String} (word : IsWord s) (mayClose : Bool) (frames : List Frame) :
    Leads s (.value mayClose frames) (.after (.word s.toList) frames) := by
  refine ⟨[.word s.toList], reads_word s word, ?_⟩
  rw [Reading.run, Reading.next?, if_pos word.word]
  rfl

theorem leads_text {written : List Char} (inner : IsInner written) {start stop : Reading}
    (step : start.next? (.text (Utf8.encode written)) = some stop) :
    Leads (inQuotes written) start stop := by
  refine ⟨[.text (Utf8.encode written)], fun done rest _ => ?_, ?_⟩
  · have split : octets (inQuotes written) ++ rest =
        0x22 :: (Utf8.encode written ++ 0x22 :: rest) := by
      have between : octets (String.ofList written) = Utf8.encode written := by
        rw [octets, String.toList_ofList]
      rw [inQuotes, octets_append, octets_append, between, List.append_assoc, List.append_assoc]
      rfl
    rw [split]
    exact readTokens_closed _ done rest (readTokens_isInner written inner [] done _)
  · rw [Reading.run, step]
    rfl

mutual

theorem leads_value {tree : Tree} {s : String} : Renders tree s → ∀ (mayClose : Bool)
    (frames : List Frame), Leads s (.value mayClose frames) (.after tree frames)
  | .literal known, mayClose, frames => by
      simp only [List.mem_cons, List.not_mem_nil, or_false] at known
      rcases known with rfl | rfl | rfl
      · exact leads_word isWord_null mayClose frames
      · exact leads_word isWord_true mayClose frames
      · exact leads_word isWord_false mayClose frames
  | .number isNumber, mayClose, frames => leads_word isNumber.isWord mayClose frames
  | .text inner, _, _ => leads_text inner rfl
  | .emptyArray isGap, _, frames =>
      .after_mark .openArray rfl ((leads_mark .closeArray rfl).after_gap isGap)
  | .array elements, _, frames =>
      .after_mark .openArray rfl (leads_elements elements true [] frames)
  | .emptyObject isGap, _, frames =>
      .after_mark .openObject rfl ((leads_mark .closeObject rfl).after_gap isGap)
  | .object rendered, _, frames =>
      .after_mark .openObject rfl (leads_fields rendered true [] frames)

theorem leads_elements {values : List Tree} {s : String} : RendersElements values s →
    ∀ (mayClose : Bool) (before : List Tree) (frames : List Frame),
      Leads (s ++ "]") (.value mayClose (.element before :: frames))
        (.after (.array (before.reverse ++ values)) frames)
  | @RendersElements.last tree _ _ renders padded, mayClose, before, frames => by
      have value := (leads_value renders mayClose (.element before :: frames)).padded padded
      have closing : Leads "]" (.after tree (.element before :: frames))
          (.after (.array (tree :: before).reverse) frames) := leads_mark .closeArray rfl
      rw [← List.reverse_cons]
      exact value.append closing (ends_mark .closeArray "")
  | @RendersElements.more tree _ _ _ _ renders padded others, mayClose, before, frames => by
      have value := (leads_value renders mayClose (.element before :: frames)).padded padded
      have further := leads_elements others false (tree :: before) frames
      rw [List.reverse_cons, List.append_assoc, List.singleton_append] at further
      rw [String.append_assoc, String.append_assoc]
      exact value.before_mark .comma (.after_mark .comma rfl further)

theorem leads_fields {fields : List (List UInt8 × Tree)} {s : String} : RendersFields fields s →
    ∀ (mayClose : Bool) (before : List (List UInt8 × Tree)) (frames : List Frame),
      Leads (s ++ "\x7d") (.key mayClose before frames)
        (.after (.object (before.reverse ++ fields)) frames)
  | @RendersFields.last key _ tree _ _ inner paddedKey renders padded, mayClose, before,
      frames => by
      have name : Leads (inQuotes key) (.key mayClose before frames)
          (.colon before (Utf8.encode key) frames) := leads_text inner rfl
      have value := (leads_value renders false (.field before (Utf8.encode key) :: frames)).padded
        padded
      have closing : Leads "\x7d" (.after tree (.field before (Utf8.encode key) :: frames))
          (.after (.object ((Utf8.encode key, tree) :: before).reverse) frames) :=
        leads_mark .closeObject rfl
      rw [← List.reverse_cons, String.append_assoc, String.append_assoc]
      exact (name.padded paddedKey).before_mark .colon
        (.after_mark .colon rfl (value.append closing (ends_mark .closeObject "")))
  | @RendersFields.more key _ tree _ _ _ _ inner paddedKey renders padded others, mayClose, before,
      frames => by
      have name : Leads (inQuotes key) (.key mayClose before frames)
          (.colon before (Utf8.encode key) frames) := leads_text inner rfl
      have value := (leads_value renders false (.field before (Utf8.encode key) :: frames)).padded
        padded
      have further := leads_fields others false ((Utf8.encode key, tree) :: before) frames
      rw [List.reverse_cons, List.append_assoc, List.singleton_append] at further
      rw [String.append_assoc, String.append_assoc, String.append_assoc, String.append_assoc]
      exact (name.padded paddedKey).before_mark .colon
        (.after_mark .colon rfl (value.before_mark .comma (.after_mark .comma rfl further)))

end

/-- A rendering is read as its tree. -/
theorem read?_rendering {tree : Tree} {s t : String} (renders : Renders tree s)
    (padded : Padded s t) : read? (octets t) = some tree := by
  obtain ⟨ts, reads, built⟩ := (leads_value renders false []).padded padded
  have split := reads [] [] endsWord_nil
  rw [List.append_nil, List.append_nil, readTokens] at split
  simp only [read?, tokens?, split, Place.last?, Option.map_some, List.reverse_reverse,
    List.append_nil, built, Option.bind_eq_bind, Option.bind_some, Reading.result?]

end SenderAudit.Json
