import SenderAudit.Proofs.Json.Words

/-!
Values are read as they were written. The layouts differ in blanks only, so both give the same
tokens; the tokens build a tree, and the tree denotes the value.
-/
namespace SenderAudit.Json

mutual

def tokens : Json → List Token
  | .null => [.word "null".toList]
  | .bool true => [.word "true".toList]
  | .bool false => [.word "false".toList]
  | .number value => [.word (toString value).toList]
  | .text value => [.text (inner value.toList)]
  | .array [] => [.openArray, .closeArray]
  | .array (value :: rest) =>
      .openArray :: (tokens value ++ (tokensOfValues rest ++ [.closeArray]))
  | .object [] => [.openObject, .closeObject]
  | .object ((key, value) :: rest) =>
      .openObject :: .text (inner key.toList) :: .colon ::
        (tokens value ++ (tokensOfFields rest ++ [.closeObject]))

def tokensOfValues : List Json → List Token
  | [] => []
  | value :: rest => .comma :: (tokens value ++ tokensOfValues rest)

def tokensOfFields : List (String × Json) → List Token
  | [] => []
  | (key, value) :: rest =>
      .comma :: .text (inner key.toList) :: .colon :: (tokens value ++ tokensOfFields rest)

end

mutual

def tree : Json → Tree
  | .null => .word "null".toList
  | .bool true => .word "true".toList
  | .bool false => .word "false".toList
  | .number value => .word (toString value).toList
  | .text value => .text (inner value.toList)
  | .array values => .array (trees values)
  | .object fields => .object (treesOfFields fields)

def trees : List Json → List Tree
  | [] => []
  | value :: rest => tree value :: trees rest

def treesOfFields : List (String × Json) → List (List UInt8 × Tree)
  | [] => []
  | (key, value) :: rest => (inner key.toList, tree value) :: treesOfFields rest

end

/-! Tokens. -/

/-- A text is read as these tokens wherever what follows it satisfies `before`. -/
def Reads (before : List UInt8 → Prop) (s : String) (ts : List Token) : Prop :=
  ∀ done rest, before rest →
    readTokens .between done (octets s ++ rest) = readTokens .between (ts.reverse ++ done) rest

def Anything (_ : List UInt8) : Prop :=
  True

theorem Reads.append {before before' : List UInt8 → Prop} {s t : String} {ts us : List Token}
    (first : Reads before s ts) (second : Reads before' t us)
    (meets : ∀ rest, before' rest → before (octets t ++ rest)) :
    Reads before' (s ++ t) (ts ++ us) := by
  intro done rest follows
  rw [octets_append, List.append_assoc, first done _ (meets rest follows),
    second _ rest follows, List.reverse_append, List.append_assoc]

theorem Reads.before_word {s : String} {ts : List Token} (reads : Reads Anything s ts) :
    Reads EndsWord s ts :=
  fun done rest _ => reads done rest trivial

theorem reads_word (s : String) (isWord : IsWord s) : Reads EndsWord s [.word s.toList] :=
  fun done rest ends => readTokens_word s.toList isWord.nonempty done rest isWord.chars ends

theorem reads_quoted (s : String) : Reads Anything (quoted s) [.text (inner s.toList)] :=
  fun done rest _ => readTokens_quoted s done rest

theorem reads_colon (layout : Layout) : Reads Anything layout.colon [.colon] := by
  intro done rest _
  cases layout <;> rfl

theorem reads_comma : Reads Anything "," [.comma] :=
  fun _ _ _ => rfl

/-- Between the parts of a value and around it, only these are written. -/
def Blank (s : String) : Prop :=
  ∀ c ∈ s.toList, c = ' ' ∨ c = '\n'

theorem blank_gap (layout : Layout) (depth : Nat) : Blank (layout.gap depth) := by
  intro c member
  cases layout with
  | compact => cases member
  | indented =>
      rw [Layout.gap, String.toList_append] at member
      rcases List.mem_append.mp member with newline | blanks
      · exact Or.inr (List.mem_singleton.mp newline)
      · rw [String.toList_ofList] at blanks
        exact Or.inl (List.eq_of_mem_replicate blanks)

theorem Blank.isGap {s : String} (blank : Blank s) : IsGap s.toList := by
  intro c member
  rcases blank c member with rfl | rfl <;> decide

theorem reads_blank (s : String) (blank : Blank s) : Reads Anything s [] :=
  fun done rest _ => readTokens_gap s.toList blank.isGap done rest

/-! Where words end. -/

theorem endsWord_blank (s : String) (blank : Blank s) (rest : List UInt8)
    (ends : EndsWord rest) : EndsWord (octets s ++ rest) :=
  endsWord_gap s.toList blank.isGap rest ends

theorem endsWord_comma (s : String) (rest : List UInt8) : EndsWord (octets ("," ++ s) ++ rest) := by
  rw [octets_append]
  exact endsWord_cons 0x2C _ (by decide)

theorem endsWord_values (layout : Layout) (gap : String) (depth : Nat) (values : List Json)
    (rest : List UInt8) (ends : EndsWord rest) :
    EndsWord (octets (writeValues layout gap depth values) ++ rest) := by
  cases values with
  | nil => exact ends
  | cons value others =>
      simp only [writeValues, String.append_assoc]
      exact endsWord_comma _ rest

theorem endsWord_fields (layout : Layout) (gap : String) (depth : Nat)
    (fields : List (String × Json)) (rest : List UInt8) (ends : EndsWord rest) :
    EndsWord (octets (writeFields layout gap depth fields) ++ rest) := by
  cases fields with
  | nil => exact ends
  | cons field others =>
      simp only [writeFields, String.append_assoc]
      exact endsWord_comma _ rest

theorem endsWord_closing (layout : Layout) (depth : Nat) (rest : List UInt8) :
    EndsWord (octets (layout.gap depth ++ "]") ++ rest) ∧
      EndsWord (octets (layout.gap depth ++ "\x7d") ++ rest) := by
  rw [octets_append, octets_append, List.append_assoc, List.append_assoc]
  exact ⟨endsWord_blank _ (blank_gap layout depth) _ (endsWord_cons 0x5D _ (by decide)),
    endsWord_blank _ (blank_gap layout depth) _ (endsWord_cons 0x7D _ (by decide))⟩

mutual

/-- The tokens of a written value do not depend on the layout. -/
theorem reads_write (layout : Layout) (depth : Nat) :
    (value : Json) → Reads EndsWord (write layout depth value) (tokens value)
  | .null => reads_word _ isWord_null
  | .bool true => reads_word _ isWord_true
  | .bool false => reads_word _ isWord_false
  | .number value => reads_word _ (isWord_number value)
  | .text value => (reads_quoted value).before_word
  | .array [] => by
      rw [write]
      exact fun _ _ _ => rfl
  | .array (value :: others) => by
      have opening : Reads Anything "[" [.openArray] := fun _ _ _ => rfl
      have gap := reads_blank _ (blank_gap layout (depth + 1))
      have first := reads_write layout (depth + 1) value
      have further := reads_writeValues layout _ (blank_gap layout (depth + 1)) (depth + 1) others
      have closing : Reads Anything (layout.gap depth ++ "]") [.closeArray] :=
        (reads_blank _ (blank_gap layout depth)).append (fun _ _ _ => rfl) fun _ _ => trivial
      -- What follows an element, be it a comma, a gap or the bracket, ends a word.
      have parts := first.append (further.append closing fun rest _ =>
        (endsWord_closing layout depth rest).1) fun rest _ => by
          rw [octets_append, List.append_assoc]
          exact endsWord_values _ _ _ _ _ (endsWord_closing layout depth rest).1
      simp only [write, String.append_assoc]
      exact (opening.append (gap.append parts fun _ _ => trivial) fun _ _ => trivial).before_word
  | .object [] => by
      rw [write]
      exact fun _ _ _ => rfl
  | .object ((key, value) :: others) => by
      have opening : Reads Anything "\x7b" [.openObject] := fun _ _ _ => rfl
      have gap := reads_blank _ (blank_gap layout (depth + 1))
      have first := reads_write layout (depth + 1) value
      have further := reads_writeFields layout _ (blank_gap layout (depth + 1)) (depth + 1) others
      have closing : Reads Anything (layout.gap depth ++ "\x7d") [.closeObject] :=
        (reads_blank _ (blank_gap layout depth)).append (fun _ _ _ => rfl) fun _ _ => trivial
      have parts := first.append (further.append closing fun rest _ =>
        (endsWord_closing layout depth rest).2) fun rest _ => by
          rw [octets_append, List.append_assoc]
          exact endsWord_fields _ _ _ _ _ (endsWord_closing layout depth rest).2
      have field := (reads_quoted key).append ((reads_colon layout).append parts fun _ _ => trivial)
        fun _ _ => trivial
      simp only [write, String.append_assoc]
      exact (opening.append (gap.append field fun _ _ => trivial) fun _ _ => trivial).before_word

theorem reads_writeValues (layout : Layout) (gap : String) (blank : Blank gap) (depth : Nat) :
    (values : List Json) →
      Reads EndsWord (writeValues layout gap depth values) (tokensOfValues values)
  | [] => fun _ _ _ => rfl
  | value :: others => by
      have first := reads_write layout depth value
      have parts := first.append (reads_writeValues layout gap blank depth others)
        (endsWord_values layout gap depth others)
      simp only [writeValues, String.append_assoc]
      exact reads_comma.append ((reads_blank gap blank).append parts fun _ _ => trivial)
        fun _ _ => trivial

theorem reads_writeFields (layout : Layout) (gap : String) (blank : Blank gap) (depth : Nat) :
    (fields : List (String × Json)) →
      Reads EndsWord (writeFields layout gap depth fields) (tokensOfFields fields)
  | [] => fun _ _ _ => rfl
  | (key, value) :: others => by
      have first := reads_write layout depth value
      have parts := first.append (reads_writeFields layout gap blank depth others)
        (endsWord_fields layout gap depth others)
      have field := (reads_quoted key).append ((reads_colon layout).append parts fun _ _ => trivial)
        fun _ _ => trivial
      simp only [writeFields, String.append_assoc]
      exact reads_comma.append ((reads_blank gap blank).append field fun _ _ => trivial)
        fun _ _ => trivial

end

/-! Trees. -/

mutual

theorem run_tokens : (value : Json) → ∀ (mayClose : Bool) (frames : List Frame)
    (rest : List Token),
    Reading.run (.value mayClose frames) (tokens value ++ rest) =
      Reading.run (.after (tree value) frames) rest
  | .null, _, _, _ => rfl
  | .bool true, _, _, _ => rfl
  | .bool false, _, _, _ => rfl
  | .number value, _, _, _ => by
      have word := (isWord_number value).word
      simp only [tokens, tree, List.singleton_append, Reading.run, Reading.next?, word,
        ↓reduceIte]
  | .text _, _, _, _ => rfl
  | .array [], _, _, _ => rfl
  | .array (value :: others), mayClose, frames, rest => by
      have further := run_tokensOfValues others (tree value) [] frames rest
      rw [tokens, List.cons_append, List.append_assoc, List.append_assoc, Reading.run]
      exact (run_tokens value true (.element [] :: frames) _).trans further
  | .object [], _, _, _ => rfl
  | .object ((key, value) :: others), mayClose, frames, rest => by
      have further := run_tokensOfFields others (tree value) [] (inner key.toList) frames rest
      rw [tokens, List.cons_append, List.cons_append, List.cons_append, List.append_assoc,
        List.append_assoc, Reading.run]
      exact (run_tokens value false (.field [] (inner key.toList) :: frames) _).trans further

theorem run_tokensOfValues : (values : List Json) → ∀ (last : Tree) (before : List Tree)
    (frames : List Frame) (rest : List Token),
    Reading.run (.after last (.element before :: frames))
        (tokensOfValues values ++ ([.closeArray] ++ rest)) =
      Reading.run (.after (.array ((last :: before).reverse ++ trees values)) frames) rest
  | [], last, before, frames, rest => by
      rw [trees, List.append_nil]
      rfl
  | value :: others, last, before, frames, rest => by
      have first := run_tokens value false (.element (last :: before) :: frames)
        (tokensOfValues others ++ ([.closeArray] ++ rest))
      have further := run_tokensOfValues others (tree value) (last :: before) frames rest
      rw [tokensOfValues, List.cons_append, List.append_assoc, Reading.run, trees]
      rw [List.reverse_cons, List.append_assoc, List.singleton_append] at further
      exact first.trans further

theorem run_tokensOfFields : (fields : List (String × Json)) → ∀ (last : Tree)
    (before : List (List UInt8 × Tree)) (key : List UInt8) (frames : List Frame)
    (rest : List Token),
    Reading.run (.after last (.field before key :: frames))
        (tokensOfFields fields ++ ([.closeObject] ++ rest)) =
      Reading.run (.after (.object (((key, last) :: before).reverse ++ treesOfFields fields))
        frames) rest
  | [], last, before, key, frames, rest => by
      rw [treesOfFields, List.append_nil]
      rfl
  | (name, value) :: others, last, before, key, frames, rest => by
      have first := run_tokens value false
        (.field ((key, last) :: before) (inner name.toList) :: frames)
        (tokensOfFields others ++ ([.closeObject] ++ rest))
      have further := run_tokensOfFields others (tree value) ((key, last) :: before)
        (inner name.toList) frames rest
      rw [tokensOfFields, List.cons_append, List.cons_append, List.cons_append,
        List.append_assoc, Reading.run, treesOfFields]
      rw [List.reverse_cons, List.append_assoc, List.singleton_append] at further
      exact first.trans further

end

/-- A written value is read as its tree, with blanks after it or none. -/
theorem read?_write (layout : Layout) (depth : Nat) (value : Json) (after : String)
    (blank : Blank after) :
    read? (octets (write layout depth value ++ after)) = some (tree value) := by
  have reads := (reads_write layout depth value).append (reads_blank after blank).before_word
    (endsWord_blank after blank)
  have split := reads [] [] endsWord_nil
  have built := run_tokens value false [] []
  rw [List.append_nil] at built
  rw [List.append_nil, List.append_nil, List.append_nil, readTokens] at split
  simp only [read?, tokens?, split, Place.last?, Option.map_some, List.reverse_reverse,
    List.append_nil, built, Option.bind_eq_bind, Option.bind_some, Reading.run, Reading.result?]

/-! Values. -/

mutual

/-- The value that a tree denotes, if all numbers in it are whole. -/
def ofTree? : Tree → Option Json
  | .word letters => ofWord? letters
  | .text octets => (characters? octets).map .text
  | .array values => (ofTrees? values).map .array
  | .object fields => (ofFields? fields).map .object

def ofTrees? : List Tree → Option (List Json)
  | [] => some []
  | t :: rest => do
      let value ← ofTree? t
      let values ← ofTrees? rest
      some (value :: values)

def ofFields? : List (List UInt8 × Tree) → Option (List (String × Json))
  | [] => some []
  | (key, t) :: rest => do
      let key ← characters? key
      let value ← ofTree? t
      let fields ← ofFields? rest
      some ((key, value) :: fields)

end

mutual

theorem ofTree?_tree : (value : Json) → ofTree? (tree value) = some value
  | .null => rfl
  | .bool true => rfl
  | .bool false => rfl
  | .number value => ofWord?_number value
  | .text value => by rw [tree, ofTree?, characters?_inner]; rfl
  | .array values => by rw [tree, ofTree?, ofTrees?_trees values]; rfl
  | .object fields => by rw [tree, ofTree?, ofFields?_treesOfFields fields]; rfl

theorem ofTrees?_trees : (values : List Json) → ofTrees? (trees values) = some values
  | [] => rfl
  | value :: rest => by
      rw [trees, ofTrees?, ofTree?_tree value, ofTrees?_trees rest]
      rfl

theorem ofFields?_treesOfFields : (fields : List (String × Json)) →
    ofFields? (treesOfFields fields) = some fields
  | [] => rfl
  | (key, value) :: rest => by
      rw [treesOfFields, ofFields?, characters?_inner, ofTree?_tree value,
        ofFields?_treesOfFields rest]
      rfl

end

def parse? (s : String) : Option Json :=
  (read? (octets s)).bind ofTree?

theorem parse?_write (layout : Layout) (depth : Nat) (value : Json) (after : String)
    (blank : Blank after) : parse? (write layout depth value ++ after) = some value := by
  rw [parse?, read?_write layout depth value after blank, Option.bind_some, ofTree?_tree]

/-! Values on one line. -/

def OneLine (s : String) : Prop :=
  '\n' ∉ s.toList

instance (s : String) : Decidable (OneLine s) :=
  inferInstanceAs (Decidable ('\n' ∉ s.toList))

theorem oneLine_append (s t : String) : OneLine (s ++ t) ↔ OneLine s ∧ OneLine t := by
  rw [OneLine, String.toList_append, List.mem_append, not_or, OneLine, OneLine]

theorem newline_written (c : Char) (s : List Char) (written : Written c s) : '\n' ∉ s := by
  intro member
  cases written with
  | plain _ _ printable =>
      rw [← List.mem_singleton.mp member] at printable
      exact absurd printable (by decide)
  | letter letter _ isLetter _ _ =>
      rcases List.mem_cons.mp member with backslash | isNewline
      · exact absurd backslash (by decide)
      · rw [← List.mem_singleton.mp isNewline] at isLetter
        exact absurd isLetter (by decide)
  | digits control =>
      have table : ∀ n < 0x20, '\n' ∉ '\\' :: 'u' :: '0' :: '0' :: lowerDigits n := by decide
      exact table c.toNat control member

theorem oneLine_quoted (s : String) : OneLine (quoted s) := by
  rw [quoted, oneLine_append, oneLine_append]
  refine ⟨⟨by decide, fun member => ?_⟩, by decide⟩
  rw [String.toList_ofList] at member
  obtain ⟨c, _, inside⟩ := List.mem_flatMap.mp member
  exact newline_written c _ (written_escaped c) inside

theorem oneLine_word (s : String) (isWord : IsWord s) : OneLine s :=
  fun member => absurd (isWord.chars _ member) (by decide)

mutual

theorem oneLine_write (depth : Nat) : (value : Json) → OneLine (write .compact depth value)
  | .null => oneLine_word _ isWord_null
  | .bool true => oneLine_word _ isWord_true
  | .bool false => oneLine_word _ isWord_false
  | .number value => oneLine_word _ (isWord_number value)
  | .text value => oneLine_quoted value
  | .array [] => by
      rw [write]
      decide
  | .array (value :: others) => by
      have first := oneLine_write (depth + 1) value
      have further := oneLine_writeValues (depth + 1) others
      simp only [write, Layout.gap, String.append_assoc, oneLine_append]
      exact ⟨by decide, by decide, first, further, by decide, by decide⟩
  | .object [] => by
      rw [write]
      decide
  | .object ((key, value) :: others) => by
      have first := oneLine_write (depth + 1) value
      have further := oneLine_writeFields (depth + 1) others
      simp only [write, Layout.gap, Layout.colon, String.append_assoc, oneLine_append]
      exact ⟨by decide, by decide, oneLine_quoted key, by decide, first, further, by decide,
        by decide⟩

theorem oneLine_writeValues (depth : Nat) : (values : List Json) →
    OneLine (writeValues .compact "" depth values)
  | [] => by
      rw [writeValues]
      decide
  | value :: others => by
      have first := oneLine_write depth value
      have further := oneLine_writeValues depth others
      simp only [writeValues, String.append_assoc, oneLine_append]
      exact ⟨by decide, by decide, first, further⟩

theorem oneLine_writeFields (depth : Nat) : (fields : List (String × Json)) →
    OneLine (writeFields .compact "" depth fields)
  | [] => by
      rw [writeFields]
      decide
  | (key, value) :: others => by
      have first := oneLine_write depth value
      have further := oneLine_writeFields depth others
      simp only [writeFields, Layout.colon, String.append_assoc, oneLine_append]
      exact ⟨by decide, by decide, oneLine_quoted key, by decide, first, further⟩

end

end SenderAudit.Json
