import SenderAudit.Proofs.CommandLine.Arguments
import SenderAudit.Proofs.CommandLine.Outputs
import SenderAudit.Proofs.Text
import SenderAudit.Proofs.Utf8

/-!
Domains from the input. They are found again however the input is laid out: with blanks
around them, between empty lines and comments, and with either kind of line end. A run that
reads them is the run that has them among its arguments, after those that are there.
-/
namespace SenderAudit.CommandLine

/-- A domain that can stand in the input and among the arguments alike. -/
structure IsPlainDomain (d : String) : Prop where
  nonempty : d ≠ ""
  trimmed : Text.trimmed d = d
  oneLine : '\n' ∉ d.toList
  noComment : d.toList.head? ≠ some '#'
  noHyphen : d.toList.head? ≠ some '-'

def IsGap (gap : List Char) : Prop :=
  ∀ c ∈ gap, Text.isBlank c = true ∧ c ≠ '\n'

/-- What a line gives, its end left out: nothing if it is blank or a comment, or one domain. -/
inductive InputLine : List Char → List String → Prop
  | blank {gap : List Char} (isGap : IsGap gap) : InputLine gap []
  | comment {gap : List Char} (text : List Char) (isGap : IsGap gap) (oneLine : '\n' ∉ text) :
      InputLine (gap ++ '#' :: text) []
  | domain {before after : List Char} (d : String) (first : IsGap before) (last : IsGap after) :
      InputLine (before ++ (d.toList ++ after)) [d]

def lineEnds : List (List Char) :=
  [['\n'], ['\r', '\n']]

/-- An input that gives these domains, line by line. An end after the last line begins
another one, which is empty. -/
inductive InputText : List Char → List String → Prop
  | last {line : List Char} {domains : List String} (isLine : InputLine line domains) :
      InputText line domains
  | more {line lineEnd rest : List Char} {domains others : List String}
      (isLine : InputLine line domains) (isEnd : lineEnd ∈ lineEnds)
      (later : InputText rest others) :
      InputText (line ++ (lineEnd ++ rest)) (domains ++ others)

theorem gap_oneLine {gap : List Char} (isGap : IsGap gap) : '\n' ∉ gap :=
  fun member => (isGap '\n' member).2 rfl

theorem trim_before {gap : List Char} (isGap : IsGap gap) (s : List Char) :
    Text.trim (gap ++ s) = Text.trim s := by
  have dropped : Text.trimStart (gap ++ s) = Text.trimStart s :=
    List.dropWhile_append_of_pos fun c member => (isGap c member).1
  rw [← Text.trim_trimStart, dropped, Text.trim_trimStart]

theorem trim_after {gap : List Char} (isGap : IsGap gap) (s : List Char) :
    Text.trim (s ++ gap) = Text.trim s := by
  have dropped : Text.trimEnd (s ++ gap) = Text.trimEnd s :=
    Text.dropTail_append _ s gap fun c member => (isGap c member).1
  rw [← Text.trim_trimEnd, dropped, Text.trim_trimEnd]

def givesDomain (line : List Char) : Bool :=
  !line.isEmpty && line.head? != some '#'

-- The end of a line may bring a carriage return, which is one more blank.
theorem InputLine.return {line : List Char} {domains : List String}
    (isLine : InputLine line domains) : InputLine (line ++ ['\r']) domains := by
  have more : ∀ {gap : List Char}, IsGap gap → IsGap (gap ++ ['\r']) := by
    intro gap isGap c member
    rcases List.mem_append.mp member with inGap | last
    · exact isGap c inGap
    · rw [List.mem_singleton.mp last]
      decide
  cases isLine with
  | blank isGap => exact .blank (more isGap)
  | comment text isGap oneLine =>
      rw [List.append_assoc, List.cons_append]
      refine .comment _ isGap fun member => ?_
      rcases List.mem_append.mp member with inText | last
      · exact oneLine inText
      · exact absurd (List.mem_singleton.mp last) (by decide)
  | domain d first last =>
      rw [List.append_assoc, List.append_assoc]
      exact .domain d first (more last)

section Line

variable {line : List Char} {domains : List String} (isLine : InputLine line domains)
  (plain : ∀ d ∈ domains, IsPlainDomain d)

include isLine plain

theorem InputLine.oneLine : '\n' ∉ line := by
  intro member
  cases isLine with
  | blank isGap => exact gap_oneLine isGap member
  | comment text isGap oneLine =>
      rcases List.mem_append.mp member with inGap | later
      · exact gap_oneLine isGap inGap
      · rcases List.mem_cons.mp later with hash | inText
        · exact absurd hash (by decide)
        · exact oneLine inText
  | domain d first last =>
      rcases List.mem_append.mp member with inGap | later
      · exact gap_oneLine first inGap
      · rcases List.mem_append.mp later with inDomain | inGap
        · exact (plain d List.mem_cons_self).oneLine inDomain
        · exact gap_oneLine last inGap

theorem InputLine.domains_eq :
    ([Text.trim line].filter givesDomain).map String.ofList = domains := by
  cases isLine with
  | blank isGap =>
      have empty : Text.trim line = [] := by
        have trimmed := trim_before isGap []
        rwa [List.append_nil] at trimmed
      rw [empty]
      rfl
  | comment text isGap oneLine =>
      have kept : Text.trim ('#' :: text) = '#' :: Text.trimEnd text :=
        Text.trim_append_cons [] text '#' (by decide)
      rw [trim_before isGap, kept]
      rfl
  | domain d first last =>
      obtain ⟨nonempty, trimmed, _, noComment, _⟩ := plain d List.mem_cons_self
      have kept : Text.trim d.toList = d.toList := by
        rw [← String.toList_ofList (l := Text.trim d.toList)]
        exact congrArg String.toList trimmed
      have gives : givesDomain d.toList = true := by
        simp [givesDomain, nonempty, noComment]
      rw [trim_before first, trim_after last, kept, List.filter_cons_of_pos gives,
        List.filter_nil, List.map_singleton, String.ofList_toList]

end Line

theorem domainLines_line (line rest : List Char) (oneLine : '\n' ∉ line) :
    domainLines (line ++ '\n' :: rest) =
      ([Text.trim line].filter givesDomain).map String.ofList ++ domainLines rest := by
  have whole : Text.fields '\n' line = [line] :=
    Text.splitWhere_whole _ line fun c member => by
      apply beq_eq_false_iff_ne.mpr
      rintro rfl
      exact oneLine member
  have split : Text.fields '\n' (line ++ '\n' :: rest) = line :: Text.fields '\n' rest := by
    rw [Text.fields, Text.splitWhere_append _ _ _ _ rfl]
    exact congrArg (· ++ Text.fields '\n' rest) whole
  rw [domainLines, split, List.map_cons, ← List.singleton_append, List.filter_append,
    List.map_append]
  rfl

theorem InputText.domains_eq {text : List Char} {domains : List String}
    (layout : InputText text domains) (plain : ∀ d ∈ domains, IsPlainDomain d) :
    domainLines text = domains := by
  induction layout with
  | @last line domains isLine =>
      have alone : Text.fields '\n' line = [line] :=
        Text.splitWhere_whole _ line fun c member => by
          apply beq_eq_false_iff_ne.mpr
          rintro rfl
          exact isLine.oneLine plain member
      rw [domainLines, alone]
      exact isLine.domains_eq plain
  | @more line lineEnd rest domains others isLine isEnd later ih =>
      obtain ⟨here, there⟩ := List.forall_mem_append.mp plain
      -- A carriage return at the end goes to the line.
      obtain ⟨line', isLine', ended⟩ : ∃ line', InputLine line' domains ∧
          line ++ (lineEnd ++ rest) = line' ++ '\n' :: rest := by
        rcases List.mem_cons.mp isEnd with rfl | isReturn
        · exact ⟨line, isLine, rfl⟩
        · cases List.mem_singleton.mp isReturn
          exact ⟨line ++ ['\r'], isLine.return, by simp⟩
      rw [ended, domainLines_line line' rest (isLine'.oneLine here), isLine'.domains_eq here,
        ih there]

/-! What a run does depends on the domains, wherever they come from. -/

theorem check_naming (server : Doh.Server) (o : Options) (domains : List String) (reads : Bool) :
    check server (o.naming domains reads) = check server o := rfl

theorem output_naming (o : Options) (domains : List String) (reads : Bool) :
    output (o.naming domains reads) = output o := rfl

theorem runChecks_naming (server : Doh.Server) (o : Options) (domains others : List String)
    (reads reads' : Bool) (input input' : List UInt8)
    (same : allDomains? (o.naming domains reads) input =
      allDomains? (o.naming others reads') input') :
    runChecks server (o.naming domains reads) input =
      runChecks server (o.naming others reads') input' := by
  simp only [runChecks, same, check_naming, output_naming]

/-- Domains in the input are checked like domains among the arguments. With the flag to read
the input, arguments that name some domains come to what the same options come to with those
domains and then the ones that the input gives; and there are such arguments. -/
theorem run_of_input (server : Doh.Server) (args opts named given : List String)
    (text : List Char) (arranged : Arranged args opts named true)
    (plain : ∀ d ∈ given, IsPlainDomain d) (layout : InputText text given) :
    (∀ args' input, Arranged args' opts (named ++ given) false →
      run server args (Utf8.encode text) = run server args' input) ∧
    ∃ args', Arranged args' opts (named ++ given) false := by
  constructor
  · intro args' input arranged'
    have command := arranged.command
    have command' := arranged'.command
    cases meant : Command.ofArguments opts with
    | check o =>
        rw [meant] at command command'
        have domains : allDomains? (o.naming named true) (Utf8.encode text) =
            allDomains? (o.naming (named ++ given) false) input := by
          simp [allDomains?, Options.naming, Utf8.decode?_encode, layout.domains_eq plain]
        rw [run, run, command, command']
        exact runChecks_naming server o _ _ _ _ _ _ domains
    | _ =>
        rw [meant] at command command'
        rw [run, run, command, command']
        rfl
  · exact arranged.exists_adding given fun d member => read_value d (plain d member).noHyphen

def laidOutInput : List Char :=
  " # names\r\n\n\ta..b\u3000\nx,\"y\" ".toList

theorem laidOutInput_gives : InputText laidOutInput ["a..b", "x,\"y\""] := by
  have pieces : laidOutInput = ([' '] ++ '#' :: " names".toList) ++ (['\r', '\n'] ++
      ([] ++ (['\n'] ++ ((['\t'] ++ ("a..b".toList ++ ['\u3000'])) ++ (['\n'] ++
        ([] ++ ("x,\"y\"".toList ++ [' '])))))))  := by
    decide +kernel
  have comment : InputLine ([' '] ++ '#' :: " names".toList) [] :=
    .comment _ (by simp [IsGap]; decide) (by decide +kernel)
  have empty : InputLine [] [] := .blank nofun
  have first : InputLine (['\t'] ++ ("a..b".toList ++ ['\u3000'])) ["a..b"] :=
    .domain "a..b" (by simp [IsGap]; decide) (by simp [IsGap]; decide)
  have second : InputLine ([] ++ ("x,\"y\"".toList ++ [' '])) ["x,\"y\""] :=
    .domain "x,\"y\"" nofun (by simp [IsGap]; decide)
  rw [pieces]
  exact .more comment (by decide) (.more empty (by decide) (.more first (by decide)
    (.last second)))

theorem laidOutInput_run :
    let fromInput := run (fun _ => .lost) ["--stdin", "--format", "csv", "b..c"]
      (Utf8.encode laidOutInput)
    let fromArguments := run (fun _ => .lost) ["b..c", "--format", "csv", "a..b", "x,\"y\""] []
    let result := fromInput.result (.flat .willing) []
    fromInput = fromArguments ∧ result.status = 2 ∧ result.printed = lines [
      "input,valid,total,spf,dkim,dmarc,spf_all,dkim_selectors,dmarc_policy,error",
      "b..c,false,,,,,,,,invalid domain: invalid query name 'b..c': empty label",
      "a..b,false,,,,,,,,invalid domain: invalid query name 'a..b': empty label",
      "\"x,\"\"y\"\"\",false,,,,,,,,\"invalid domain: invalid query name 'x,\"\"y\"\"': " ++
        "label 'x,\"\"y\"\"' has invalid chars\""] := by
  have plain : ∀ d ∈ ["a..b", "x,\"y\""], IsPlainDomain d := by
    have each : ∀ d ∈ ["a..b", "x,\"y\""], d ≠ "" ∧ Text.trimmed d = d ∧ '\n' ∉ d.toList ∧
        d.toList.head? ≠ some '#' ∧ d.toList.head? ≠ some '-' := by decide +kernel
    intro d member
    obtain ⟨nonempty, trimmed, oneLine, noComment, noHyphen⟩ := each d member
    exact ⟨nonempty, trimmed, oneLine, noComment, noHyphen⟩
  have isFormat : IsOption ["--format", "csv"] := by
    have isLong : Argument.read "--format" = .long "format" none := by decide +kernel
    have known : longOptions.lookup "format" = some (.inl .format) := by decide +kernel
    exact .setting "csv" isLong known
  have isValue : Argument.read "b..c" = .value "b..c" := by decide +kernel
  have arranged : Arranged ["--stdin", "--format", "csv", "b..c"] ["--format", "csv"] ["b..c"]
      true := .stdin (.option isFormat (.domain isValue .nothing))
  have values : ∀ d ∈ ["a..b", "x,\"y\""], Argument.read d = .value d :=
    fun d member => read_value d (plain d member).noHyphen
  have arranged' : Arranged ["b..c", "--format", "csv", "a..b", "x,\"y\""] ["--format", "csv"]
      ["b..c", "a..b", "x,\"y\""] false :=
    .domain isValue (.option isFormat (Arranged.nothing.after_domains _ values))
  obtain ⟨same, _⟩ := run_of_input (fun _ => .lost) _ _ _ _ _ arranged plain laidOutInput_gives
  exact ⟨same _ [] arranged', by decide +kernel, by decide +kernel⟩

end SenderAudit.CommandLine
