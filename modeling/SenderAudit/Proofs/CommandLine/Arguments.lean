import SenderAudit.CommandLine.Run

/-!
The order of arguments. Options, domains and the flag to read the input may stand in any
order: what they come to is told by the options alone, once the domains and the flag are put
in. Options that make no sense, or that ask for help, come to the same wherever they stand.
-/
namespace SenderAudit.CommandLine

/-- The arguments of one option other than the flag to read the input, whether it makes sense
or not. Settings take the next argument for their value unless it is attached. -/
inductive IsOption : List String → Prop
  | attached {arg name value : String} (isLong : Argument.read arg = .long name (some value)) :
      IsOption [arg]
  | setting {arg name : String} {setting : Setting} (value : String)
      (isLong : Argument.read arg = .long name none)
      (known : longOptions.lookup name = some (.inl setting)) : IsOption [arg, value]
  | flag {arg name : String} {flag : Flag} (isLong : Argument.read arg = .long name none)
      (known : longOptions.lookup name = some (.inr flag)) (other : flag ≠ .stdin) :
      IsOption [arg]
  | unknown {arg name : String} (isLong : Argument.read arg = .long name none)
      (absent : longOptions.lookup name = none) : IsOption [arg]
  | short {arg : String} {letters : List Char} (isShort : Argument.read arg = .short letters) :
      IsOption [arg]

/-- Arguments that give these options and these domains, each in order, and tell whether to
read the input as well. After the end of the options all is a domain, and a setting that lacks
its value can only come last. -/
inductive Arranged : (args opts domains : List String) → (reads : Bool) → Prop
  | nothing : Arranged [] [] [] false
  | option {piece args opts domains : List String} {reads : Bool} (isOption : IsOption piece)
      (others : Arranged args opts domains reads) :
      Arranged (piece ++ args) (piece ++ opts) domains reads
  | domain {arg : String} {args opts domains : List String} {reads : Bool}
      (isValue : Argument.read arg = .value arg) (others : Arranged args opts domains reads) :
      Arranged (arg :: args) opts (arg :: domains) reads
  | stdin {args opts domains : List String} (others : Arranged args opts domains false) :
      Arranged ("--stdin" :: args) opts domains true
  | endOfOptions (domains : List String) : Arranged ("--" :: domains) [] domains false
  | unfinished {arg name : String} {setting : Setting}
      (isLong : Argument.read arg = .long name none)
      (known : longOptions.lookup name = some (.inl setting)) : Arranged [arg] [arg] [] false

def Options.naming (o : Options) (domains : List String) (reads : Bool) : Options :=
  { o with domains := o.domains ++ domains, stdin := reads }

def Command.naming (domains : List String) (reads : Bool) : Command → Command
  | .check o => .check (o.naming domains reads)
  | command => command

theorem Options.naming_naming (o : Options) (domains more : List String) (reads already : Bool) :
    (o.naming domains already).naming more reads = o.naming (domains ++ more) reads := by
  simp [naming, List.append_assoc]

theorem Options.naming_self (o : Options) : o.naming [] o.stdin = o := by
  simp [naming]

-- No setting looks at the domains or at the flag.
theorem Options.set?_naming (o : Options) (domains : List String) (reads : Bool)
    (value : String) (setting : Setting) :
    (o.naming domains reads).set? value setting =
      (o.set? value setting).map (·.naming domains reads) := by
  cases setting with
  | out => cases given : o.out.isSome <;> simp [set?, naming, given]
  | format => cases given : o.format.isSome <;> simp [set?, naming, given]
  | selector => rfl
  | endpoint => cases given : o.endpoint.isSome <;> simp [set?, naming, given]
  | timeout =>
      cases given : o.timeoutMs.isSome <;>
        simp [set?, naming, given, Function.comp_def]

/-- An option leads on to other options, or it decides what to do. The domains before it and
the flag have no part in that. -/
theorem IsOption.reads {piece : List String} (isOption : IsOption piece) (o : Options) :
    (∃ o' : Options, ∀ domains reads rest, readArguments (o.naming domains reads) (piece ++ rest) =
      readArguments (o'.naming domains reads) rest) ∨
    ∃ command, (∀ domains reads, command = Command.naming domains reads command) ∧
      ∀ domains reads rest,
        readArguments (o.naming domains reads) (piece ++ rest) = command := by
  cases isOption with
  | @attached arg name value isLong =>
      cases known : longOptions.lookup name with
      | none => exact Or.inr ⟨.misuse, fun _ _ => rfl, by simp [readArguments, isLong, known]⟩
      | some option =>
          cases option with
          | inr flag =>
              refine Or.inr ⟨.misuse, fun _ _ => rfl, ?_⟩
              cases flag <;> simp [readArguments, isLong, known]
          | inl setting =>
              cases set : o.set? value setting with
              | none =>
                  exact Or.inr ⟨.misuse, fun _ _ => rfl,
                    by simp [readArguments, isLong, known, Options.set?_naming, set]⟩
              | some o' =>
                  exact Or.inl ⟨o',
                    by simp [readArguments, isLong, known, Options.set?_naming, set]⟩
  | @setting arg name setting value isLong known =>
      cases isValue : Argument.read value with
      | value text =>
          cases set : o.set? value setting with
          | none =>
              exact Or.inr ⟨.misuse, fun _ _ => rfl,
                by simp [readArguments, isLong, known, isValue, Options.set?_naming, set]⟩
          | some o' =>
              exact Or.inl ⟨o',
                by simp [readArguments, isLong, known, isValue, Options.set?_naming, set]⟩
      | _ =>
          exact Or.inr ⟨.misuse, fun _ _ => rfl,
            by simp [readArguments, isLong, known, isValue, Options.set?_naming]⟩
  | @flag arg name flag isLong known other =>
      cases flag with
      | stdin => exact absurd rfl other
      | help => exact Or.inr ⟨.help, fun _ _ => rfl, by simp [readArguments, isLong, known]⟩
      | version =>
          exact Or.inr ⟨.version, fun _ _ => rfl, by simp [readArguments, isLong, known]⟩
  | @unknown arg name isLong absent =>
      exact Or.inr ⟨.misuse, fun _ _ => rfl, by simp [readArguments, isLong, absent]⟩
  | @short arg letters isShort =>
      refine Or.inr ⟨shortCommand letters, ?_, by simp [readArguments, isShort]⟩
      intro _ _
      unfold shortCommand
      split <;> rfl

theorem Arranged.readArguments_eq {args opts domains : List String} {reads : Bool}
    (arranged : Arranged args opts domains reads) (o : Options) (before : List String)
    (already : Bool) (once : reads = true → already = false) :
    readArguments (o.naming before already) args =
      (readArguments o opts).naming (before ++ domains) (already || reads) := by
  induction arranged generalizing o before already with
  | nothing => simp [readArguments, Command.naming]
  | @option piece args opts domains reads isOption others ih =>
      rcases isOption.reads o with ⟨o', leads⟩ | ⟨command, alike, decides⟩
      · have bare := leads [] o.stdin opts
        have later := ih (o'.naming [] o.stdin) before already once
        rw [Options.naming_self] at bare
        rw [Options.naming_naming, List.nil_append] at later
        rw [leads, bare, later]
      · have bare := decides [] o.stdin opts
        rw [Options.naming_self] at bare
        rw [decides, bare]
        exact alike _ _
  | @domain arg args opts domains reads isValue others ih =>
      have step : readArguments (o.naming before already) (arg :: args) =
          readArguments (o.naming (before ++ [arg]) already) args := by
        simp [readArguments, isValue, Options.naming]
      rw [step, ih o (before ++ [arg]) already once, List.append_assoc, List.singleton_append]
  | @stdin args opts domains others ih =>
      cases once rfl
      have isLong : Argument.read "--stdin" = .long "stdin" none := by decide +kernel
      have known : longOptions.lookup "stdin" = some (.inr .stdin) := by decide +kernel
      have step : readArguments (o.naming before false) ("--stdin" :: args) =
          readArguments (o.naming before true) args := by
        simp [readArguments, isLong, known, Options.naming]
      rw [step, ih o before true nofun]
      rfl
  | endOfOptions domains =>
      have ends : Argument.read "--" = .endOfOptions := by decide +kernel
      simp [readArguments, ends, Options.naming, Command.naming]
  | unfinished isLong known => simp [readArguments, isLong, known, Command.naming]

theorem Arranged.command {args opts domains : List String} {reads : Bool}
    (arranged : Arranged args opts domains reads) :
    Command.ofArguments args = (Command.ofArguments opts).naming domains reads := by
  have read := arranged.readArguments_eq {} [] false fun _ => rfl
  exact read

theorem read_value (arg : String) (noHyphen : arg.toList.head? ≠ some '-') :
    Argument.read arg = .value arg := by
  unfold Argument.read
  split
  · next letters => exact absurd (by rw [letters]; rfl) noHyphen
  · next letters => exact absurd (by rw [letters]; rfl) noHyphen
  · next letters => exact absurd (by rw [letters]; rfl) noHyphen
  · rfl

theorem read_eq_value {arg text : String} (isValue : Argument.read arg = .value text) :
    text = arg := by
  unfold Argument.read at isValue
  split at isValue
  · cases isValue
  · split at isValue <;> cases isValue
  · cases isValue
  · cases isValue
    rfl

theorem read_eq_endOfOptions {arg : String} (ends : Argument.read arg = .endOfOptions) :
    arg = "--" := by
  unfold Argument.read at ends
  split at ends
  · next letters => exact String.toList_inj.mp letters
  · split at ends <;> cases ends
  · cases ends
  · cases ends

theorem read_eq_long {arg name : String} (isLong : Argument.read arg = .long name none) :
    arg.toList = '-' :: '-' :: name.toList := by
  unfold Argument.read at isLong
  split at isLong
  · cases isLong
  · next letters =>
      split at isLong <;> cases isLong
      rw [letters, String.toList_ofList]
  · cases isLong
  · cases isLong

theorem read_eq_stdin {arg name : String} (isLong : Argument.read arg = .long name none)
    (known : longOptions.lookup name = some (.inr .stdin)) : arg = "--stdin" := by
  obtain ⟨before, after, split, _⟩ := List.lookup_eq_some_iff.mp known
  have only : ∀ entry ∈ longOptions, entry.2 = .inr .stdin → entry.1 = "stdin" := by
    decide +kernel
  have isStdin : name = "stdin" := only (name, .inr .stdin) (by simp [split]) rfl
  apply String.toList_inj.mp
  rw [read_eq_long isLong, isStdin]
  decide +kernel

theorem Arranged.after_domains {args opts domains : List String} {reads : Bool}
    (arranged : Arranged args opts domains reads) (more : List String)
    (values : ∀ d ∈ more, Argument.read d = .value d) :
    Arranged (more ++ args) opts (more ++ domains) reads := by
  induction more with
  | nil => exact arranged
  | cons d rest ih =>
      obtain ⟨first, others⟩ := List.forall_mem_cons.mp values
      exact .domain first (ih others)

theorem Arranged.exists_adding {args opts domains : List String} {reads : Bool}
    (arranged : Arranged args opts domains reads) (more : List String)
    (values : ∀ d ∈ more, Argument.read d = .value d) :
    ∃ args', Arranged args' opts (domains ++ more) false := by
  induction arranged with
  | nothing =>
      have alone := Arranged.nothing.after_domains more values
      rw [List.append_nil] at alone
      exact ⟨_, alone⟩
  | option isOption _ ih =>
      obtain ⟨args', arranged'⟩ := ih
      exact ⟨_, .option isOption arranged'⟩
  | domain isValue _ ih =>
      obtain ⟨args', arranged'⟩ := ih
      exact ⟨_, .domain isValue arranged'⟩
  | stdin _ ih => exact ih
  | endOfOptions domains => exact ⟨_, .endOfOptions (domains ++ more)⟩
  | unfinished isLong known =>
      have last := (Arranged.unfinished isLong known).after_domains more values
      rw [List.append_nil] at last
      exact ⟨_, last⟩

theorem argument_cases (arg : String) (other : arg ≠ "--stdin") :
    arg = "--" ∨ Argument.read arg = .value arg ∨ IsOption [arg] ∨
      ∃ name setting, Argument.read arg = .long name none ∧
        longOptions.lookup name = some (.inl setting) := by
  cases meant : Argument.read arg with
  | endOfOptions => exact Or.inl (read_eq_endOfOptions meant)
  | value text => exact Or.inr (Or.inl (by rw [read_eq_value meant]))
  | short letters => exact Or.inr (Or.inr (Or.inl (.short meant)))
  | long name attached =>
      refine Or.inr (Or.inr ?_)
      cases attached with
      | some value => exact Or.inl (.attached meant)
      | none =>
          cases known : longOptions.lookup name with
          | none => exact Or.inl (.unknown meant known)
          | some option =>
              cases option with
              | inl setting => exact Or.inr ⟨name, setting, rfl, known⟩
              | inr flag =>
                  refine Or.inl (.flag meant known ?_)
                  rintro rfl
                  exact other (read_eq_stdin meant known)

/-- No arguments are left out: without the flag, they are all arranged in some way. -/
theorem exists_arranged (args : List String) (noFlag : "--stdin" ∉ args) :
    ∃ opts domains, Arranged args opts domains false := by
  match args with
  | [] => exact ⟨[], [], .nothing⟩
  | arg :: rest =>
      obtain ⟨other, noFlagLater⟩ := List.ne_and_not_mem_of_not_mem_cons noFlag
      obtain ⟨opts, domains, others⟩ := exists_arranged rest noFlagLater
      rcases argument_cases arg other.symm with rfl | isValue | isOption | ⟨_, _, isLong, known⟩
      · exact ⟨[], rest, .endOfOptions rest⟩
      · exact ⟨opts, _, .domain isValue others⟩
      · exact ⟨_, domains, .option isOption others⟩
      · match rest with
        | [] => exact ⟨_, [], .unfinished isLong known⟩
        | value :: later =>
            -- The value may be anything, so what follows it is looked at anew.
            obtain ⟨opts, domains, others⟩ := exists_arranged later
              (List.ne_and_not_mem_of_not_mem_cons noFlagLater).2
            exact ⟨_, domains, .option (.setting value isLong known) others⟩
termination_by args.length

end SenderAudit.CommandLine
