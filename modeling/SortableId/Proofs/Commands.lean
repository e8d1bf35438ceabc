import SortableId.Program.Ids
import SortableId.Proofs.Folding
import SortableId.Proofs.Settings

/-!
# Commands on a written identifier

Two commands take one text, which may stand behind the name of the command unless it begins with a
hyphen.  No accepted text does, in whatever white space it stands.  Once the variables are as they
should be, a run is the run of the command alone.
-/

namespace SortableId

/-! ## Words that are taken as they stand -/

/-- A word that does not look like a parameter. -/
def CommandLine.Unhyphenated (word : String) : Prop := word.toList.head? ≠ some '-'

instance (word : String) : Decidable (CommandLine.Unhyphenated word) :=
  inferInstanceAs (Decidable (word.toList.head? ≠ some '-'))

/-- A grammar without commands takes such a word wherever there is a place for it. -/
theorem CommandLine.Grammar.scan_unhyphenated {grammar : Grammar} {arguments : Arguments}
    {word : String} (noCommands : grammar.commands = [])
    (place : arguments.positionals.length < grammar.positionals)
    (unhyphenated : Unhyphenated word) (rest : List String) :
    grammar.scan arguments none (word :: rest) =
      grammar.scan { arguments with positionals := arguments.positionals ++ [word] } none rest := by
  have notCommand : grammar.commands.contains word = false := by rw [noCommands]; rfl
  have taken : arguments.addPositional grammar word =
      .ok { arguments with positionals := arguments.positionals ++ [word] } := if_pos place
  rw [scan]
  split
  next shape => exact absurd (by rw [shape]; rfl) unhyphenated
  next shape => exact absurd (by rw [shape]; rfl) unhyphenated
  next shape => exact absurd (by rw [shape]; rfl) unhyphenated
  next =>
    rw [notCommand, taken]
    rfl

namespace Program

/-- The words that ask for a command on a text, with results in the given format. -/
def Invocation.wordsFor (name text : String) : Format → List String
  | .table => [name, text]
  | .json => ["--format", "json", name, text]

open CommandLine (Unhyphenated)

/-- What is asked of a command that takes one text. -/
def Invocation.Asks (name text : String) (command : Command) : Prop :=
  name = "parse" ∧ command = .parse text ∨ name = "tamper" ∧ command = .tamper text

/-- Behind the arguments that choose the format, the command is found by its name. -/
theorem Invocation.ofWords_of_outer {words : List String} {name text : String} {command : Command}
    {outer : CommandLine.Arguments} (asks : Asks name text command)
    (scanned : outerGrammar.parse words = .ok (outer, [name, text]))
    (unhyphenated : Unhyphenated text) :
    ofWords words = .ok ⟨(outer.value? "format").elim .table Format.ofName, command⟩ := by
  have inner : CommandLine.Grammar.parse { parameters := sharedParameters, positionals := 1 }
      [text] = .ok ({ positionals := [text] }, []) :=
    CommandLine.Grammar.scan_unhyphenated rfl (by decide) unhyphenated []
  rw [ofWords, scanned]
  obtain ⟨rfl, rfl⟩ | ⟨rfl, rfl⟩ := asks
  · have taken : (innerGrammar "parse").parse [text] = _ := inner
    simp only [bind, Except.bind, taken]
    rfl
  · have taken : (innerGrammar "tamper").parse [text] = _ := inner
    simp only [bind, Except.bind, taken]
    rfl

/-- A text that does not begin with a hyphen can be asked about in either format. -/
theorem Invocation.ofWords_wordsFor {name text : String} {command : Command}
    (asks : Asks name text command) (unhyphenated : Unhyphenated text) (format : Format) :
    ofWords (wordsFor name text format) = .ok ⟨format, command⟩ := by
  have alone : ∃ outer, outerGrammar.parse (wordsFor name text format) = .ok (outer, [name, text]) ∧
      (outer.value? "format").elim .table Format.ofName = format := by
    obtain ⟨rfl, _⟩ | ⟨rfl, _⟩ := asks <;> cases format <;> exact ⟨_, rfl, rfl⟩
  obtain ⟨outer, scanned, chosen⟩ := alone
  rw [ofWords_of_outer asks scanned unhyphenated, chosen]

/-- An accepted text begins with white space or with a letter. -/
theorem unhyphenated_of_parse {text : String} {id : Identifier}
    (read : Identifier.parse text = .ok id) : Unhyphenated text := by
  obtain ⟨spelling, wellFormed, trimmed, _⟩ := Spelling.exists_of_parse read
  obtain ⟨front, back, shape, frontBlank, _⟩ := (Spelling.standsIn_iff wellFormed).mpr trimmed
  intro hyphen
  rw [shape] at hyphen
  cases front with
  | nil =>
      obtain ⟨first, rest, named, lower, _⟩ := wellFormed.name
      have head : (([] : List Char) ++ spelling.chars ++ back).head? = some first := by
        unfold Spelling.chars Spelling.base
        rw [named]
        cases spelling.suffix <;> rfl
      rw [head, Option.some.injEq] at hyphen
      rw [hyphen] at lower
      exact absurd lower (by decide)
  | cons first front =>
      have blank := frontBlank first List.mem_cons_self
      rw [List.cons_append, List.cons_append, List.head?_cons, Option.some.injEq] at hyphen
      rw [hyphen] at blank
      exact absurd blank (by decide)

/-- Variables that are not set are as they should be. -/
theorem Settings.not_anyMisset_unset : ¬AnyMisset fun _ => none := by
  simp [AnyMisset, Misset]

/-- With variables that are set as they should be, a run is the run of its command. -/
theorem Ids.exists_run_eq_runCommand {words : List String} {invocation : Invocation}
    {lookup : String → Option String} (stated : Invocation.ofWords words = .ok invocation)
    (wellSet : ¬Settings.AnyMisset lookup) (readings : Nat → Reading) :
    ∃ defaults, run words lookup readings = runCommand invocation defaults readings := by
  rw [Settings.anyMisset_iff, not_not] at wellSet
  obtain ⟨defaults, gives⟩ := wellSet
  refine ⟨defaults, ?_⟩
  simp only [run, stated, Settings.read_eq_ok_iff.mpr gives]

end Program

end SortableId
