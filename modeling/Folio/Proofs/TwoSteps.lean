import Folio.Service
import Folio.Proofs.CommandsReread
import Folio.Proofs.DocumentTree
import Folio.Proofs.PlainLayout
import Folio.Proofs.Utf8Text

/-!
# Pages by way of the text of commands

A caller gets the pages of a document at once, or first the text of its commands and then the pages
of that text. The text arrives as it was written (`decode_untilNul_encode`), so the second way draws
the same commands with their numbers read from their digits, and fails if a number has none
(`pagesOfCommands_iff`). Hence the two ways agree exactly if all numbers are finite and those read
from their digits make the same pages (`agreesInTwoSteps_iff`). They need not be: offsets that are
finite one by one can add up to more than a number can hold.
-/

namespace Folio

/-- A text without NUL is read up to its end, as it was written. -/
theorem decode_untilNul_encode {text : String} (noNul : '\x00' ∉ text.toList) :
    Text.decode (untilNul (Text.encode text)) = .ok text := by
  have whole : untilNul (Text.encode text) = Text.encode text := by
    rw [untilNul, List.takeWhile_eq_self_iff]
    intro byte member
    have nonzero : byte ≠ 0 := by
      rintro rfl
      exact Text.zero_notMem_encode noNul member
    exact bne_iff_ne.2 nonzero
  rw [whole, Text.decode_encode]

theorem nul_notMem_writeCommands (commands : List Command) :
    '\x00' ∉ (writeCommands commands).toList :=
  Json.nul_notMem_of_plain (plain_writeCommands commands)

/-- The text of commands can always be handed over. -/
theorem handOver_writeCommands (commands : List Command) :
    handOver (writeCommands commands) = .ok (.text (writeCommands commands)) := by
  have whole : ¬ (writeCommands commands).toList.contains '\x00' := fun found =>
    nul_notMem_writeCommands commands (List.contains_iff_mem.1 found)
  rw [handOver, if_neg whole]

section

variable {input : List UInt8} {config : Config}

/-- The text of the commands of a document is written from the commands that draw it. -/
theorem commandsOfInput_iff {product : Product} :
    commandsOfInput input config = .ok product ↔
      ∃ document commands, Text.decode input = .ok document ∧
        drawDocument document config = .ok commands ∧
        product = .text (writeCommands commands) := by
  cases decoded : Text.decode input with
  | error fault => simp [commandsOfInput, decoded, Except.mapError, bind, Except.bind]
  | ok document =>
    cases drawn : drawDocument document config with
    | error error =>
      simp [commandsOfInput, decoded, drawn, Except.mapError, bind, Except.bind]
    | ok commands =>
      simp [commandsOfInput, decoded, drawn, handOver_writeCommands, Except.mapError, bind,
        Except.bind, eq_comm]

/-- The pages of a document are made of the commands that draw it. -/
theorem pagesOfInput_of_drawn {document : String} {commands : List Command}
    (decoded : Text.decode input = .ok document)
    (drawn : drawDocument document config = .ok commands) :
    pagesOfInput input config = .ok (.pages (makePages commands config)) := by
  simp [pagesOfInput, renderDocument, decoded, drawn, Except.mapError, Except.map, bind,
    Except.bind, pure, Except.pure]

/-- The pages of the text of commands are those of the commands with their numbers read from their
digits; there are none if a number has no digits. -/
theorem pagesOfCommands_iff {commands : List Command} {product : Product} :
    pagesOfCommands (Text.encode (writeCommands commands)) config = .ok product ↔
      (∀ command ∈ commands, command.IsFinite) ∧
        product = .pages (makePages (commands.map (·.mapNumbers reread)) config) := by
  have read := readCommands_writeCommands_toOption commands
  rw [mapM_ite] at read
  rw [pagesOfCommands, decode_untilNul_encode (nul_notMem_writeCommands commands)]
  by_cases finite : ∀ command ∈ commands, command.IsFinite
  · rw [if_pos finite] at read
    cases result : readCommands (writeCommands commands) with
    | error error => rw [result] at read; cases read
    | ok commands' =>
      rw [result] at read
      cases read
      simp only [Except.mapError, bind, Except.bind, result, pure, Except.pure]
      constructor
      · rintro ⟨⟩
        exact ⟨finite, rfl⟩
      · rintro ⟨-, rfl⟩
        rfl
  · rw [if_neg finite] at read
    cases result : readCommands (writeCommands commands) with
    | error error => simp [Except.mapError, bind, Except.bind, result, finite]
    | ok commands' => rw [result] at read; cases read

end

/-- Whether a document has the same pages at once and by way of the text of its commands, wherever
it has such a text. -/
def AgreesInTwoSteps (input : List UInt8) (settings : Option CallerConfig) : Prop :=
  ∀ text, Request.result ⟨.commands settings, some input, true⟩ = .ok (.text text) →
    ∃ pages,
      Request.result ⟨.perform settings, some (Text.encode text), true⟩ = .ok (.pages pages) ∧
      Request.result ⟨.pagesOn settings, some input, true⟩ = .ok (.pages pages)

/-- A document has the same pages both ways exactly if the numbers of its commands are finite and
make the same pages when they are read from their digits. -/
theorem agreesInTwoSteps_iff (input : List UInt8) (settings : Option CallerConfig) :
    AgreesInTwoSteps input settings ↔
      ∀ document commands, Text.decode input = .ok document →
        drawDocument document (configOf settings) = .ok commands →
        (∀ command ∈ commands, command.IsFinite) ∧
          makePages (commands.map (·.mapNumbers reread)) (configOf settings) =
            makePages commands (configOf settings) := by
  constructor
  · intro agrees document commands decoded drawn
    have written : commandsOfInput input (configOf settings) =
        .ok (.text (writeCommands commands)) :=
      commandsOfInput_iff.2 ⟨document, commands, decoded, drawn, rfl⟩
    obtain ⟨pages, performed, rendered⟩ := agrees _ written
    obtain ⟨finite, same⟩ := pagesOfCommands_iff.1 performed
    have atOnce := (pagesOfInput_of_drawn decoded drawn).symm.trans rendered
    simp only [Except.ok.injEq, Product.pages.injEq] at same atOnce
    exact ⟨finite, same.symm.trans atOnce.symm⟩
  · intro same text written
    obtain ⟨document, commands, decoded, drawn, text⟩ := commandsOfInput_iff.1 written
    cases text
    obtain ⟨finite, same⟩ := same document commands decoded drawn
    refine ⟨makePages commands (configOf settings), pagesOfCommands_iff.2 ⟨finite, ?_⟩,
      pagesOfInput_of_drawn decoded drawn⟩
    rw [same]

/-- Two boxes, the inner one of which is pushed out by both of their offsets. -/
def farOffsets : String :=
  "[\x7b\"style\":\x7b\"position\":\"absolute\",\"left\":\"3e38pt\"\x7d,\"children\":[" ++
    "\x7b\"style\":\x7b\"position\":\"absolute\",\"left\":\"3e38pt\"\x7d\x7d]\x7d]"

theorem exists_infinite_farOffsets :
    ∃ commands, drawDocument farOffsets {} = .ok commands ∧
      ¬ ∀ command ∈ commands, command.IsFinite := by
  have outcome : (drawDocument farOffsets {}).toOption.map (fun commands =>
      decide (∀ command ∈ commands, command.IsFinite)) = some false := by
    decide +kernel
  obtain ⟨commands, drawn, infinite⟩ := exists_ok_of_map_toOption outcome
  exact ⟨commands, drawn, of_decide_eq_false infinite⟩

/-- The offsets of the inner box add up to no number, so the text of its commands cannot be read. -/
theorem not_forall_agreesInTwoSteps :
    ¬ ∀ (input : List UInt8) (settings : Option CallerConfig), AgreesInTwoSteps input settings := by
  intro all
  obtain ⟨commands, drawn, infinite⟩ := exists_infinite_farOffsets
  have written : commandsOfInput (Text.encode farOffsets) (configOf none) =
      .ok (.text (writeCommands commands)) :=
    commandsOfInput_iff.2
      ⟨farOffsets, commands, Text.decode_encode farOffsets, drawn, rfl⟩
  obtain ⟨pages, performed, -⟩ := all (Text.encode farOffsets) none _ written
  exact infinite (pagesOfCommands_iff.1 performed).1

end Folio
