import Folio.Proofs.LastError
import Folio.Proofs.Pagination
import Folio.Proofs.TwoSteps

/-!
# The text that is handed over

A text goes to the caller with a NUL behind it, so one that has a NUL inside would be cut and is
refused. Strings of a document come from its escapes and may hold any character, but the text of
commands escapes them again, and it is never refused: every document that can be drawn is answered
with the whole text of its commands (`commands_handed_over`).
-/

namespace Folio

/-- Whether a failure is about something else than a result with a NUL. -/
def Failure.NotOfNul (failure : Failure) : Prop :=
  failure ≠ .nulInText

/-- No request fails for a NUL in its result. -/
theorem notOfNul_result (request : Request) : ErrorsIn Failure.NotOfNul request.result := by
  -- The text of commands is the one result that is handed over as a text.
  have written : ∀ commands, ErrorsIn Failure.NotOfNul (handOver (writeCommands commands)) := by
    intro commands
    rw [handOver_writeCommands]
    exact errorsIn_ok _
  unfold Request.result
  split
  · split
    · exact errorsIn_pagesOfInput _ _ (fun _ _ => nofun) fun _ => nofun
    · exact errorsIn_pagesOfInput _ _ (fun _ _ => nofun) fun _ => nofun
    · exact errorsIn_commandsOfInput _ _ (fun _ _ => nofun) (fun _ => nofun) written
    · exact errorsIn_pagesOfCommands _ _ (fun _ _ => nofun) fun _ => nofun
  · exact errorsIn_error nofun

/-- The text of commands has no control character but the line feed, so no request fails for a NUL
in its result, and every document that can be drawn is answered with the text of its commands. -/
theorem commands_handed_over :
    (∀ commands, ∀ c ∈ (writeCommands commands).toList, c ≠ '\x00' ∧ (c = '\n' ∨ 0x20 ≤ c.toNat)) ∧
      (∀ request : Request, request.result ≠ .error .nulInText) ∧
      ∀ (service : Service) (settings : Option CallerConfig) (bytes : List UInt8)
        (document : String) (commands : List Command),
        Text.decode bytes = .ok document →
        drawDocument document (configOf settings) = .ok commands →
        service.answer ⟨.commands settings, some bytes, true⟩ =
          (service, ⟨0, some (.text (writeCommands commands))⟩) := by
  refine ⟨fun commands c member => ?_, fun request failed => ?_, ?_⟩
  · have seen : c = '\n' ∨ 0x20 ≤ c.toNat := plain_writeCommands commands c member
    refine ⟨?_, seen⟩
    intro nul
    rw [nul] at member
    exact nul_notMem_writeCommands commands member
  · exact notOfNul_result request .nulInText failed rfl
  · intro service settings bytes document commands decoded drawn
    have made : Request.result ⟨.commands settings, some bytes, true⟩ =
        .ok (.text (writeCommands commands)) :=
      commandsOfInput_iff.2 ⟨document, commands, decoded, drawn, rfl⟩
    exact Service.answer_of_ok made

/-- A document whose text holds a NUL by an escape. -/
def nulTextDocument : String :=
  "[\x7b\"text\":\"a\\u0000b\"\x7d]"

theorem commands_handed_over_nulTextDocument :
    ∃ commands, drawDocument nulTextDocument {} = .ok commands ∧
      "a\x00b" ∈ (commands.filterMap Command.cell?).map Cell.text ∧
      ({} : Service).answer ⟨.commands none, some (Text.encode nulTextDocument), true⟩ =
        ({}, ⟨0, some (.text (writeCommands commands))⟩) := by
  have outcome : (drawDocument nulTextDocument {}).toOption.map (fun commands =>
      decide ("a\x00b" ∈ (commands.filterMap Command.cell?).map Cell.text)) = some true := by
    decide +kernel
  obtain ⟨commands, drawn, shown⟩ := exists_ok_of_map_toOption outcome
  obtain ⟨-, -, answered⟩ := commands_handed_over
  exact ⟨commands, drawn, of_decide_eq_true shown,
    answered {} none (Text.encode nulTextDocument) nulTextDocument commands
      (Text.decode_encode nulTextDocument) drawn⟩

end Folio
