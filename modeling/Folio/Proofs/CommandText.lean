import Folio.Draw.Reading
import Folio.Draw.Writing
import Folio.Proofs.FormText
import Folio.Proofs.SingleText

/-!
# Draw commands in JSON texts

A command is read from any text of an object by the values of its members: `commandOfObject?` says
what these come to, and `readsText_readCommand` that the reader makes this of every text, whatever
its blanks, escapes and order of members. What is written for a command is a text of the object of
its values, so commands come back from their own text with each number read from its digits, if all
numbers have digits (`readCommands_writeCommands`).
-/

namespace Folio

open Json (Value Reader ReadsText ReadsMember TextOf MemberText BracketText EndsNumber Blanks Opens
  NumberText outcome skipSpace Spells)

/-! ## Reading an object -/

/-- The call that a value names. -/
def callOf? : Value → Option Call
  | .string name => Call.ofName? name
  | _ => none

theorem outcome_readCall_string {text rest : List Char} (start : skipSpace text = '"' :: rest) :
    outcome (readCall text) = (outcome (Json.stringBody rest)).bind fun read =>
      (Call.ofName? read.1).map fun call => (call, read.2) := by
  rw [readCall]
  split
  · rename_i rest' same
    rw [start] at same
    cases same
    refine Json.outcome_bind fun name rest => ?_
    dsimp only
    cases Call.ofName? name <;> rfl
  · rename_i other
    exact absurd start (other rest)

theorem outcome_readCall_other {text rest : List Char} {c : Char}
    (start : skipSpace text = c :: rest) (other : c ≠ '"') : outcome (readCall text) = none := by
  rw [readCall]
  split
  · rename_i rest' same
    rw [start] at same
    cases same
    exact absurd rfl other
  · rfl

/-- The name of a call is read from any of its texts, and nothing else is. -/
theorem readsText_readCall {brackets : Nat} {text : List Char} {x : Value}
    (spelt : TextOf brackets text x) : ReadsText readCall text (callOf? x) := by
  have opens := (Json.readsText_of_textOf spelt).1
  refine ⟨opens, fun before rest ends start => ?_⟩
  have scalar : ∀ x, Json.ScalarText text x →
      outcome (readCall before) = (callOf? x).map fun call => (call, rest) := by
    intro x spelt
    cases spelt with
    | null => exact outcome_readCall_other start (by decide)
    | bool b => cases b <;> exact outcome_readCall_other start (by decide)
    | number numeral =>
      obtain ⟨c, others, rfl, first⟩ := numeral.front
      refine outcome_readCall_other start ?_
      rintro rfl
      obtain minus | digit := first
      · cases minus
      · cases digit
    | string spelt =>
      obtain ⟨body, rfl, chars⟩ := spelt
      rw [List.cons_append, List.append_assoc] at start
      rw [outcome_readCall_string start, List.singleton_append,
        Json.outcome_stringBody_spelled chars]
      rfl
  cases brackets with
  | zero => exact scalar x spelt
  | succ brackets =>
    cases spelt with
    | scalar spelt => exact scalar x spelt
    | list bracket =>
      obtain ⟨others, rfl⟩ := bracket.front
      exact outcome_readCall_other start (by decide)
    | object bracket =>
      obtain ⟨others, rfl⟩ := bracket.front
      exact outcome_readCall_other start (by decide)

/-- What a member of a command object adds to those before it. -/
def addCommandMember (before : CommandMembers) (x : String × Value) : Option CommandMembers :=
  if x.1 = "op" then
    if before.1.isSome then none else (callOf? x.2).map fun call => (some call, before.2)
  else some (before.1, x :: before.2)

theorem outcome_readCommandMember_op {brackets : Nat} {before : CommandMembers}
    {text rest : List Char} (fresh : ¬ before.1.isSome = true)
    (start : skipSpace text = ':' :: rest) :
    outcome (readCommandMember brackets before "op" text) =
      (outcome (readCall rest)).map fun read => ((some read.1, before.2), read.2) := by
  have passed : outcome (readCommandMember brackets before "op" text) =
      (outcome (Json.colon text)).bind fun read =>
        (outcome (readCall read.2)).map fun read => ((some read.1, before.2), read.2) := by
    rw [readCommandMember, if_pos rfl, if_neg fresh]
    refine Json.outcome_bind fun nothing rest => ?_
    rw [Option.map_eq_bind]
    exact Json.outcome_bind fun call rest => rfl
  rw [passed, Json.outcome_colon start, Option.bind_some]

theorem outcome_readCommandMember_other {brackets : Nat} {before : CommandMembers} {key : String}
    {text rest : List Char} (other : key ≠ "op") (start : skipSpace text = ':' :: rest) :
    outcome (readCommandMember brackets before key text) =
      (outcome (Json.value brackets rest)).map fun read =>
        ((before.1, (key, read.1) :: before.2), read.2) := by
  have passed : outcome (readCommandMember brackets before key text) =
      (outcome (Json.colon text)).bind fun read =>
        (outcome (Json.value brackets read.2)).map fun read =>
          ((before.1, (key, read.1) :: before.2), read.2) := by
    rw [readCommandMember, if_neg other]
    refine Json.outcome_bind fun nothing rest => ?_
    rw [Option.map_eq_bind]
    exact Json.outcome_bind fun x rest => rfl
  rw [passed, Json.outcome_colon start, Option.bind_some]

theorem readsMember_command {brackets : Nat} {text : List Char} {x : String × Value}
    (spelt : MemberText (TextOf brackets) text x) :
    ReadsMember (readCommandMember brackets) addCommandMember text x := by
  cases spelt with
  | @mk name space space' text key x named blank blank' spelt =>
    refine ⟨name, _, rfl, named, fun before rest ends => ?_⟩
    have start : skipSpace (space ++ ':' :: (space' ++ text) ++ rest) =
        ':' :: (space' ++ (text ++ rest)) := by
      rw [Json.skipSpace_mark blank (by decide), List.append_assoc]
    rw [addCommandMember]
    by_cases op : key = "op"
    · subst op
      rw [if_pos rfl]
      by_cases twice : before.1.isSome = true
      · rw [readCommandMember, if_pos rfl, if_pos twice, if_pos twice]
        rfl
      · obtain ⟨-, -, -, -, read⟩ := (readsText_readCall spelt).behind blank' ends
        rw [outcome_readCommandMember_op twice start, read, if_neg twice, Option.map_map,
          Option.map_map]
        rfl
    · obtain ⟨-, -, -, -, read⟩ := (Json.readsText_of_textOf spelt).behind blank' ends
      rw [outcome_readCommandMember_other op start, read, if_neg op]
      rfl

/-- The command of the members of an object, whose call may be anywhere among them. -/
def commandOfObject? (members : List (String × Value)) : Option Command :=
  (members.foldlM addCommandMember (none, [])).bind fun read =>
    read.1.bind fun call => (commandOfMembers call read.2.reverse).toOption

theorem outcome_readCommand_object {brackets : Nat} {text rest : List Char}
    (start : skipSpace text = '\x7b' :: rest) :
    outcome (readCommand brackets text) =
      (outcome (Json.members (readCommandMember brackets) (none, []) true rest)).bind fun read =>
        read.1.1.bind fun call =>
          (commandOfMembers call read.1.2.reverse).toOption.map fun command =>
            (command, read.2) := by
  rw [readCommand]
  split
  · rename_i rest' same
    rw [start] at same
    cases same
    refine Json.outcome_bind fun read rest => ?_
    obtain ⟨call, members⟩ := read
    cases call with
    | none => rfl
    | some call =>
      dsimp only [Option.bind_some, placedAfterItem]
      cases commandOfMembers call members.reverse <;> rfl
  · rename_i rest' same
    rw [start] at same
    cases same
  · rename_i other _
    exact absurd start (other rest)

/-- A command is read from every text of an object by the values of its members. -/
theorem readsText_readCommand {brackets : Nat} {text : List Char} {members : List (String × Value)}
    (bracket : BracketText '\x7b' '\x7d' (MemberText (TextOf brackets)) text members) :
    ReadsText (readCommand brackets) text (commandOfObject? members) := by
  obtain ⟨body, rfl, read⟩ :=
    Json.outcome_members_bracket (bracket.imp fun _ _ member => readsMember_command member)
  refine ⟨⟨'\x7b', body, rfl, by decide, by decide⟩, fun before rest _ start => ?_⟩
  rw [List.cons_append] at start
  rw [outcome_readCommand_object start, read, commandOfObject?]
  cases members.foldlM addCommandMember (none, []) with
  | none => rfl
  | some read =>
    obtain ⟨call, others⟩ := read
    cases call <;> rfl

/-! ## Reading a list of commands -/

theorem outcome_readCommandList {text rest : List Char} (start : skipSpace text = '[' :: rest) :
    outcome (readCommandList text) =
      outcome (Json.items (readCommand (Json.maxDepth - 2)) true rest) := by
  have passed : outcome (readCommandList text) =
      (outcome (Json.items (readCommand (Json.maxDepth - 2)) true rest)).bind some := by
    rw [readCommandList]
    split
    · rename_i rest' same
      rw [start] at same
      cases same
      exact Json.outcome_bind fun commands rest => rfl
    · rename_i other
      exact absurd start (other rest)
  rw [passed, Option.bind_fun_some]

/-- A list of commands is read from every text of it, and refused with the first command that is. -/
theorem readCommands_toOption {space text space' : List Char} {results : List (Option Command)}
    (blank : Blanks space) (blank' : Blanks space')
    (bracket : BracketText '[' ']' (ReadsText (readCommand (Json.maxDepth - 2))) text results) :
    (readCommands (String.ofList (space ++ (text ++ space')))).toOption = results.mapM id := by
  obtain ⟨body, rfl, read⟩ := Json.outcome_items_bracket bracket
  have start : skipSpace (space ++ ('[' :: body ++ space')) = '[' :: (body ++ space') := by
    rw [Json.skipSpace_blanks blank]
    exact Json.skipSpace_cons_of_not (by decide) _
  have all := (outcome_readCommandList start).trans (read space')
  have finished := Json.finished_blanks blank'
  rw [readCommands, String.toList_ofList]
  dsimp only
  generalize space ++ ('[' :: body ++ space') = chars at *
  cases decoded : results.mapM id with
  | none =>
    rw [decoded] at all
    cases list : readCommandList chars with
    | error fault => rfl
    | ok result => rw [list] at all; cases all
  | some commands =>
    rw [decoded] at all
    obtain ⟨shorter, list⟩ := Json.exists_ok_of_outcome all
    simp [list, bind, Except.bind, finished, Except.mapError, pure, Except.pure, Except.toOption]

end Folio
