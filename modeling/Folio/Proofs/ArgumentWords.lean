import Mathlib.Data.List.Induction
import Mathlib.Tactic.Tauto
import Folio.Proofs.ProgramRuns

/-!
# The words of a command line

Arguments are read from left to right as words: a title flag and the argument behind it are one
word, whatever that argument is, and every other argument is a word by itself (`Says`). The first
word that is out of place decides; if there is none, the files, the titles and the flags among the
words do, wherever they stand, and the program runs on these (`readArguments_decided`).

What has been found after some words is told by the words alone (`Found.after`), and every word that
is in place takes what was found before it to what is found with it (`add_after`).
-/

namespace Folio.CommandLine

/-- A word of a command line. -/
inductive Word where
  | landscape
  | commands
  | title (text : String)
  | titleMissing
  | help
  | unknownFlag (flag : String)
  | file (name : String)
  deriving DecidableEq, Repr

/-! ## Reading words

Every flag has two spellings. -/

def landscapeFlags : List String := ["--landscape", "-l"]

def commandsFlags : List String := ["--commands", "-c"]

def titleFlags : List String := ["--title", "-t"]

def helpFlags : List String := ["--help", "-h"]

/-- The flags that the program knows. -/
def knownFlags : List String :=
  landscapeFlags ++ commandsFlags ++ titleFlags ++ helpFlags

/-- The word that an argument says by itself. -/
inductive SaysAlone (argument : String) : Word → Prop where
  | landscape (flag : argument ∈ landscapeFlags) : SaysAlone argument .landscape
  | commands (flag : argument ∈ commandsFlags) : SaysAlone argument .commands
  | help (flag : argument ∈ helpFlags) : SaysAlone argument .help
  | unknownFlag (dashed : argument.toList.head? = some '-') (unknown : argument ∉ knownFlags) :
      SaysAlone argument (.unknownFlag argument)
  | file (undashed : argument.toList.head? ≠ some '-') : SaysAlone argument (.file argument)

/-- The words that arguments say from left to right. A title flag takes the next argument. -/
inductive Says : List String → List Word → Prop where
  | nothing : Says [] []
  | alone {argument : String} {word : Word} {rest : List String} {words : List Word} :
      SaysAlone argument word → Says rest words → Says (argument :: rest) (word :: words)
  | title {flag text : String} {rest : List String} {words : List Word} :
      flag ∈ titleFlags → Says rest words → Says (flag :: text :: rest) (.title text :: words)
  | titleMissing {flag : String} : flag ∈ titleFlags → Says [flag] [.titleMissing]

theorem head?_of_mem_knownFlags {argument : String} (known : argument ∈ knownFlags) :
    argument.toList.head? = some '-' := by
  have all : ∀ flag ∈ knownFlags, flag.toList.head? = some '-' := by decide +kernel
  exact all argument known

/-- An argument is a title flag or says a word by itself. -/
theorem mem_titleFlags_or_saysAlone (argument : String) :
    argument ∈ titleFlags ∨ ∃ word, SaysAlone argument word := by
  by_cases dashed : argument.toList.head? = some '-'
  · by_cases known : argument ∈ knownFlags
    · simp only [knownFlags, List.mem_append] at known
      rcases known with ((landscape | commands) | title) | help
      · exact .inr ⟨_, .landscape landscape⟩
      · exact .inr ⟨_, .commands commands⟩
      · exact .inl title
      · exact .inr ⟨_, .help help⟩
    · exact .inr ⟨_, .unknownFlag dashed known⟩
  · exact .inr ⟨_, .file dashed⟩

/-- All arguments say words. -/
theorem exists_says : ∀ arguments : List String, ∃ words, Says arguments words
  | [] => ⟨[], .nothing⟩
  | [argument] => by
    rcases mem_titleFlags_or_saysAlone argument with title | ⟨word, alone⟩
    · exact ⟨_, .titleMissing title⟩
    · exact ⟨_, .alone alone .nothing⟩
  | argument :: next :: rest => by
    rcases mem_titleFlags_or_saysAlone argument with title | ⟨word, alone⟩
    · obtain ⟨words, said⟩ := exists_says rest
      exact ⟨_, .title title said⟩
    · obtain ⟨words, said⟩ := exists_says (next :: rest)
      exact ⟨_, .alone alone said⟩

/-! ## Words one by one -/

/-- What is found with one more word. -/
def Found.add (found : Found) : Word → Except Refusal Found
  | .landscape => .ok { found with landscape := true }
  | .commands => .ok { found with wantsCommands := true }
  | .title text => .ok { found with title := some text }
  | .titleMissing => .error .titleMissing
  | .help => .error .help
  | .unknownFlag flag => .error (.unknownFlag flag)
  | .file name => found.addFile name

theorem of_knownFlags :
    (∀ flag ∈ landscapeFlags, Token.of flag = .landscape) ∧
      (∀ flag ∈ commandsFlags, Token.of flag = .commands) ∧
      (∀ flag ∈ titleFlags, Token.of flag = .title) ∧
      ∀ flag ∈ helpFlags, Token.of flag = .help := by
  decide +kernel

theorem of_notMem_knownFlags {argument : String} (unknown : argument ∉ knownFlags) :
    Token.of argument =
      if argument.toList.head? = some '-' then .unknownFlag else .file := by
  simp only [knownFlags, landscapeFlags, commandsFlags, titleFlags, helpFlags, List.mem_append,
    List.mem_cons, List.not_mem_nil, or_false, not_or] at unknown
  simp only [Token.of, unknown, or_false, if_false]

/-- An argument that says a word by itself is gone through as that word. -/
theorem scan_cons_of_saysAlone {argument : String} {word : Word}
    (alone : SaysAlone argument word) (found : Found) (rest : List String) :
    scan found (argument :: rest) = found.add word >>= fun found => scan found rest := by
  obtain ⟨ofLandscape, ofCommands, -, ofHelp⟩ := of_knownFlags
  rw [scan.eq_def]
  dsimp only
  cases alone with
  | landscape flag =>
    rw [ofLandscape argument flag]
    rfl
  | commands flag =>
    rw [ofCommands argument flag]
    rfl
  | help flag =>
    rw [ofHelp argument flag]
    rfl
  | unknownFlag dashed unknown =>
    rw [of_notMem_knownFlags unknown, if_pos dashed]
    rfl
  | file undashed =>
    rw [of_notMem_knownFlags (mt head?_of_mem_knownFlags undashed), if_neg undashed, Found.add]
    cases found.addFile argument <;> rfl

/-- Going through the arguments is going through the words that they say. -/
theorem scan_eq_foldlM {arguments : List String} {words : List Word}
    (said : Says arguments words) (found : Found) :
    scan found arguments = words.foldlM Found.add found := by
  obtain ⟨-, -, ofTitle, -⟩ := of_knownFlags
  induction said generalizing found with
  | nothing => rfl
  | alone alone _ ih =>
    rw [scan_cons_of_saysAlone alone, List.foldlM_cons]
    exact bind_congr ih
  | title title _ ih =>
    rw [scan.eq_def]
    dsimp only
    rw [ofTitle _ title]
    exact ih _
  | titleMissing title =>
    rw [scan.eq_def]
    dsimp only
    rw [ofTitle _ title]
    rfl

/-! ## What words tell -/

/-- The names of the files among words. -/
def files (words : List Word) : List String :=
  words.filterMap fun
    | .file name => some name
    | _ => none

/-- The titles among words. -/
def titles (words : List Word) : List String :=
  words.filterMap fun
    | .title text => some text
    | _ => none

/-- How a word can be out of place behind others. -/
inductive Offends (before : List Word) : Word → Refusal → Prop where
  | titleMissing : Offends before .titleMissing .titleMissing
  | help : Offends before .help .help
  | unknownFlag (flag : String) : Offends before (.unknownFlag flag) (.unknownFlag flag)
  | thirdFile {name : String} : 2 ≤ (files before).length →
      Offends before (.file name) (.unexpected name)

/-- Words of which none is out of place. -/
def InPlace (words : List Word) : Prop :=
  ∀ before word behind, words = before ++ word :: behind → ∀ refusal, ¬ Offends before word refusal

/-- What is found in words. -/
def Found.after (words : List Word) : Found where
  input := (files words)[0]?
  output := (files words)[1]?
  landscape := decide (.landscape ∈ words)
  wantsCommands := decide (.commands ∈ words)
  title := (titles words).getLast?

/-- A file is added if fewer than two were found before. -/
theorem addFile_after (words : List Word) (name : String) :
    (Found.after words).addFile name =
      if 2 ≤ (files words).length then .error (.unexpected name)
      else .ok (Found.after (words ++ [.file name])) := by
  have found : Found.after (words ++ [.file name]) =
      { Found.after words with
        input := (files words ++ [name])[0]?
        output := (files words ++ [name])[1]? } := by
    simp [Found.after, files, titles]
  rw [found, Found.addFile, Found.after]
  dsimp only
  match files words with
  | [] => rfl
  | [input] => rfl
  | input :: output :: more =>
    rw [if_pos (by simp)]
    rfl

/-- A word that is in place takes what was found before it to what is found with it. -/
theorem add_after {before : List Word} {word : Word}
    (inPlace : ∀ refusal, ¬ Offends before word refusal) :
    (Found.after before).add word = .ok (Found.after (before ++ [word])) := by
  cases word with
  | landscape => simp [Found.add, Found.after, files, titles]
  | commands => simp [Found.add, Found.after, files, titles]
  | title text => simp [Found.add, Found.after, files, titles]
  | titleMissing => exact absurd .titleMissing (inPlace _)
  | help => exact absurd .help (inPlace _)
  | unknownFlag flag => exact absurd (.unknownFlag flag) (inPlace _)
  | file name =>
    rw [Found.add, addFile_after, if_neg fun two => inPlace _ (.thirdFile two)]

/-- A word that is out of place is the end. -/
theorem add_after_of_offends {before : List Word} {word : Word} {refusal : Refusal}
    (offends : Offends before word refusal) :
    (Found.after before).add word = .error refusal := by
  cases offends with
  | titleMissing => rfl
  | help => rfl
  | unknownFlag flag => rfl
  | thirdFile two => rw [Found.add, addFile_after, if_pos two]

/-! ## The first word out of place -/

theorem inPlace_nil : InPlace [] := by
  intro before word behind split
  exact absurd split (by simp)

theorem inPlace_concat_iff {words : List Word} {word : Word} :
    InPlace (words ++ [word]) ↔
      InPlace words ∧ ∀ refusal, ¬ Offends words word refusal := by
  constructor
  · intro inPlace
    refine ⟨?_, inPlace words word [] rfl⟩
    rintro before other behind rfl
    exact inPlace before other (behind ++ [word]) (by simp)
  · rintro ⟨inPlace, last⟩ before other behind split
    rcases List.eq_nil_or_concat behind with rfl | ⟨behind, final, rfl⟩
    · obtain ⟨rfl, same⟩ := List.append_inj' split rfl
      cases same
      exact last
    · rw [List.concat_eq_append, ← List.cons_append, ← List.append_assoc] at split
      exact inPlace before other behind (List.append_inj' split rfl).1

/-- Either all words are in place, or one of them is the first that is not. -/
theorem inPlace_or_offends (words : List Word) :
    InPlace words ∨ ∃ before word behind refusal, words = before ++ word :: behind ∧
      InPlace before ∧ Offends before word refusal := by
  induction words using List.reverseRecOn with
  | nil => exact .inl inPlace_nil
  | append_singleton words word ih =>
    rcases ih with inPlace | ⟨before, other, behind, refusal, rfl, inPlace, offends⟩
    · by_cases last : ∀ refusal, ¬ Offends words word refusal
      · exact .inl (inPlace_concat_iff.2 ⟨inPlace, last⟩)
      · obtain ⟨refusal, offends⟩ := not_forall_not.1 last
        exact .inr ⟨words, word, [], refusal, rfl, inPlace, offends⟩
    · exact .inr ⟨before, other, behind ++ [word], refusal, by simp, inPlace, offends⟩

/-- Going through words that are in place finds what the words tell. -/
theorem foldlM_add_of_inPlace {words : List Word} (inPlace : InPlace words) :
    words.foldlM Found.add {} = .ok (Found.after words) := by
  induction words using List.reverseRecOn with
  | nil => rfl
  | append_singleton words word ih =>
    obtain ⟨earlier, last⟩ := inPlace_concat_iff.1 inPlace
    have step : [word].foldlM Found.add (Found.after words) =
        .ok (Found.after (words ++ [word])) := by
      rw [List.foldlM_cons, add_after last]
      rfl
    rw [List.foldlM_append, ih earlier]
    exact step

/-- Going through words ends at the first that is out of place. -/
theorem foldlM_add_of_offends {before : List Word} {word : Word} {refusal : Refusal}
    (inPlace : InPlace before) (offends : Offends before word refusal) (behind : List Word) :
    (before ++ word :: behind).foldlM Found.add {} = .error refusal := by
  have step : (word :: behind).foldlM Found.add (Found.after before) = .error refusal := by
    rw [List.foldlM_cons, add_after_of_offends offends]
    rfl
  rw [List.foldlM_append, foldlM_add_of_inPlace inPlace]
  exact step

/-! ## The outcome -/

/-- The outcome that words lead to. -/
inductive Outcome : List Word → Except Refusal Arguments → Prop where
  /-- The first word that is out of place decides, whatever stands behind it. -/
  | refused {before behind : List Word} {word : Word} {refusal : Refusal} :
      InPlace before → Offends before word refusal →
      Outcome (before ++ word :: behind) (.error refusal)
  | inputMissing {words : List Word} : InPlace words → files words = [] →
      Outcome words (.error .inputMissing)
  | read {words : List Word} {input : String} {others : List String} : InPlace words →
      files words = input :: others →
      Outcome words (.ok
        { input
          output := others.head?
          landscape := decide (.landscape ∈ words)
          wantsCommands := decide (.commands ∈ words)
          title := (titles words).getLast? })

/-- All words lead to an outcome. -/
theorem exists_outcome (words : List Word) : ∃ outcome, Outcome words outcome := by
  rcases inPlace_or_offends words with
    inPlace | ⟨before, word, behind, refusal, rfl, inPlace, offends⟩
  · cases named : files words with
    | nil => exact ⟨_, .inputMissing inPlace named⟩
    | cons input others => exact ⟨_, .read inPlace named⟩
  · exact ⟨_, .refused inPlace offends⟩

/-- The outcome of arguments is that of the words that they say. -/
theorem readArguments_of_outcome {arguments : List String} {words : List Word}
    {outcome : Except Refusal Arguments} (said : Says arguments words)
    (leads : Outcome words outcome) : readArguments arguments = outcome := by
  rw [readArguments, scan_eq_foldlM said]
  cases leads with
  | refused inPlace offends => rw [foldlM_add_of_offends inPlace offends]
  | inputMissing inPlace named =>
    rw [foldlM_add_of_inPlace inPlace, Found.after, named]
    rfl
  | read inPlace named =>
    rw [foldlM_add_of_inPlace inPlace, Found.after, named]
    dsimp only [List.getElem?_cons_zero]
    rw [List.getElem?_cons_succ, ← List.head?_eq_getElem?]

theorem readArguments_eq_iff {arguments : List String} {outcome : Except Refusal Arguments} :
    readArguments arguments = outcome ↔
      ∃ words, Says arguments words ∧ Outcome words outcome := by
  constructor
  · rintro rfl
    obtain ⟨words, said⟩ := exists_says arguments
    obtain ⟨outcome, leads⟩ := exists_outcome words
    rw [readArguments_of_outcome said leads]
    exact ⟨words, said, leads⟩
  · rintro ⟨words, said, leads⟩
    exact readArguments_of_outcome said leads

/-! ## Words in another order -/

theorem not_offends_iff {before : List Word} {word : Word} :
    (∀ refusal, ¬ Offends before word refusal) ↔
      word ≠ .titleMissing ∧ word ≠ .help ∧ (∀ flag, word ≠ .unknownFlag flag) ∧
        ∀ name, word = .file name → (files before).length < 2 := by
  constructor
  · intro inPlace
    refine ⟨?_, ?_, ?_, ?_⟩
    · rintro rfl
      exact inPlace _ .titleMissing
    · rintro rfl
      exact inPlace _ .help
    · rintro flag rfl
      exact inPlace _ (.unknownFlag flag)
    · rintro name rfl
      exact Nat.lt_of_not_le fun two => inPlace _ (.thirdFile two)
  · rintro ⟨notMissing, notHelp, known, few⟩ refusal offends
    cases offends with
    | titleMissing => exact notMissing rfl
    | help => exact notHelp rfl
    | unknownFlag flag => exact known flag rfl
    | thirdFile two => exact absurd (few _ rfl) (Nat.not_lt.2 two)

/-- All words are in place exactly if there are at most two files and nothing that is out of place
wherever it stands. -/
theorem inPlace_iff {words : List Word} :
    InPlace words ↔ (.titleMissing ∉ words ∧ .help ∉ words ∧ ∀ flag, .unknownFlag flag ∉ words) ∧
      (files words).length ≤ 2 := by
  induction words using List.reverseRecOn with
  | nil => simp [inPlace_nil, files]
  | append_singleton words word ih =>
    have named : (files (words ++ [word])).length ≤ 2 ↔
        (files words).length ≤ 2 ∧ ∀ name, word = .file name → (files words).length < 2 := by
      cases word <;> simp [files]
      omega
    rw [inPlace_concat_iff, ih, not_offends_iff, named]
    simp only [List.mem_append, List.mem_singleton, not_or, forall_and, ne_eq, eq_comm]
    tauto

theorem inPlace_of_perm {words others : List Word} (order : words.Perm others)
    (named : files words = files others) (inPlace : InPlace words) : InPlace others := by
  rw [inPlace_iff] at inPlace ⊢
  simpa only [order.mem_iff, named] using inPlace

theorem after_of_perm {words others : List Word} (order : words.Perm others)
    (named : files words = files others)
    (titled : (titles words).getLast? = (titles others).getLast?) :
    Found.after words = Found.after others := by
  simp only [Found.after, order.mem_iff, named, titled]

/-- Words in another order come to the same if the files stay in their order and the last title
stays the last. -/
theorem readArguments_of_perm {arguments others : List String} {words otherWords : List Word}
    (said : Says arguments words) (saidOther : Says others otherWords) (inPlace : InPlace words)
    (order : words.Perm otherWords) (named : files words = files otherWords)
    (titled : (titles words).getLast? = (titles otherWords).getLast?) :
    readArguments others = readArguments arguments := by
  rw [readArguments, scan_eq_foldlM saidOther,
    foldlM_add_of_inPlace (inPlace_of_perm order named inPlace), readArguments, scan_eq_foldlM said,
    foldlM_add_of_inPlace inPlace, after_of_perm order named titled]

/-- The outcome of arguments is that of their words: the first that is out of place decides, and
nothing is read or written then; if all are in place, the files, the titles and the flags among them
do, and the program runs on these and in no other way. The status is 0 for a call for help and 1 for
any other refusal. The order of words that are all in place makes no difference but for the order of
the files and for which title is the last. -/
theorem readArguments_decided :
    (∀ arguments outcome, readArguments arguments = outcome ↔
      ∃ words, Says arguments words ∧ Outcome words outcome) ∧
    (∀ arguments refusal, readArguments arguments = .error refusal →
      (∀ {m : Type → Type} [Monad m] (disk : Disk m),
        run disk arguments = pure (.refused refusal)) ∧
      (Ending.refused refusal).status = if refusal = .help then 0 else 1) ∧
    (∀ arguments accepted, readArguments arguments = .ok accepted →
      ∀ {m : Type → Type} [Monad m] [LawfulMonad m] (disk : Disk m) (action : m Ending),
        Runs disk accepted action ↔ action = run disk arguments) ∧
    ∀ arguments others words otherWords, Says arguments words → Says others otherWords →
      InPlace words → words.Perm otherWords → files words = files otherWords →
      (titles words).getLast? = (titles otherWords).getLast? →
      readArguments others = readArguments arguments ∧
        ∀ {m : Type → Type} [Monad m] (disk : Disk m),
          run disk others = run disk arguments := by
  refine ⟨fun _ _ => readArguments_eq_iff, fun arguments refusal refused => ⟨?_, ?_⟩, ?_, ?_⟩
  · intro m _ disk
    rw [run, refused]
  · cases refusal <;> rfl
  · intro arguments accepted accepts m _ _ disk action
    exact runs_iff accepts
  · intro arguments others words otherWords said saidOther inPlace order named titled
    have same := readArguments_of_perm said saidOther inPlace order named titled
    refine ⟨same, fun disk => ?_⟩
    rw [run, same]
    rfl

/-- Two titles, of which the first looks like a flag, two files and a flag, in two orders; and an
unknown flag in front of a call for help. The run on the second order writes the commands of the
document, with one cell, to the output. -/
theorem readArguments_decided_shuffled :
    readArguments ["-t", "--help", "in.json", "-c", "--title", "Two", "out.json"] =
        .ok ⟨"in.json", some "out.json", false, true, some "Two"⟩ ∧
      readArguments ["in.json", "--commands", "out.json", "-t", "--help", "-t", "Two"] =
        .ok ⟨"in.json", some "out.json", false, true, some "Two"⟩ ∧
      readArguments ["in.json", "-x", "--help"] = .error (.unknownFlag "-x") ∧
      (Ending.refused (.unknownFlag "-x")).status = 1 ∧
      Runs memoryDisk ⟨"in.json", some "out.json", false, true, some "Two"⟩
        (run memoryDisk ["in.json", "--commands", "out.json", "-t", "--help", "-t", "Two"]) ∧
      (match (run memoryDisk ["in.json", "--commands", "out.json", "-t", "--help", "-t", "Two"]
          [(["in.json"], .bytes (Text.encode "[\x7b\"name\":\"a\"\x7d]"))]).1 with
        | .wrote path (.text _) cells => some (path, cells)
        | _ => none) = some ("out.json", 1) := by
  obtain ⟨reads, refuses, runs, shuffles⟩ := readArguments_decided
  have first : Says ["-t", "--help", "in.json", "-c", "--title", "Two", "out.json"]
      [.title "--help", .file "in.json", .commands, .title "Two", .file "out.json"] :=
    .title (by decide) (.alone (.file (by decide)) (.alone (.commands (by decide))
      (.title (by decide) (.alone (.file (by decide)) .nothing))))
  have second : Says ["in.json", "--commands", "out.json", "-t", "--help", "-t", "Two"]
      [.file "in.json", .commands, .file "out.json", .title "--help", .title "Two"] :=
    .alone (.file (by decide)) (.alone (.commands (by decide)) (.alone (.file (by decide))
      (.title (by decide) (.title (by decide) .nothing))))
  have inPlace : InPlace
      [.title "--help", .file "in.json", .commands, .title "Two", .file "out.json"] :=
    inPlace_iff.2 ⟨⟨by decide, by decide, by simp⟩, by decide⟩
  have read := (reads _ _).2 ⟨_, first, .read inPlace rfl⟩
  have refused : readArguments ["in.json", "-x", "--help"] = .error (.unknownFlag "-x") := by
    refine (reads _ _).2 ⟨[.file "in.json"] ++ .unknownFlag "-x" :: [.help], ?_,
      .refused (inPlace_iff.2 ⟨⟨by decide, by decide, by simp⟩, by decide⟩) (.unknownFlag "-x")⟩
    exact .alone (.file (by decide)) (.alone (.unknownFlag (by decide) (by decide))
      (.alone (.help (by decide)) .nothing))
  obtain ⟨same, sameRun⟩ := shuffles _ _ _ _ first second inPlace (by decide) rfl rfl
  refine ⟨read, ?_, refused, (refuses _ _ refused).2, ?_, by decide +kernel⟩
  · rw [same]
    exact read
  · rw [sameRun]
    exact (runs _ _ read memoryDisk _).2 rfl

end Folio.CommandLine
