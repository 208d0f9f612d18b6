import Folio.CommandLine.Program

/-!
# Runs of the program

Accepted arguments lead to one run (`runs_iff`), in any monad that has files: the input is read, its
text is rendered on the paper that the arguments ask for, and the pages or the text of the commands
are written where they go, once the directories on the way there have been made. The first step that
fails is the last, and the run ends with its error.

Every step is a relation with one constructor for each way on (`Writes`, `Saves`, `Follows`,
`Runs`), and what comes back from the file system decides which way that is.
-/

namespace Folio.CommandLine

/-! ## What arguments ask for -/

namespace Arguments

/-- The title of a document: the one that was given, else the name of the input without its
extension, if it has a name. -/
inductive Titled (arguments : Arguments) : String → Prop where
  | given {title : String} (given : arguments.title = some title) : Titled arguments title
  | stem {stem : String} (untitled : arguments.title = none)
      (named : fileStem? arguments.input = some stem) : Titled arguments stem
  | unnamed (untitled : arguments.title = none) (unnamed : fileStem? arguments.input = none) :
      Titled arguments "hyperpdf output"

/-- Whether a paper is the one that is asked for: A4 with the margins it has by itself, lying on its
side if the flag was found. -/
structure Asks (arguments : Arguments) (config : Config) : Prop where
  titled : arguments.Titled config.title
  lies : config.orientation = .landscape ↔ arguments.landscape = true
  paper : config = { title := config.title, orientation := config.orientation }

/-- Where a result goes: to the output, else beside the input. -/
inductive GoesTo (arguments : Arguments) : String → Prop where
  | told {path : String} (told : arguments.output = some path) : GoesTo arguments path
  | commands (untold : arguments.output = none) (asked : arguments.wantsCommands = true) :
      GoesTo arguments (withExtension arguments.input "commands.json")
  | pages (untold : arguments.output = none) (unasked : arguments.wantsCommands = false) :
      GoesTo arguments (withExtension arguments.input "pdf")

/-- What commands are made into: their text or their pages. -/
inductive Makes (arguments : Arguments) (config : Config) (commands : List Command) :
    Artifact → Prop where
  | text (asked : arguments.wantsCommands = true) :
      Makes arguments config commands (.text (writeCommands commands))
  | pages (unasked : arguments.wantsCommands = false) :
      Makes arguments config commands (.pages (makePages commands config))

variable {arguments : Arguments}

theorem titled_config (arguments : Arguments) : arguments.Titled arguments.config.title := by
  unfold config
  dsimp only
  cases given : arguments.title with
  | some title => exact .given given
  | none =>
    cases named : fileStem? arguments.input with
    | some stem => exact .stem given named
    | none => exact .unnamed given named

theorem Titled.eq {title : String} (titled : arguments.Titled title) :
    title = arguments.config.title := by
  unfold config
  dsimp only
  cases titled with
  | given given => rw [given, Option.getD_some]
  | stem untitled named => rw [untitled, named, Option.getD_none, Option.getD_some]
  | unnamed untitled unnamed => rw [untitled, unnamed, Option.getD_none, Option.getD_none]

theorem asks_config (arguments : Arguments) : arguments.Asks arguments.config := by
  refine ⟨titled_config arguments, ?_, rfl⟩
  unfold config
  dsimp only
  cases arguments.landscape <;> decide

/-- There is one paper that arguments ask for. -/
theorem asks_iff {config : Config} : arguments.Asks config ↔ config = arguments.config := by
  constructor
  · intro asks
    have sides : config.orientation = arguments.config.orientation := by
      have same := asks.lies.trans (asks_config arguments).lies.symm
      generalize config.orientation = side at *
      generalize arguments.config.orientation = side' at *
      cases side <;> cases side' <;> simp at same ⊢
    rw [asks.paper, asks.titled.eq, sides]
    rfl
  · rintro rfl
    exact asks_config arguments

/-- There is one place where a result goes. -/
theorem goesTo_iff {path : String} : arguments.GoesTo path ↔ path = arguments.destination := by
  unfold destination
  constructor
  · intro goes
    cases goes with
    | told told => rw [told]
    | commands untold asked => rw [untold, asked, if_pos rfl]
    | pages untold unasked => rw [untold, unasked, if_neg Bool.false_ne_true]
  · rintro rfl
    split
    · rename_i told
      exact .told told
    · rename_i untold
      split
      · rename_i asked
        exact .commands untold asked
      · rename_i unasked
        exact .pages untold (eq_false_of_ne_true unasked)

theorem exists_makes (arguments : Arguments) (config : Config) (commands : List Command) :
    ∃ artifact, arguments.Makes config commands artifact := by
  cases asked : arguments.wantsCommands with
  | true => exact ⟨_, .text asked⟩
  | false => exact ⟨_, .pages asked⟩

theorem render_of_makes {text : String} {commands : List Command} {artifact : Artifact}
    (drawn : drawDocument text arguments.config = .ok commands)
    (makes : arguments.Makes arguments.config commands artifact) :
    arguments.render text = .ok (artifact, cellCount commands) := by
  rw [render, renderDocument, drawn]
  cases makes with
  | text asked =>
    rw [if_pos asked]
    rfl
  | pages unasked =>
    rw [unasked]
    rfl

theorem render_of_error {text : String} {error : RenderError}
    (undrawn : drawDocument text arguments.config = .error error) :
    arguments.render text = .error error := by
  rw [render, renderDocument, undrawn]
  exact ite_self _

end Arguments

/-! ## Steps of a run -/

section

variable {m : Type → Type} [Monad m]

/-- Writing a result to a path. -/
inductive Writes (disk : Disk m) (path : String) (artifact : Artifact) (cells : Nat) :
    m Ending → Prop where
  | mk {next : Except FileError Unit → m Ending}
      (unwritable : ∀ error, next (.error error) = pure (.unwritable path error))
      (wrote : next (.ok ()) = pure (.wrote path artifact cells)) :
      Writes disk path artifact cells (disk.write path artifact >>= next)

/-- Making the directories on the way to a path, if there are any, and writing a result to it. -/
inductive Saves (disk : Disk m) (path : String) (artifact : Artifact) (cells : Nat) :
    m Ending → Prop where
  | bare {action : m Ending} (bare : parentPath path = "")
      (writes : Writes disk path artifact cells action) : Saves disk path artifact cells action
  | nested {next : Except FileError Unit → m Ending} (nested : parentPath path ≠ "")
      (noDirectory : ∀ error, next (.error error) = pure (.noDirectory error))
      (writes : Writes disk path artifact cells (next (.ok ()))) :
      Saves disk path artifact cells (disk.makeDirectories (parentPath path) >>= next)

/-- What follows when something came back for the input. -/
inductive Follows (disk : Disk m) (arguments : Arguments)
    (content : Except FileError (List UInt8)) : m Ending → Prop where
  | unreadable {error : FileError} (noText : textOfFile content = .error error) :
      Follows disk arguments content (pure (.unreadable arguments.input error))
  | failed {text : String} {config : Config} {error : RenderError}
      (read : textOfFile content = .ok text) (asks : arguments.Asks config)
      (undrawn : drawDocument text config = .error error) :
      Follows disk arguments content (pure (.failed error))
  | saves {text : String} {config : Config} {commands : List Command} {artifact : Artifact}
      {path : String} {action : m Ending} (read : textOfFile content = .ok text)
      (asks : arguments.Asks config) (drawn : drawDocument text config = .ok commands)
      (makes : arguments.Makes config commands artifact) (goes : arguments.GoesTo path)
      (saves : Saves disk path artifact (cellCount commands) action) :
      Follows disk arguments content action

/-- A run on accepted arguments: reading the input, and what follows. -/
inductive Runs (disk : Disk m) (arguments : Arguments) : m Ending → Prop where
  | mk {next : Except FileError (List UInt8) → m Ending}
      (follows : ∀ content, Follows disk arguments content (next content)) :
      Runs disk arguments (disk.read arguments.input >>= next)

/-! ## The run -/

variable {disk : Disk m} {path : String} {artifact : Artifact} {cells : Nat}
  {action action' : m Ending}

theorem Writes.eq (writes : Writes disk path artifact cells action)
    (writes' : Writes disk path artifact cells action') : action = action' := by
  obtain ⟨unwritable, wrote⟩ := writes
  obtain ⟨unwritable', wrote'⟩ := writes'
  refine bind_congr fun written => ?_
  cases written with
  | error error => rw [unwritable, unwritable']
  | ok => rw [wrote, wrote']

theorem Saves.eq (saves : Saves disk path artifact cells action)
    (saves' : Saves disk path artifact cells action') : action = action' := by
  cases saves with
  | bare bare writes =>
    cases saves' with
    | bare _ writes' => exact writes.eq writes'
    | nested nested => exact absurd bare nested
  | nested nested noDirectory writes =>
    cases saves' with
    | bare bare => exact absurd bare nested
    | nested _ noDirectory' writes' =>
      refine bind_congr fun made => ?_
      cases made with
      | error error => rw [noDirectory, noDirectory']
      | ok => exact writes.eq writes'

variable [LawfulMonad m]

theorem saves_save : Saves disk path artifact cells (save disk path artifact cells) := by
  unfold save
  dsimp only
  split
  · rename_i bare
    rw [pure_bind]
    exact .bare bare (.mk (fun _ => rfl) rfl)
  · rename_i nested
    exact .nested nested (fun _ => rfl) (.mk (fun _ => rfl) rfl)

/-- There is one run on accepted arguments, and that is what the program does. -/
theorem runs_iff {arguments : List String} {accepted : Arguments}
    (accepts : readArguments arguments = .ok accepted) :
    Runs disk accepted action ↔ action = run disk arguments := by
  unfold run
  rw [accepts]
  dsimp only
  constructor
  · rintro @⟨next, follows⟩
    -- Both actions read the input first, so they are compared for whatever comes back.
    refine bind_congr fun content => ?_
    have after := follows content
    generalize next content = action at *
    cases after with
    | unreadable noText => rw [noText]
    | failed read asks undrawn =>
      obtain rfl := Arguments.asks_iff.1 asks
      rw [read]
      dsimp only
      rw [Arguments.render_of_error undrawn]
    | saves read asks drawn makes goes saves =>
      obtain rfl := Arguments.asks_iff.1 asks
      obtain rfl := Arguments.goesTo_iff.1 goes
      rw [read]
      dsimp only
      rw [Arguments.render_of_makes drawn makes]
      exact saves.eq saves_save
  · rintro rfl
    refine .mk fun content => ?_
    cases read : textOfFile content with
    | error error => exact .unreadable read
    | ok text =>
      dsimp only
      cases drawn : drawDocument text accepted.config with
      | error error =>
        rw [Arguments.render_of_error drawn]
        exact .failed read (Arguments.asks_config accepted) drawn
      | ok commands =>
        obtain ⟨artifact, makes⟩ := accepted.exists_makes accepted.config commands
        rw [Arguments.render_of_makes drawn makes]
        exact .saves read (Arguments.asks_config accepted) drawn makes
          (Arguments.goesTo_iff.2 rfl) saves_save

end

end Folio.CommandLine
