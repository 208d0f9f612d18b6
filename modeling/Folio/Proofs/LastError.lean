import Folio.Proofs.FailureMessages

/-!
# The text of the last failure

The service keeps the text of a failure for the caller to ask for. A request that fails leaves the
places for the results alone, and one that succeeds leaves the text alone. But a text with a NUL is
not kept (`Service.lastError_answer_of_error`), and then the caller is told of no failure. So over a
run of requests the text that is kept tells of the failures exactly if no text of commands is
refused for a name with a NUL (`errorProtocol_iff`).
-/

namespace Folio

/-! ## What is kept -/

theorem kept_eq_some_iff {message text : String} :
    kept message = some text ↔ '\x00' ∉ message.toList ∧ message = text := by
  by_cases member : '\x00' ∈ message.toList <;> simp [kept, member]

/-! ## Names with a NUL -/

/-- Whether a request hands in a text of commands that is refused for the name of an unknown call or
alignment, and the name has a NUL. -/
def Request.NamesNul (request : Request) : Prop :=
  ∃ settings bytes text name names place,
    request = ⟨.perform settings, some bytes, true⟩ ∧
    Text.decode (untilNul bytes) = .ok text ∧
    readCommands text = .error ⟨.unknownVariant name names, place⟩ ∧
    '\x00' ∈ name.toList

/-- Whether a failure is about something else than commands. -/
def Failure.NotOfCommands (failure : Failure) : Prop :=
  ∀ error, failure ≠ .commands error

section

variable {p : Failure → Prop} (bytes : List UInt8) (config : Config)

/-- The pages of a document fail for its bytes or for what it says. -/
theorem errorsIn_pagesOfInput (notText : ∀ what fault, p (.notText what fault))
    (render : ∀ error, p (.render error)) : ErrorsIn p (pagesOfInput bytes config) := by
  refine ErrorsIn.bind (errorsIn_mapError (notText _)) fun text => ?_
  exact ErrorsIn.bind (errorsIn_mapError render) fun _ => errorsIn_ok _

/-- The commands of a document fail for the same, or for their text. -/
theorem errorsIn_commandsOfInput (notText : ∀ what fault, p (.notText what fault))
    (render : ∀ error, p (.render error))
    (text : ∀ commands, ErrorsIn p (handOver (writeCommands commands))) :
    ErrorsIn p (commandsOfInput bytes config) := by
  refine ErrorsIn.bind (errorsIn_mapError (notText _)) fun document => ?_
  exact ErrorsIn.bind (errorsIn_mapError render) text

/-- The pages of a text of commands fail for its bytes or for a command. -/
theorem errorsIn_pagesOfCommands (notText : ∀ what fault, p (.notText what fault))
    (commands : ∀ error, p (.commands error)) : ErrorsIn p (pagesOfCommands bytes config) := by
  refine ErrorsIn.bind (errorsIn_mapError (notText _)) fun text => ?_
  exact ErrorsIn.bind (errorsIn_mapError commands) fun _ => errorsIn_ok _

theorem notOfCommands_pagesOfInput :
    ErrorsIn Failure.NotOfCommands (pagesOfInput bytes config) :=
  errorsIn_pagesOfInput bytes config (fun _ _ => nofun) fun _ => nofun

theorem notOfCommands_commandsOfInput :
    ErrorsIn Failure.NotOfCommands (commandsOfInput bytes config) :=
  errorsIn_commandsOfInput bytes config (fun _ _ => nofun) (fun _ => nofun) fun _ =>
    errorsIn_handOver nofun _

end

theorem pagesOfCommands_eq_error_iff {bytes : List UInt8} {config : Config} {error : Json.Error} :
    pagesOfCommands bytes config = .error (.commands error) ↔
      ∃ text, Text.decode (untilNul bytes) = .ok text ∧ readCommands text = .error error := by
  cases decoded : Text.decode (untilNul bytes) with
  | error fault => simp [pagesOfCommands, decoded, Except.mapError, bind, Except.bind]
  | ok text =>
    cases read : readCommands text with
    | error error' => simp [pagesOfCommands, decoded, read, Except.mapError, bind, Except.bind]
    | ok commands =>
      simp [pagesOfCommands, decoded, read, Except.mapError, bind, Except.bind, pure, Except.pure]

/-- Only a text of commands can be refused for a command. -/
theorem result_eq_error_commands_iff {request : Request} {error : Json.Error} :
    request.result = .error (.commands error) ↔
      ∃ settings bytes text, request = ⟨.perform settings, some bytes, true⟩ ∧
        Text.decode (untilNul bytes) = .ok text ∧ readCommands text = .error error := by
  constructor
  · obtain ⟨task, input, hasPlaces⟩ := request
    intro failed
    cases input with
    | none => cases failed
    | some bytes =>
      cases hasPlaces with
      | false => cases failed
      | true =>
        cases task with
        | pages => exact absurd rfl (notOfCommands_pagesOfInput _ _ _ failed error)
        | pagesOn settings => exact absurd rfl (notOfCommands_pagesOfInput _ _ _ failed error)
        | commands settings => exact absurd rfl (notOfCommands_commandsOfInput _ _ _ failed error)
        | perform settings =>
          obtain ⟨text, decoded, read⟩ := pagesOfCommands_eq_error_iff.1 failed
          exact ⟨settings, bytes, text, rfl, decoded, read⟩
  · rintro ⟨settings, bytes, text, rfl, decoded, read⟩
    exact pagesOfCommands_eq_error_iff.2 ⟨text, decoded, read⟩

/-- A request that fails does so with a NUL in the text of its failure exactly if it names one. -/
theorem namesNul_iff {request : Request} {failure : Failure}
    (failed : request.result = .error failure) :
    request.NamesNul ↔ '\x00' ∈ failure.message.toList := by
  rw [nul_mem_message_iff failed]
  constructor
  · rintro ⟨settings, bytes, text, name, names, place, rfl, decoded, read, member⟩
    have same := failed.symm.trans
      (result_eq_error_commands_iff.2 ⟨settings, bytes, text, rfl, decoded, read⟩)
    cases same
    exact ⟨name, names, place, rfl, member⟩
  · rintro ⟨name, names, place, rfl, member⟩
    obtain ⟨settings, bytes, text, request, decoded, read⟩ :=
      result_eq_error_commands_iff.1 failed
    exact ⟨settings, bytes, text, name, names, place, request, decoded, read, member⟩

theorem Request.not_namesNul_of_ok {request : Request} {product : Product}
    (made : request.result = .ok product) : ¬ request.NamesNul := by
  rintro ⟨settings, bytes, text, name, names, place, request, decoded, read, -⟩
  have failed := result_eq_error_commands_iff.2 ⟨settings, bytes, text, request, decoded, read⟩
  rw [made] at failed
  cases failed

/-! ## One answer -/

/-- What the places for the results hold after a reply: its product, or else what they held. -/
def Reply.places (reply : Reply) (held : Option Product) : Option Product :=
  reply.product.or held

theorem Failure.status_ne_zero (failure : Failure) : failure.status ≠ 0 := by
  cases failure <;> simp [Failure.status]

namespace Service

section Answer

variable {service : Service} {request : Request}

theorem answer_of_ok {product : Product} (made : request.result = .ok product) :
    service.answer request = (service, ⟨0, some product⟩) := by
  rw [answer, made]

theorem answer_of_error {failure : Failure} (failed : request.result = .error failure) :
    service.answer request = (⟨kept failure.message⟩, ⟨failure.status, none⟩) := by
  rw [answer, failed]

theorem status_answer_eq_zero_iff :
    (service.answer request).2.status = 0 ↔ ∃ product, request.result = .ok product := by
  cases result : request.result with
  | ok product => simp [answer_of_ok result]
  | error failure => simp [answer_of_error result, failure.status_ne_zero]

theorem status_answer_ne_zero_iff :
    (service.answer request).2.status ≠ 0 ↔ ∃ failure, request.result = .error failure := by
  rw [ne_eq, status_answer_eq_zero_iff]
  cases request.result <;> simp

/-- After a failure its text is kept exactly if the request names no NUL. -/
theorem lastError_answer_of_error {failure : Failure} (failed : request.result = .error failure) :
    (service.answer request).1.lastError = some failure.message ↔ ¬ request.NamesNul := by
  rw [answer_of_error failed, namesNul_iff failed]
  dsimp only
  rw [kept_eq_some_iff, and_iff_left rfl]

/-- Whether a request is answered as the caller is told: a failure leaves its text and does not
touch the places for the results, and a success leaves the text that was there. -/
structure AnswersAsTold (service : Service) (request : Request) : Prop where
  text_of_failed : (service.answer request).2.status ≠ 0 →
    ∃ failure, request.result = .error failure ∧
      (service.answer request).1.lastError = some failure.message
  places_of_failed : (service.answer request).2.status ≠ 0 →
    ∀ held, (service.answer request).2.places held = held
  text_of_succeeded : (service.answer request).2.status = 0 →
    (service.answer request).1.lastError = service.lastError

theorem answersAsTold_iff : service.AnswersAsTold request ↔ ¬ request.NamesNul := by
  cases result : request.result with
  | ok product =>
    have succeeded : (service.answer request).2.status = 0 :=
      status_answer_eq_zero_iff.2 ⟨product, result⟩
    refine iff_of_true ⟨absurd succeeded, absurd succeeded, fun _ => ?_⟩
      (Request.not_namesNul_of_ok result)
    rw [answer_of_ok result]
  | error failure =>
    have failed : (service.answer request).2.status ≠ 0 :=
      status_answer_ne_zero_iff.2 ⟨failure, result⟩
    have text_iff : (service.answer request).1.lastError = some failure.message ↔
        ¬ request.NamesNul := lastError_answer_of_error result
    rw [← text_iff]
    constructor
    · intro told
      obtain ⟨failure', result', text⟩ := told.text_of_failed failed
      cases result.symm.trans result'
      exact text
    · intro text
      refine ⟨fun _ => ⟨failure, result, text⟩, ?_, fun succeeded => absurd succeeded failed⟩
      intro _ held
      rw [answer_of_error result, Reply.places, Option.none_or]

/-- An answer leaves no text exactly if there was none and the request succeeds. -/
theorem lastError_answer_eq_none_iff (noNul : ¬ request.NamesNul) :
    (service.answer request).1.lastError = none ↔
      service.lastError = none ∧ (service.answer request).2.status = 0 := by
  cases result : request.result with
  | ok product => simp [answer_of_ok result]
  | error failure =>
    rw [(lastError_answer_of_error result).2 noNul]
    refine iff_of_false nofun ?_
    rintro ⟨-, succeeded⟩
    exact status_answer_ne_zero_iff.2 ⟨failure, result⟩ succeeded

end Answer

/-! ## Runs -/

/-- The service after it has answered requests, one after another. -/
def after (service : Service) : List Request → Service
  | [] => service
  | request :: requests => (service.answer request).1.after requests

/-- The replies to requests that are answered one after another. -/
def replies (service : Service) : List Request → List Reply
  | [] => []
  | request :: requests =>
    (service.answer request).2 :: (service.answer request).1.replies requests

/-- After a run no text is kept exactly if there was none and all requests succeeded. -/
theorem lastError_after_eq_none_iff {requests : List Request}
    (noNul : ∀ request ∈ requests, ¬ request.NamesNul) (service : Service) :
    (service.after requests).lastError = none ↔
      service.lastError = none ∧ ∀ reply ∈ service.replies requests, reply.status = 0 := by
  induction requests generalizing service with
  | nil => simp [after, replies]
  | cons request requests ih =>
    obtain ⟨first, others⟩ := List.forall_mem_cons.1 noNul
    rw [after, replies, List.forall_mem_cons, ih others, lastError_answer_eq_none_iff first,
      and_assoc]

end Service

/-- Whether a new service tells its caller of all failures in a run: every request is answered as
told, and at any time no text is kept exactly if no request has failed yet. -/
structure ErrorProtocol (requests : List Request) : Prop where
  answers : ∀ before request behind, requests = before ++ request :: behind →
    (({} : Service).after before).AnswersAsTold request
  none_iff : ∀ before behind, requests = before ++ behind →
    ((({} : Service).after before).lastError = none ↔
      ∀ reply ∈ ({} : Service).replies before, reply.status = 0)

/-- The caller is told of all failures exactly if no text of commands in the run is refused for a
name with a NUL. -/
theorem errorProtocol_iff (requests : List Request) :
    ErrorProtocol requests ↔ ∀ request ∈ requests, ¬ request.NamesNul := by
  constructor
  · intro protocol request member
    obtain ⟨before, behind, split⟩ := List.append_of_mem member
    exact Service.answersAsTold_iff.1 (protocol.answers before request behind split)
  · intro noNul
    constructor
    · rintro before request behind rfl
      exact Service.answersAsTold_iff.2 (noNul request (by simp))
    · rintro before behind rfl
      have noNulBefore : ∀ request ∈ before, ¬ request.NamesNul :=
        fun request member => noNul request (List.mem_append_left behind member)
      rw [Service.lastError_after_eq_none_iff noNulBefore]
      exact and_iff_right rfl

/-- A text of one command, whose name is a NUL. -/
def nulNamed : Request :=
  ⟨.perform none, some (Text.encode "[\x7b\"op\":\"\\u0000\"\x7d]"), true⟩

/-- The text of commands is refused, but no text of the failure is kept. -/
theorem not_forall_errorProtocol : ¬ ∀ requests, ErrorProtocol requests := by
  intro all
  have silent : (({} : Service).after [nulNamed]).lastError = none := by
    decide +kernel
  have refused : ¬ ∀ reply ∈ ({} : Service).replies [nulNamed], reply.status = 0 := by
    decide +kernel
  exact refused (((all [nulNamed]).none_iff [nulNamed] [] rfl).1 silent)

end Folio
