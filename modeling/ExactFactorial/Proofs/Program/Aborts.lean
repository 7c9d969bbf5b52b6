import ExactFactorial.Program
import ExactFactorial.Proofs.Channel.Delivery
import ExactFactorial.Proofs.CommandLine.Texts

namespace ExactFactorial
namespace Program

open CommandLine (read)
open Text.Utf8 (encode isText lossy)

/-!
# Runs that are aborted

There are two causes: an argument that is no text where one is needed, and a settings path that
cannot be printed.  Arguments from the settings file are always texts, whatever the file holds.  So
where the arguments that were typed are texts as well, the first cause is out, and a run is aborted
just when the path is asked for and the output fails on it.

The second cause is not out of reach of the settings file, because the path may be asked for there.
Every other answer that the output fails on is reported as a fault.  An output that interrupts its
writer without end does not fail, and such a run is neither aborted nor finished.
-/

/-! ## Arguments that are texts -/

/-- The arguments of a run, with those of the settings file. -/
def Invocation.fullArguments (invocation : Invocation) : List Bytes :=
  Program.fullArguments (Settings.locate invocation.environment invocation.files).2
    invocation.arguments

/-- The line that tells where the settings file is. -/
def Invocation.pathLine (invocation : Invocation) : Bytes :=
  encode (lossy (Settings.locate invocation.environment invocation.files).1 ++ "\n")

theorem isText_of_mem_map_encode {texts : List String} {argument : Bytes}
    (member : argument ∈ texts.map encode) : isText argument = true := by
  rcases List.mem_map.mp member with ⟨text, _, rfl⟩
  exact Text.Utf8.isText_encode text

/-- The settings file adds nothing but texts to the arguments. -/
theorem isText_fullArguments {invocation : Invocation}
    (texts : ∀ argument ∈ invocation.arguments.tail, isText argument = true) :
    ∀ argument ∈ invocation.fullArguments.tail, isText argument = true := by
  intro argument member
  rcases List.mem_append.mp member with added | typed
  · exact isText_of_mem_map_encode added
  · exact texts argument typed

/-- Where the prompt and the number of a request come from, said of texts. -/
theorem read_of_spelled {given : List Bytes} {texts : List String}
    (spelled : given.tail = texts.map encode) :
    (∃ stop, read given = .error stop ∧ stop ≠ .undecodable) ∨
      ∃ request, read given = .ok request ∧
        (request.prompt = defaultPrompt ∨
          ∃ text ∈ texts, request.prompt.toList <:+: text.toList) ∧
        ∀ number, request.number = some number → number ∈ texts := by
  have allTexts : ∀ argument ∈ given.tail, isText argument = true := by
    rw [spelled]
    exact fun _ => isText_of_mem_map_encode
  rcases CommandLine.read_of_texts allTexts with stopped | ⟨request, asked, taken⟩
  · exact .inl stopped
  · rw [spelled] at taken
    refine .inr ⟨request, asked, ?_, ?_⟩
    · apply taken.prompt.imp_right
      rintro ⟨value, ⟨argument, member, cut⟩, shown⟩
      rcases List.mem_map.mp member with ⟨text, given, rfl⟩
      have part := cut.lossy_suffix
      rw [Text.Utf8.lossy_encode, ← shown] at part
      exact ⟨text, given, part.isInfix⟩
    · intro text held
      rcases taken.number text held with ⟨argument, member, rfl⟩
      rcases List.mem_map.mp member with ⟨text, given, rfl⟩
      rw [Text.Utf8.lossy_encode]
      exact given

/-! ## Plans that abort -/

theorem plan_ne_abort {arguments : List Bytes} (decodable : read arguments ≠ .error .undecodable) :
    plan arguments ≠ .abort := by
  rw [plan]
  cases result : read arguments with
  | error stop =>
      cases stop with
      | help => exact Plan.noConfusion
      | version => exact Plan.noConfusion
      | misuse cause given => exact Plan.noConfusion
      | undecodable => exact absurd result decodable
  | ok request =>
      simp only []
      split
      · exact Plan.noConfusion
      · split <;> exact Plan.noConfusion

theorem plan_eq_showPath_iff (arguments : List Bytes) :
    plan arguments = .showPath ↔
      ∃ request, read arguments = .ok request ∧ request.showPath = true := by
  rw [plan]
  cases read arguments with
  | error stop => cases stop <;> simp
  | ok request =>
      simp only [Except.ok.injEq, exists_eq_left']
      cases request.showPath with
      | true => simp
      | false => cases request.number <;> simp

/-- A run with decodable arguments is aborted only over the line with the path. -/
theorem run_eq_aborted_iff {invocation : Invocation}
    (decodable : read invocation.fullArguments ≠ .error .undecodable) :
    run invocation = .aborted ↔
      plan invocation.fullArguments = .showPath ∧
        ∃ fault, (invocation.output.write invocation.pathLine).1 = .error (.fault fault) := by
  have noAbort := plan_ne_abort decodable
  rw [Invocation.fullArguments] at noAbort ⊢
  rw [Invocation.pathLine, run]
  -- Three plans look at how a line was printed, and only the one for the path aborts over a fault.
  cases planned : plan (Program.fullArguments
      (Settings.locate invocation.environment invocation.files).2 invocation.arguments) with
  | abort => exact absurd planned noAbort
  | showPath =>
      simp only [planned, true_and]
      rcases invocation.output.write _ with ⟨(fault | _) | _, output⟩ <;> simp
  | version _ | help _ =>
      simp only [planned]
      rcases invocation.output.write _ with ⟨(fault | _) | _, output⟩ <;> simp
  | complain text => simp [planned]
  | answer _ _ | ask _ =>
      simp only [planned]
      split <;> simp

/-! ## Runs that do not end -/

theorem stalling_of_answer {session : Session} {line : String} {sink : Channel.Sink}
    (stalled : (session.answer line sink).result = .error .stall) : sink.rules.Stalling := by
  simp only [Session.answer] at stalled
  cases written : sink.put _ with
  | mk result next =>
      rw [written] at stalled
      cases result with
      | ok done => cases stalled
      | error obstacle =>
          cases stalled
          exact Channel.Sink.stalling_of_put written

theorem stalling_of_ask {session : Session} {source : Channel.Source}
    {sink : Channel.Sink} (stalled : (session.ask source sink).1.result = .error .stall) :
    sink.rules.Stalling := by
  have kept := sink.put_rules (encode session.prompt)
  rw [Session.ask] at stalled
  cases prompted : sink.put (encode session.prompt) with
  | mk result next =>
      rw [prompted] at stalled kept
      cases result with
      | error obstacle =>
          cases stalled
          exact Channel.Sink.stalling_of_put prompted
      | ok done =>
          rw [← kept]
          cases read : source.readLine with
          | mk result after =>
              rw [read] at stalled
              cases result with
              | error fault => cases stalled
              | ok line => exact stalling_of_answer stalled

/-- A run goes on without end only where its output interrupts it. -/
theorem stalling_of_run {invocation : Invocation} (stalled : run invocation = .stalled) :
    invocation.output.rules.Stalling := by
  rw [run] at stalled
  cases planned : plan (Program.fullArguments
      (Settings.locate invocation.environment invocation.files).2 invocation.arguments) with
  | abort => simp [planned] at stalled
  | complain text => simp [planned] at stalled
  | showPath | version _ | help _ =>
      simp only [planned] at stalled
      split at stalled <;> cases stalled
      rename_i printed
      exact Channel.Sink.stalling_of_write printed
  | answer session line =>
      simp only [planned] at stalled
      split at stalled <;> cases stalled
      rename_i ended
      exact stalling_of_answer ended
  | ask session =>
      simp only [planned] at stalled
      split at stalled <;> cases stalled
      rename_i ended
      exact stalling_of_ask ended

/-- With arguments that are texts the command line is read or refused, and the prompt and the number
of a request are parts of what was given.  Whatever is in the settings file, the run is then aborted
only where the path of that file is asked for and the output fails on it.  Where the output does not
interrupt the run without end, every other run is finished. -/
theorem only_unprintable_path_aborts (given : List Bytes) (texts : List String)
    (spelled : given.tail = texts.map encode) :
    ((∃ stop, read given = .error stop ∧ stop ≠ .undecodable) ∨
      ∃ request, read given = .ok request ∧
        (request.prompt = defaultPrompt ∨
          ∃ text ∈ texts, request.prompt.toList <:+: text.toList) ∧
        ∀ number, request.number = some number → number ∈ texts) ∧
    ∀ invocation : Invocation, invocation.arguments = given →
      (run invocation = .aborted ↔
        (∃ request, read invocation.fullArguments = .ok request ∧ request.showPath = true) ∧
          invocation.output.fits invocation.pathLine = false ∧
          invocation.output.rules.fault.kind ≠ .interrupted) ∧
      (run invocation = .stalled → invocation.output.rules.Stalling) ∧
      (invocation.output.rules.Reliable → ∃ report, run invocation = .finished report) := by
  refine ⟨read_of_spelled spelled, ?_⟩
  rintro invocation rfl
  have typed : ∀ argument ∈ invocation.arguments.tail, isText argument = true := by
    rw [spelled]
    exact fun _ => isText_of_mem_map_encode
  have aborted := run_eq_aborted_iff (CommandLine.read_ne_undecodable (isText_fullArguments typed))
  rw [plan_eq_showPath_iff, Channel.Sink.write_fails_iff] at aborted
  refine ⟨aborted, stalling_of_run, ?_⟩
  intro reliable
  have fitting : invocation.output.fits invocation.pathLine = true :=
    Channel.Sink.fits_of_room _ _ (reliable.hasRoom _)
  cases ended : run invocation with
  | finished report => exact ⟨report, rfl⟩
  | aborted =>
      have unfitting := (aborted.mp ended).2.1
      rw [fitting] at unfitting
      cases unfitting
  | stalled => exact absurd (stalling_of_run ended) reliable.not_stalling

/-- A cluster with an accented prompt behind its last letter, and a program name that is no text. -/
def accented : List Bytes :=
  [0xFF] :: ["-dp=Größe: ", "7"].map encode

/-- The settings file asks for its own path here, and the output takes it. -/
theorem accented_prompt_read_path_printed :
    ((∃ stop, read accented = .error stop ∧ stop ≠ .undecodable) ∨
      ∃ request, read accented = .ok request ∧
        (request.prompt = defaultPrompt ∨
          ∃ text ∈ ["-dp=Größe: ", "7"], request.prompt.toList <:+: text.toList) ∧
        ∀ number, request.number = some number → number ∈ ["-dp=Größe: ", "7"]) ∧
    ∃ report,
      run { arguments := accented, environment := { home := [] },
            files := (Storage.FileTree.empty []).write (encode ".config/factorial/config")
              (encode "--config-file\n") } = .finished report := by
  have law := only_unprintable_path_aborts accented ["-dp=Größe: ", "7"] rfl
  exact ⟨law.1, (law.2 _ rfl).2.2 ⟨rfl, rfl⟩⟩

/-- An output that takes nothing. -/
def fullDisk : Channel.Sink :=
  { rules := { capacity := some 0,
               fault := ⟨.named "StorageFull", "No space left on device (os error 28)"⟩ } }

/-- A settings file that asks for its own path aborts a run that without it only reports a fault. -/
theorem path_asked_in_settings_aborts :
    run { arguments := [encode "factorial"], environment := { home := [] },
          files := (Storage.FileTree.empty []).write (encode ".config/factorial/config")
            (encode "--config-file\n"),
          output := fullDisk } = .aborted ∧
    ∃ report,
      run { arguments := [encode "factorial"], environment := { home := [] },
            files := .empty [], output := fullDisk } = .finished report ∧
        report.code = 0 ∧
        report.errors =
          "[error] Failed to talk to the terminal: No space left on device (os error 28)\n" :=
  ⟨rfl, _, rfl, rfl, rfl⟩

end Program
end ExactFactorial
