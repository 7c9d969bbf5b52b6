import ExactFactorial.Program.Host

namespace ExactFactorial

/-!
# The run of a modelled host

The program has been told twice, as a function of an invocation and as steps that any host can take.
On the modelled host the two are the same.  Each step is compared by itself, with the channels as
they are before it and as they are after it, and the steps are then put together in the order in
which the host takes them.  What a real machine does is told by the same steps.
-/

/-- What the outcome of a run amounts to, with the channels as the run leaves them. -/
def endingOf : Outcome × Channels → Program.Ending
  | (.exit code, channels) => .finished ⟨code, channels.output, channels.errors, channels.input⟩
  | (.aborted, _) => .aborted
  | (.stalled, _) => .stalled

namespace Host

/-- A step that is over hands its value and the channels to what comes after it. -/
theorem run_bind_of_run {α β : Type} {step : StateM Channels α} {before after : Channels}
    {value : α} (ended : step.run before = (value, after)) (later : α → StateM Channels β) :
    (step >>= later).run before = (later value).run after := by
  rw [StateT.run_bind, ended]
  rfl

variable (files : Storage.FileTree) (channels : Channels)

/-! ## Single requests -/

theorem isFile_run (path : Bytes) :
    ((modelled files).isFile path).run channels = (files.isFile path, channels) := rfl

theorem readFile_run (path : Bytes) :
    ((modelled files).readFile path).run channels = (files.read path, channels) := rfl

theorem write_run (bytes : Bytes) :
    ((modelled files).write bytes).run channels =
      ((channels.output.write bytes).1,
        { channels with output := (channels.output.write bytes).2 }) := rfl

theorem readLine_run :
    (modelled files).readLine.run channels =
      (channels.input.readLine.1, { channels with input := channels.input.readLine.2 }) := rfl

theorem report_run (text : String) :
    ((modelled files).report text).run channels =
      ((), { channels with errors := channels.errors ++ text }) := rfl

theorem settingsFile_run (environment : Settings.Environment) :
    ((modelled files).settingsFile environment).run channels =
      (environment.settingsFile files.isFile, channels) := by
  rw [settingsFile, Settings.Environment.settingsFile]
  cases environment.namedPath? with
  | none => rfl
  | some path =>
      dsimp only
      rw [run_bind_of_run (isFile_run files channels path), Option.filter_some]
      cases files.isFile path <;> rfl

/-! ## Exchanges -/

theorem put_run (bytes : Bytes) :
    ((modelled files).put bytes).run channels =
      ((channels.output.put bytes).1,
        { channels with output := (channels.output.put bytes).2 }) := by
  rw [put, run_bind_of_run (write_run files channels bytes), Channel.Sink.put]
  rcases channels.output.write bytes with ⟨obstacle | _, next⟩
  · rfl
  · rfl

theorem answer_run (session : Session) (line : String) :
    ((modelled files).answer session line).run channels =
      (((session.answer line channels.output).result, (session.answer line channels.output).log),
        { channels with output := (session.answer line channels.output).sink }) := by
  rw [answer, run_bind_of_run (put_run files channels _)]
  rfl

theorem ask_run (session : Session) :
    ((modelled files).ask session).run channels =
      (((session.ask channels.input channels.output).1.result,
          (session.ask channels.input channels.output).1.log),
        { channels with
          input := (session.ask channels.input channels.output).2
          output := (session.ask channels.input channels.output).1.sink }) := by
  rw [ask, run_bind_of_run (put_run files channels _), Session.ask]
  rcases channels.output.put (Text.Utf8.encode session.prompt) with ⟨obstacle | _, next⟩
  · rfl
  · dsimp only
    rw [run_bind_of_run (readLine_run files _)]
    rcases channels.input.readLine with ⟨fault | line, after⟩
    · rfl
    · exact answer_run files ⟨after, next, channels.errors⟩ session _

/-! ## Whole runs -/

theorem print_run (text : String) :
    ((modelled files).print text).run channels =
      ((channels.output.write (Text.Utf8.encode (text ++ "\n"))).1,
        { channels with
          output := (channels.output.write (Text.Utf8.encode (text ++ "\n"))).2 }) :=
  write_run files channels _

/-- The program as a function of an invocation does what it does on the modelled host, from the same
channels and with nothing reported before. -/
theorem run_modelled (invocation : Program.Invocation) :
    endingOf (((modelled invocation.files).run invocation.environment invocation.arguments).run
        { input := invocation.input, output := invocation.output }) =
      Program.run invocation := by
  rw [run, run_bind_of_run (settingsFile_run _ _ _), run_bind_of_run (readFile_run _ _ _),
    run_bind_of_run (report_run _ _ _), Program.run, Settings.locate, String.empty_append]
  dsimp only
  cases Program.plan _ with
  | help _ | version _ | showPath =>
      rw [carryOut, run_bind_of_run (print_run _ _ _)]
      dsimp only
      rcases invocation.output.write _ with ⟨(fault | _) | _, output⟩ <;> rfl
  | complain text => rfl
  | answer session line =>
      rw [carryOut, run_bind_of_run (answer_run _ _ _ _)]
      dsimp only
      rcases session.answer line invocation.output with ⟨(fault | _) | verdict, output, log⟩ <;> rfl
  | ask session =>
      rw [carryOut, run_bind_of_run (ask_run _ _ _)]
      dsimp only
      rcases session.ask invocation.input invocation.output with
        ⟨⟨(fault | _) | verdict, output, log⟩, input⟩ <;> rfl
  | abort => rfl

end Host
end ExactFactorial
