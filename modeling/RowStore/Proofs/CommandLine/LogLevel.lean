import RowStore.Proofs.CommandLine.Grammar

/-!
# Command lines without their log filter

The log filter is given by a parameter like any other, in one argument or in two. Leaving these
out of an accepted command line leaves its other groups as they were, so what the command line asks
for besides the filter depends on the remaining arguments alone.
-/

namespace RowStore.CommandLine

/-- The arguments that are left when the log filter is not given, in either way. -/
def withoutLogLevel : List Argument → List Argument
  | [] => []
  | argument :: rest =>
    if argument = Parameter.logLevel.spelled then
      match rest with
      | [] => []
      | _ :: later => withoutLogLevel later
    else if Parameter.logLevel.spelledWith [] <+: argument then withoutLogLevel rest
    else argument :: withoutLogLevel rest

/-- An argument that gives the log filter or names it in front of its value. -/
def Argument.GivesLog (argument : Argument) : Prop :=
  argument = Parameter.logLevel.spelled ∨ Parameter.logLevel.spelledWith [] <+: argument

/-- Both ways to give the log filter can be told from the bytes of the argument. -/
instance (argument : Argument) : Decidable argument.GivesLog :=
  inferInstanceAs (Decidable (_ ∨ _))

/-- A log filter that is given in one argument is left out. -/
theorem withoutLogLevel_attached (value : Argument) (rest : List Argument) :
    withoutLogLevel (Parameter.logLevel.spelledWith value :: rest) = withoutLogLevel rest := by
  have longer : Parameter.logLevel.spelledWith value ≠ Parameter.logLevel.spelled := by
    simp [Parameter.spelledWith]
  have whole : Parameter.logLevel.spelledWith [] <+: Parameter.logLevel.spelledWith value :=
    spelledWith_nil_prefix.2 ⟨value, rfl⟩
  rw [withoutLogLevel.eq_def]
  exact (if_neg longer).trans (if_pos whole)

/-- A log filter that is given in two arguments is left out. -/
theorem withoutLogLevel_separate (value : Argument) (rest : List Argument) :
    withoutLogLevel (Parameter.logLevel.spelled :: value :: rest) = withoutLogLevel rest := by
  rw [withoutLogLevel, if_pos rfl]

/-- Any other argument stays. -/
theorem withoutLogLevel_cons {argument : Argument} (other : ¬argument.GivesLog)
    (rest : List Argument) :
    withoutLogLevel (argument :: rest) = argument :: withoutLogLevel rest := by
  obtain ⟨alone, whole⟩ := not_or.1 other
  rw [withoutLogLevel.eq_def]
  exact (if_neg alone).trans (if_neg whole)

/-- The arguments that give the log filter are read so. -/
theorem Argument.GivesLog.kind_eq {argument : Argument} (gives : argument.GivesLog) :
    argument.kind = .awaiting .logLevel ∨
      ∃ value, argument.kind = .item (.attached .logLevel value) := by
  obtain rfl | begins := gives
  · exact .inl (kind_spelled .logLevel)
  · obtain ⟨value, rfl⟩ := spelledWith_nil_prefix.1 begins
    exact .inr ⟨value, kind_spelledWith .logLevel value⟩

/-- A parameter by itself gives the log filter only if it is that. -/
theorem givesLog_spelled {parameter : Parameter} (gives : parameter.spelled.GivesLog) :
    parameter = .logLevel := by
  have kind := gives.kind_eq
  rw [kind_spelled] at kind
  obtain same | ⟨value, other⟩ := kind
  · exact ArgumentKind.awaiting.inj same
  · cases other

/-- A parameter with a value gives the log filter only if it is that. -/
theorem givesLog_spelledWith {parameter : Parameter} {value : Argument}
    (gives : (parameter.spelledWith value).GivesLog) : parameter = .logLevel := by
  have kind := gives.kind_eq
  rw [kind_spelledWith] at kind
  obtain other | ⟨_, same⟩ := kind
  · cases other
  · exact (Item.attached.inj (ArgumentKind.item.inj same)).1

/-- A value that can be an argument by itself does not give the log filter. -/
theorem not_givesLog_of_plain {value : Argument} (plain : value.Plain) : ¬value.GivesLog := by
  rintro (rfl | ⟨rest, rfl⟩)
  · exact absurd (isValue_iff.2 plain) (by decide)
  · have longer : Parameter.logLevel.spelledWith [] ++ rest = [dash] :=
      plain (List.prefix_append ..)
    simp [Parameter.spelledWith, Parameter.spelled] at longer

/-- Leaving out the log filter leaves out its group, and no other. -/
theorem Group.withoutLogLevel_append {front : List String} {setting : Setting}
    (group : Group front setting) (rest : List Argument) :
    withoutLogLevel (front.map Argument.ofText ++ rest) =
      if setting.option = .parameter .logLevel then withoutLogLevel rest
      else front.map Argument.ofText ++ withoutLogLevel rest := by
  cases group with
  | noPrompt => exact withoutLogLevel_cons (by decide) rest
  | @attached option value _ means =>
    obtain ⟨parameter, rfl, set⟩ := means_iff.1 means
    have about : setting.option = .parameter parameter := (sets_ofText_iff.2 set).option_eq
    rw [List.map_singleton, List.singleton_append, ofText_attached, about]
    by_cases log : parameter = .logLevel
    · rw [if_pos (by rw [log]), log, withoutLogLevel_attached]
    · rw [if_neg (by simp [log]), withoutLogLevel_cons (mt givesLog_spelledWith log),
        List.singleton_append]
  | @separate option value _ means plain =>
    obtain ⟨parameter, rfl, set⟩ := means_iff.1 means
    have about : setting.option = .parameter parameter := (sets_ofText_iff.2 set).option_eq
    rw [List.map_cons, List.map_singleton, List.cons_append, List.singleton_append,
      ofText_option, about]
    by_cases log : parameter = .logLevel
    · rw [if_pos (by rw [log]), log, withoutLogLevel_separate]
    · have stays := not_givesLog_of_plain (plain_iff.2 plain)
      rw [if_neg (by simp [log]), withoutLogLevel_cons (mt givesLog_spelled log),
        withoutLogLevel_cons stays, List.cons_append, List.singleton_append]

/-- The arguments left are groups for the other settings. -/
theorem written_withoutLogLevel {arguments : List Argument} {settings : List Setting}
    (written : Written arguments settings) :
    Written (withoutLogLevel arguments)
      (settings.filter (·.option != .parameter .logLevel)) := by
  induction written with
  | done => exact .done
  | terminated =>
    rw [withoutLogLevel_cons (by decide)]
    exact .terminated
  | @group front rest setting settings first _ ih =>
    rw [first.withoutLogLevel_append rest]
    by_cases log : setting.option = .parameter .logLevel
    · rw [if_pos log, List.filter_cons_of_neg (by simp [log])]
      exact ih
    · rw [if_neg log, List.filter_cons_of_pos (by simp [log])]
      exact .group first ih

/-- Besides the log filter a configuration reflects the other settings. -/
theorem reflects_withoutLogLevel {config : Config} {settings : List Setting}
    (reflects : config.Reflects settings) :
    ({ config with logLevel := none } : Config).Reflects
      (settings.filter (·.option != .parameter .logLevel)) := by
  have limit (count : Nat) : .maxPages count ∈ settings.filter (·.option != .parameter .logLevel) ↔
      .maxPages count ∈ settings := by simp [Setting.option]
  have prompt (text : String) : .prompt text ∈ settings.filter (·.option != .parameter .logLevel) ↔
      .prompt text ∈ settings := by simp [Setting.option]
  constructor
  case maxPages_given => simpa only [limit] using reflects.maxPages_given
  case maxPages_default => simpa only [limit] using reflects.maxPages_default
  case prompt_given => simpa only [prompt] using reflects.prompt_given
  case prompt_default => simpa only [prompt] using reflects.prompt_default
  case noPrompt_iff => simpa [Setting.option] using reflects.noPrompt_iff
  case logLevel_iff => simp [Setting.option]

/-- Accepted arguments are accepted without their log filter, as the other settings. -/
theorem ArgumentReader.Documented.read_withoutLogLevel {reader : ArgumentReader}
    (documented : reader.Documented) {arguments : List Argument} {given : List Setting}
    (read : reader.read arguments = .ok (.run given)) :
    reader.read (withoutLogLevel arguments) =
      .ok (.run (given.filter (·.option != .parameter .logLevel))) := by
  obtain ⟨written, tolerant⟩ := documented.written_of_read read
  exact documented.read_of_written (written_withoutLogLevel written) (tolerant.filter _)

/-- Accepted command lines that differ in the log filter alone ask for the same besides. -/
theorem eq_of_withoutLogLevel {reader : ArgumentReader} (documented : reader.Documented)
    {arguments others : List Argument} {config other : Config}
    (accepted : reader.parse arguments = .ok (.run config))
    (also : reader.parse others = .ok (.run other))
    (same : withoutLogLevel arguments = withoutLogLevel others) :
    ({ config with logLevel := none } : Config) = { other with logLevel := none } := by
  obtain ⟨given, read, rfl⟩ := ArgumentReader.parse_eq_run.1 accepted
  obtain ⟨otherGiven, otherRead, rfl⟩ := ArgumentReader.parse_eq_run.1 also
  have reflects := Config.reflects_ofSettings (documented.read_eq_run.1 read).2.once
  have otherReflects := Config.reflects_ofSettings (documented.read_eq_run.1 otherRead).2.once
  have left := documented.read_withoutLogLevel read
  rw [same, documented.read_withoutLogLevel otherRead, Except.ok.injEq,
    Request.run.injEq] at left
  have remaining := reflects_withoutLogLevel reflects
  rw [← left] at remaining
  exact remaining.unique (reflects_withoutLogLevel otherReflects)

end RowStore.CommandLine
