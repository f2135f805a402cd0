import Lox.Proofs.CommandLine.Verdict
import Lox.Proofs.Settings.LimitText

/-!
# The limit that the environment gives

The environment may have a text for the limit on nesting. Where it is the only one that gives a
limit, settings are made if the text can be read and the limit is not zero. Zero is read from every
text that writes it apart from `0` itself, so a text can be read and give no settings all the same
(`Settings.ofEnvironment_refuses_zero`).

An override wins over the limit of the environment, but only where the environment has a text that
can be read, or none. So a run with a limit of its own does not depend on the environment, except
that it is refused for a text that cannot be read (`CommandLine.override_wins_over_readable`).
-/

set_option autoImplicit false

namespace Lox

namespace Settings

variable {environment : Option String} {limit : Option Nat} {fallback : Option (Option Nat)}
  {file : Option String}

/-! ## Settings from the environment alone -/

/-- Settings are made with each limit that they can have. -/
theorem ofLimit_of_positive (positive : ∀ bound, limit = some bound → 0 < bound) (name : String) :
    ofLimit (limit.map Int.ofNat) name = .ok ⟨limit, name, positive⟩ :=
  ofLimit_eq_ok_iff.mpr ⟨rfl, rfl⟩

/-- **A text that can be read may still give no settings.** A text is not read, and settings cannot
be made for that reason. Or a limit is read from it that settings have, and they are made with it.
Or it is read as zero, which no settings have. The last is so for the texts that write zero between
their blanks in another way than by the one digit. -/
theorem ofEnvironment_refuses_zero (raw : String) :
    ((DepthLimit.read raw = .error (.unreadableLimit raw) ∧
        ofEnvironment (some raw) {} = .error (.unreadableLimit raw)) ∨
      (∃ settings : Settings, DepthLimit.read raw = .ok settings.limit ∧
        ofOverrides { limit := some (settings.limit.map Int.ofNat) } = .ok settings ∧
          ofEnvironment (some raw) {} = .ok settings) ∨
      (DepthLimit.read raw = .ok (some 0) ∧
        ofOverrides { limit := some (some 0) } = .error (.limitNotPositive 0) ∧
          ofEnvironment (some raw) {} = .error (.limitNotPositive 0))) ∧
    (DepthLimit.read raw = .ok (some 0) ↔
      DepthLimit.WritesInteger (Text.strip raw.toList) 0 ∧ Text.strip raw.toList ≠ ['0']) := by
  refine ⟨?_, DepthLimit.read_eq_ok_some_iff⟩
  cases read : DepthLimit.read raw with
  | error error =>
    obtain ⟨rfl, -⟩ := DepthLimit.read_eq_error_iff.mp read
    exact .inl ⟨rfl, by simp only [ofEnvironment, Option.map_some, read]⟩
  | ok limit =>
    have made : ofEnvironment (some raw) {} = ofLimit (limit.map Int.ofNat) unnamed :=
      @ofEnvironment_of_gives _ none _ (.some read)
    refine .inr ?_
    by_cases zero : limit = some 0
    · subst zero
      exact .inr ⟨rfl, rfl, made⟩
    · have positive : ∀ bound, limit = some bound → 0 < bound := by
        rintro bound rfl
        exact Nat.pos_of_ne_zero fun same => zero (congrArg some same)
      have usable := ofLimit_of_positive positive unnamed
      exact .inl ⟨⟨limit, unnamed, positive⟩, rfl, usable, made.trans usable⟩

/-- Zero can be written so that it is read as a limit, and then no settings are made. -/
theorem exists_read_without_settings :
    ¬ ∀ raw limit, DepthLimit.read raw = .ok limit →
      ∃ settings, ofEnvironment (some raw) {} = .ok settings := by
  intro usable
  obtain ⟨settings, made⟩ := usable "00" (some 0) (by decide)
  have refused : ofEnvironment (some "00") {} = .error (.limitNotPositive 0) := rfl
  rw [refused] at made
  contradiction

/-! ## Settings with an override -/

/-- An override is the limit, whatever limit is read from the environment. -/
theorem ofEnvironment_of_override (gives : DepthLimit.Gives environment fallback)
    (positive : ∀ bound, limit = some bound → 0 < bound) :
    ofEnvironment environment { limit := some (limit.map Int.ofNat), file } =
      .ok ⟨limit, file.getD unnamed, positive⟩ := by
  cases gives with
  | none => exact ofLimit_of_positive positive _
  | some read =>
    simp only [ofEnvironment, Option.map_some, read, Option.some_or, ofOverrides, Option.getD_some]
    exact ofLimit_of_positive positive _

/-- So settings are made with each override that they can have, and have it as their limit. -/
theorem exists_of_override {override : Option Int} (gives : DepthLimit.Gives environment fallback)
    (positive : ∀ bound ∈ override, 0 < bound) :
    ∃ settings : Settings,
      ofEnvironment environment { limit := some override, file } = .ok settings ∧
        settings.limit.map Int.ofNat = override ∧ settings.file = file.getD unnamed := by
  obtain ⟨limit, rfl⟩ : ∃ limit : Option Nat, limit.map Int.ofNat = override := by
    cases override with
    | none => exact ⟨none, rfl⟩
    | some bound =>
      obtain ⟨natural, rfl⟩ := Int.eq_ofNat_of_zero_le (Int.le_of_lt (positive bound rfl))
      exact ⟨some natural, rfl⟩
  have above : ∀ bound, limit = some bound → 0 < bound := by
    rintro bound rfl
    exact Int.natCast_pos.mp (positive bound rfl)
  exact ⟨_, ofEnvironment_of_override gives above, rfl, rfl⟩

/-- No override makes up for a text that cannot be read. -/
theorem ofEnvironment_of_unreadable {raw : String} {error : SettingsError}
    (unread : DepthLimit.read raw = .error error) (overrides : Overrides) :
    ofEnvironment (some raw) overrides = .error error := by
  simp only [ofEnvironment, Option.map_some, unread]

end Settings

namespace CommandLine

variable {environment other : Option String} {content : String → Except ReadError ByteArray}
  {arguments : List String} {options : Options}

/-! ## Runs with a limit of their own -/

/-- A run depends on the environment only through the settings of its options. -/
theorem run_congr (same : ∀ options, Understood arguments options →
      options.settings environment = options.settings other) :
    run environment content arguments = run other content arguments := by
  have planned : plan environment arguments = plan other arguments := by
    cases read : Options.read arguments with
    | error error => simp only [plan, read]
    | ok request =>
      cases request with
      | help => simp only [plan, read]
      | read given =>
        cases settled : given.settle with
        | error error => simp only [plan, read, planOptions, settled]
        | ok options =>
          by_cases sources : options.expression.isNone = options.file.isNone
          · simp [plan, read, planOptions, settled, sources]
          · have understood : Understood arguments options := ⟨⟨given, read, settled⟩, sources⟩
            simp only [plan, read, planOptions, settled, same options understood]
  rw [run, run, planned]

/-- The arguments carry a limit: where they are understood, there is a text from which a limit is
read that settings can have. -/
def CarriesLimit (arguments : List String) : Prop :=
  ∀ options, Understood arguments options →
    ∃ text limit, options.maxDepth = some (some text) ∧ DepthLimit.read text = .ok limit ∧
      ∀ bound, limit = some bound → 0 < bound

/-- The limit of the arguments is passed on as an override. -/
theorem CarriesLimit.exists_settings (carries : CarriesLimit arguments)
    (understood : Understood arguments options) :
    options.maxDepth ≠ some none ∧ ∃ limit : Option Nat,
      (∀ bound, limit = some bound → 0 < bound) ∧ ∀ environment,
        options.settings environment =
          Settings.ofEnvironment environment { limit := some (limit.map Int.ofNat) } := by
  obtain ⟨text, limit, flag, read, positive⟩ := carries options understood
  refine ⟨by simp [flag], limit, positive, fun environment => ?_⟩
  exact @Options.settings_of_gives _ (some text) _ _ flag (.some read)

/-- A limit of the arguments wins over each limit that can be read. -/
theorem CarriesLimit.run_eq {fallback : Option (Option Nat)} (carries : CarriesLimit arguments)
    (gives : DepthLimit.Gives environment fallback) :
    run environment content arguments = run none content arguments := by
  refine run_congr fun options understood => ?_
  obtain ⟨-, limit, positive, settings⟩ := carries.exists_settings understood
  rw [settings, settings]
  exact (Settings.ofEnvironment_of_override gives positive).trans
    (Settings.ofEnvironment_of_override .none positive).symm

/-- It does not make up for a text that cannot be read. -/
theorem CarriesLimit.run_unreadable {raw : String} {error : SettingsError}
    (carries : CarriesLimit arguments) (unread : DepthLimit.read raw = .error error)
    (understood : Understood arguments options) :
    run (some raw) content arguments = .ok (refuse (.badSetting error.message)) := by
  obtain ⟨flag, limit, -, settings⟩ := carries.exists_settings understood
  have refused : options.settings (some raw) = .error error :=
    (settings _).trans (Settings.ofEnvironment_of_unreadable unread _)
  exact run_of_finished ((plans_plan (some raw) understood).unique (.badSetting flag refused))

/-- **An override wins over each limit that can be read, and over no other text.** Where the
environment has no text or one that can be read, settings are made with the override as their limit,
and a run whose arguments carry a limit ends as without the environment. Where the environment has
a text that cannot be read, that is the error with every override, and a run is refused with it
unless its arguments are not understood in the first place. -/
theorem override_wins_over_readable (environment : Option String)
    (content : String → Except ReadError ByteArray) :
    (∀ (override : Option Int) (file : Option String), (∀ bound ∈ override, 0 < bound) →
      ((∃ fallback, DepthLimit.Gives environment fallback) →
        ∃ settings : Settings,
          Settings.ofEnvironment environment { limit := some override, file } = .ok settings ∧
            settings.limit.map Int.ofNat = override ∧
              settings.file = file.getD Settings.unnamed) ∧
      ∀ raw error, environment = some raw → DepthLimit.read raw = .error error →
        Settings.ofEnvironment environment { limit := some override, file } = .error error) ∧
    ∀ arguments, CarriesLimit arguments →
      ((∃ fallback, DepthLimit.Gives environment fallback) →
        run environment content arguments = run none content arguments) ∧
      ∀ raw error, environment = some raw → DepthLimit.read raw = .error error →
        (∀ options, Understood arguments options →
          run environment content arguments = .ok (refuse (.badSetting error.message))) ∧
        ((∀ options, ¬ Understood arguments options) →
          run environment content arguments = run none content arguments) := by
  refine ⟨fun override file positive => ⟨?_, ?_⟩, fun arguments carries => ⟨?_, ?_⟩⟩
  · rintro ⟨fallback, gives⟩
    exact Settings.exists_of_override gives positive
  · rintro raw error rfl unread
    exact Settings.ofEnvironment_of_unreadable unread _
  · rintro ⟨fallback, gives⟩
    exact carries.run_eq gives
  · rintro raw error rfl unread
    refine ⟨fun options understood => carries.run_unreadable unread understood, ?_⟩
    intro misunderstood
    exact run_congr fun options understood => absurd understood (misunderstood options)

/-- The arguments of a run with a limit of five. -/
def limitedArguments : List String := ["--max-depth", "5", "nil"]

theorem carriesLimit_limitedArguments : CarriesLimit limitedArguments := by
  intro options understood
  obtain ⟨given, read, settled⟩ := understood.exists_read
  obtain rfl : { expression := some "nil", maxDepth := some (some "5") } = given := by
    have known : Options.read limitedArguments =
        .ok (.read { expression := some "nil", maxDepth := some (some "5") }) := rfl
    simpa [known] using read
  cases settled
  exact ⟨"5", some 5, rfl, rfl, by simp⟩

/-- The limit of the arguments wins over twelve, but not over a word. -/
theorem override_wins_over_readable_twelve :
    let content : String → Except ReadError ByteArray := fun _ => .error (.file .notFound)
    (∃ settings : Settings,
      Settings.ofEnvironment (some "12") { limit := some (some 5) } = .ok settings ∧
        settings.limit.map Int.ofNat = some 5) ∧
      run (some "12") content limitedArguments = run none content limitedArguments ∧
      run (some "deep") content limitedArguments =
        .ok (refuse (.badSetting "invalid max depth: 'deep'")) := by
  intro content
  have gives : ∃ fallback, DepthLimit.Gives (some "12") fallback := ⟨_, .some rfl⟩
  have unread : DepthLimit.read "deep" = .error (.unreadableLimit "deep") := rfl
  have understood : Understood limitedArguments
      { expression := some "nil", maxDepth := some (some "5") } := ⟨⟨_, rfl, rfl⟩, by decide⟩
  obtain ⟨settings, made, limit, -⟩ :=
    ((override_wins_over_readable (some "12") content).1 (some 5) none (by simp)).1 gives
  refine ⟨⟨settings, made, limit⟩, ?_, ?_⟩
  · exact ((override_wins_over_readable _ content).2 _ carriesLimit_limitedArguments).1 gives
  · exact (((override_wins_over_readable _ content).2 _ carriesLimit_limitedArguments).2
      _ _ rfl unread).1 _ understood

/-- A text that cannot be read is an error in any case, so an override does not always win. -/
theorem exists_override_that_loses :
    ¬ ∀ (environment : Option String) (override : Option Int), (∀ bound ∈ override, 0 < bound) →
      ∃ settings : Settings,
        Settings.ofEnvironment environment { limit := some override } = .ok settings ∧
          settings.limit.map Int.ofNat = override := by
  intro wins
  obtain ⟨settings, made, -⟩ := wins (some "deep") (some 5) (by simp)
  have failed : Settings.ofEnvironment (some "deep") { limit := some (some 5) } =
      .error (.unreadableLimit "deep") := rfl
  rw [failed] at made
  contradiction

end CommandLine
end Lox
