import Autostart.Proofs.CommandLine.Lasting

/-!
# Layers of settings

Where the settings of a run come from. The environment gives settings for everything, the settings
file replaces those that it has a key for, and the options replace both. For the directories this is
the order of the layers whatever is set, an option counting as given when its variable is set. The
names of the desktop are the exception: the variable of their option is the one that the first layer
reads too, so when it is set the settings file has no say, and its names are not trimmed. The layers
of the desktop names are therefore in order when the option is given or the variable is not set, and
otherwise when the settings file is silent and the variable is plain.
-/

namespace Autostart.CommandLine

variable {env : Environment} {args : List String}

/-! ## Options -/

/-- The values that one text gives to an option. -/
def Takes.split (takes : Takes) (s : String) : List String :=
  match takes with
  | .many _ => Text.splitAll ':' s
  | _ => [s]

/-- The values of an accepted text are those that the text gives. -/
theorem eq_split_of_valuesOf {takes : Takes} {s : String} {values : List String}
    (h : Given.valuesOf takes s = .ok values) : values = takes.split s := by
  unfold Given.valuesOf at h
  cases takes with
  | nothing => cases h
  | one kind =>
    dsimp only at h
    split at h
    · exact (Except.ok.inj h).symm
    · cases h
  | many kind =>
    dsimp only at h
    split at h
    · exact (Except.ok.inj h).symm
    · cases h

/-- A variable gives an option the values of its text. -/
theorem eq_split_of_fromVariable {name long : String} {spec : OptionSpec}
    {values? : Option (List String)}
    (hspec : (sharedOptions.find? fun spec => spec.long = long) = some spec)
    (h : fromVariable env name long = .ok values?) :
    values? = (env name).map spec.takes.split := by
  unfold fromVariable at h
  rw [hspec] at h
  rcases hvariable : env name with _ | text
  · rw [hvariable] at h
    exact (Except.ok.inj h).symm
  · rw [hvariable] at h
    dsimp only at h
    rcases hvalues : Given.valuesOf spec.takes text with stop | values
    · rw [hvalues] at h
      cases h
    · rw [hvalues] at h
      obtain rfl := Except.ok.inj h
      rw [eq_split_of_valuesOf hvalues]
      rfl

/-- An option has the values that it is given after the command, or else those before it, or else
those of its variable. -/
theorem eq_or_of_sharedValues {before after : Given} {name long : String} {spec : OptionSpec}
    {values? : Option (List String)}
    (hspec : (sharedOptions.find? fun spec => spec.long = long) = some spec)
    (h : sharedValues env before after name long = .ok values?) :
    values? =
      ((after.values? long).or (before.values? long)).or ((env name).map spec.takes.split) := by
  unfold sharedValues at h
  rcases hafter : after.values? long with _ | later <;>
    rcases hbefore : before.values? long with _ | earlier <;>
    simp only [hafter, hbefore] at h
  · -- The option is given nowhere.
    exact eq_split_of_fromVariable hspec h
  · split at h
    · exact (Except.ok.inj h).symm
    · cases h
  · split at h
    · exact (Except.ok.inj h).symm
    · cases h
  · exact (Except.ok.inj h).symm

/-- The values that a list of arguments gives to an option that all commands share: those after the
command, or else those before it. -/
def given? (args : List String) (long : String) : Option (List String) :=
  match Given.read programLevel args with
  | .error _ => none
  | .ok before =>
    match before.subcommand? with
    | none => none
    | some (name, rest) =>
      match commands.find? fun (name', _) => name' = name with
      | none => none
      | some (_, options, places) =>
        match Given.read ⟨sharedOptions ++ helpOption :: options, places, []⟩ rest with
        | .error _ => none
        | .ok after => (after.values? long).or (before.values? long)

/-- The values of an option that has a variable: those that the arguments give it, or else those of
the variable. -/
def optionValues? (env : Environment) (args : List String) (name long : String) (takes : Takes) :
    Option (List String) :=
  (given? args long).or ((env name).map takes.split)

/-- What a list of arguments asks for comes from what is given before and after the command. -/
theorem exists_given_of_read {invocation : Invocation}
    (h : Invocation.read env args = .ok invocation) :
    ∃ before after, (∀ long, given? args long = (after.values? long).or (before.values? long)) ∧
      sharedOf env before after = .ok invocation.shared := by
  unfold Invocation.read at h
  obtain ⟨before, hbefore, hrest⟩ := bind_eq_ok_iff.1 h
  split at hrest
  · cases hrest
  · next name rest hname =>
    split at hrest
    · cases hrest
    · next name' options places hcommand =>
      obtain ⟨after, hafter, hrest⟩ := bind_eq_ok_iff.1 hrest
      obtain ⟨command, -, hrest⟩ := bind_eq_ok_iff.1 hrest
      obtain ⟨shared, hshared, hread⟩ := bind_eq_ok_iff.1 hrest
      obtain rfl := Except.ok.inj hread
      refine ⟨before, after, fun long => ?_, hshared⟩
      unfold given?
      simp only [hbefore, hname, hcommand, hafter]

/-- The options that all commands share have the values that the arguments give them, or else those
of their variables. -/
theorem shared_of_read {invocation : Invocation} (h : Invocation.read env args = .ok invocation) :
    invocation.shared.userDirectory? =
        ((optionValues? env args "AUTOSTART_USER_DIR" "user-dir" (.one .path)).bind
          List.head?).map Path.mk ∧
      invocation.shared.systemDirectories? =
        (optionValues? env args "AUTOSTART_SYSTEM_DIRS" "system-dir" (.many .path)).map
          (List.map Path.mk) ∧
      invocation.shared.desktops? =
        optionValues? env args "XDG_CURRENT_DESKTOP" "desktop" (.many .text) := by
  obtain ⟨before, after, hgiven, hshared⟩ := exists_given_of_read h
  generalize invocation.shared = shared at hshared ⊢
  unfold sharedOf at hshared
  obtain ⟨config, -, hrest⟩ := bind_eq_ok_iff.1 hshared
  obtain ⟨user, huser, hrest⟩ := bind_eq_ok_iff.1 hrest
  obtain ⟨system, hsystem, hrest⟩ := bind_eq_ok_iff.1 hrest
  obtain ⟨desktops, hdesktops, hvalues⟩ := bind_eq_ok_iff.1 hrest
  obtain rfl := Except.ok.inj hvalues
  unfold optionValues?
  rw [hgiven, hgiven, hgiven]
  refine ⟨?_, ?_, ?_⟩
  · rw [eq_or_of_sharedValues rfl huser]
  · rw [eq_or_of_sharedValues rfl hsystem]
  · rw [eq_or_of_sharedValues rfl hdesktops]

/-! ## Layers -/

/-- A value of three layers: that of the option, or else that of the settings file, or else that of
the environment. -/
def layered {α : Type} (option? file? : Option α) (environment : α) : α :=
  option?.getD (file?.getD environment)

/-- The overrides of the settings file of a run, which are none without a file. -/
def ReadsOverrides (files : FileStore) (config? : Option Path) (file : Overrides) : Prop :=
  match config? with
  | none => file = Overrides.none
  | some path => Overrides.load files path = .ok file

/-- Settings that were applied are those with the overrides. -/
theorem eq_overlay_of_apply {base settings : Settings} {overrides : Overrides}
    (h : base.apply overrides = .ok settings) : settings = base.overlay overrides := by
  unfold Settings.apply at h
  dsimp only at h
  split at h
  · exact (Except.ok.inj h).symm
  · cases h

/-- The settings of a run have the directories and the desktop names of the options, or else of the
settings file, or else of the environment. -/
theorem layered_of_settingsOf {files : FileStore} {shared : Shared} {settings : Settings}
    (h : settingsOf env files shared = .ok settings) :
    ∃ file, ReadsOverrides files shared.config? file ∧
      settings.searchPath.userDirectory =
        layered shared.userDirectory? file.userDirectory?
          (Settings.ofEnvironment env).searchPath.userDirectory ∧
      settings.searchPath.systemDirectories =
        layered shared.systemDirectories? file.systemDirectories?
          (Settings.ofEnvironment env).searchPath.systemDirectories ∧
      settings.desktops =
        layered shared.desktops? file.desktops? (Settings.ofEnvironment env).desktops := by
  unfold settingsOf at h
  dsimp only at h
  rcases hconfig : shared.config? with _ | path
  · -- Without a settings file the options are laid over the environment.
    rw [hconfig] at h
    rcases hsettings : shared.settings env none with error | settings'
    · simp only [hsettings] at h
      cases h
    · simp only [hsettings] at h
      obtain rfl : settings' = settings := Except.ok.inj h
      unfold Shared.settings at hsettings
      rw [eq_overlay_of_apply hsettings]
      exact ⟨Overrides.none, rfl, rfl, rfl, rfl⟩
  · rw [hconfig] at h
    rcases hload : Overrides.load files path with error | file
    · simp only [hload] at h
      cases h
    · rcases hsettings : shared.settings env (some file) with error | settings'
      · simp only [hload, hsettings] at h
        cases h
      · simp only [hload, hsettings] at h
        obtain rfl : settings' = settings := Except.ok.inj h
        unfold Shared.settings at hsettings
        dsimp only at hsettings
        split at hsettings
        · next middle hmiddle =>
          rw [eq_overlay_of_apply hsettings, eq_overlay_of_apply hmiddle]
          exact ⟨file, hload, rfl, rfl, rfl⟩
        · cases hsettings

/-! ## Names of the desktop -/

/-- Plain names of desktops, without white space at their ends and none of them empty, are those of
the environment. -/
theorem desktopsOf_of_plain {names : String} (h : env "XDG_CURRENT_DESKTOP" = some names)
    (hplain : ∀ name ∈ Text.splitAll ':' names, name ≠ "" ∧ Text.trim name = name) :
    Settings.desktopsOf env = Text.splitAll ':' names := by
  have htrimmed : (Text.splitAll ':' names).map Text.trim = Text.splitAll ':' names := by
    calc (Text.splitAll ':' names).map Text.trim
        = (Text.splitAll ':' names).map id :=
          List.map_congr_left fun name hname => (hplain name hname).2
      _ = Text.splitAll ':' names := List.map_id _
  have hkept : (Text.splitAll ':' names).filter (fun name => !name.isEmpty) =
      Text.splitAll ':' names := by
    refine List.filter_eq_self.2 fun name hname => ?_
    have hne := (hplain name hname).1
    simpa using hne
  -- A text has at least one part, so the default desktop does not stand in.
  have hparts : Text.splitAll ':' names ≠ [] := by
    unfold Text.splitAll
    simpa using Chars.splitAll_ne_nil ':' names.toList
  unfold Settings.desktopsOf
  rw [h, Option.map_some, htrimmed, hkept]
  rcases hsplit : Text.splitAll ':' names with _ | ⟨name, rest⟩
  · exact absurd hsplit hparts
  · rfl

/-- The variable of the running desktop stays in its layer: the option is given, or the variable is
not set, or the settings file has no key for the desktop names and the variable is plain. -/
def VariableStaysBelow (env : Environment) (args : List String) (file : Overrides) : Prop :=
  (given? args "desktop").isSome = true ∨ env "XDG_CURRENT_DESKTOP" = none ∨
    file.desktops? = none ∧ ∀ names, env "XDG_CURRENT_DESKTOP" = some names →
      ∀ name ∈ Text.splitAll ':' names, name ≠ "" ∧ Text.trim name = name

/-- A variable that stays in its layer makes no option of itself. -/
theorem layered_desktops {file : Overrides} (h : VariableStaysBelow env args file) :
    layered (optionValues? env args "XDG_CURRENT_DESKTOP" "desktop" (.many .text)) file.desktops?
        (Settings.ofEnvironment env).desktops =
      layered (given? args "desktop") file.desktops? (Settings.ofEnvironment env).desktops := by
  unfold optionValues?
  rcases hgiven : given? args "desktop" with _ | names
  · rcases h with hsome | hunset | ⟨hsilent, hplain⟩
    · rw [hgiven] at hsome
      cases hsome
    · rw [hunset]
      rfl
    · rcases hvariable : env "XDG_CURRENT_DESKTOP" with _ | names
      · rfl
      · have hdesktops : (Settings.ofEnvironment env).desktops = Text.splitAll ':' names :=
          desktopsOf_of_plain hvariable (hplain names hvariable)
        rw [hsilent, hdesktops]
        rfl
  · rfl

/-- The layers of the settings of a run. The program runs its command on a scan with settings of
which the directory of the user and those of the system come from their option, where its variable
counts when it is not given, or else from the settings file, or else from the environment. So do the
names of the desktop, whose option has the variable that the environment is asked for as well; they
come from the option as it is given, or else from the settings file, or else from the environment,
whenever that variable stays in its layer. -/
theorem settings_layered {files : FileStore} {invocation : Invocation} {settings : Settings}
    (hread : Invocation.read env args = .ok invocation)
    (hsettings : settingsOf env files invocation.shared = .ok settings) :
    run env files args = runCommand (Registry.fresh settings files 0).scan invocation.command ∧
    ∃ file, ReadsOverrides files invocation.shared.config? file ∧
      settings.searchPath.userDirectory =
        layered (((optionValues? env args "AUTOSTART_USER_DIR" "user-dir" (.one .path)).bind
            List.head?).map Path.mk)
          file.userDirectory? (Settings.ofEnvironment env).searchPath.userDirectory ∧
      settings.searchPath.systemDirectories =
        layered ((optionValues? env args "AUTOSTART_SYSTEM_DIRS" "system-dir" (.many .path)).map
            (List.map Path.mk))
          file.systemDirectories? (Settings.ofEnvironment env).searchPath.systemDirectories ∧
      settings.desktops =
        layered (optionValues? env args "XDG_CURRENT_DESKTOP" "desktop" (.many .text))
          file.desktops? (Settings.ofEnvironment env).desktops ∧
      (VariableStaysBelow env args file → settings.desktops =
        layered (given? args "desktop") file.desktops? (Settings.ofEnvironment env).desktops) := by
  obtain ⟨huser, hsystem, hdesktops⟩ := shared_of_read hread
  obtain ⟨file, hfile, huser', hsystem', hdesktops'⟩ := layered_of_settingsOf hsettings
  rw [huser] at huser'
  rw [hsystem] at hsystem'
  rw [hdesktops] at hdesktops'
  refine ⟨(run_eq_runCommand hread hsettings).2, file, hfile, huser', hsystem', hdesktops',
    fun hbelow => ?_⟩
  exact hdesktops'.trans (layered_desktops hbelow)

/-! ## Runs -/

/-- A result that is a value is that of a computation which ends well. -/
theorem eq_ok_of_toOption {ε α : Type} {x : Except ε α} {a : α} (h : x.toOption = some a) :
    x = .ok a := by
  cases x with
  | error e => cases h
  | ok b => exact congrArg Except.ok (Option.some.inj h)

/-- An environment that sets the directory of the user and the running desktop. -/
def desktopSession (desktop : String) : Environment := fun name =>
  match name with
  | "AUTOSTART_USER_DIR" => some "mine"
  | "XDG_CURRENT_DESKTOP" => some desktop
  | _ => none

/-- Files with a settings file for the directories and the desktop names. -/
def threeOverrides : FileStore :=
  (FileStore.atDirectory []).put ⟨"settings.yaml"⟩
    (.file (.text "user-dir: theirs\nsystem-dirs: [system]\ndesktop-names: [KDE]\n"))

/-- Files with a settings file that is silent. -/
def silentOverrides : FileStore :=
  (FileStore.atDirectory []).put ⟨"settings.yaml"⟩ (.file (.text "# nothing\n"))

/-- The invocation that lists all launchers under the settings file, on some desktops. -/
def listingOn (desktops : List String) : Invocation :=
  ⟨⟨some ⟨"settings.yaml"⟩, some ⟨"mine"⟩, none, some desktops⟩, .list true false⟩

/-- The settings with the directory of the user that the environment names. -/
def settingsOn (systemDirectory : String) (desktops : List String) : Settings :=
  { Settings.ofDirectories ⟨⟨"mine"⟩, [⟨systemDirectory⟩]⟩ with desktops }

/-- With all layers set, the directory of the user is that of its variable, the directory of the
system that of the settings file, and the desktop that of the option. -/
theorem settings_layered_allSet :
    let args := ["list", "--all", "--config", "settings.yaml", "--desktop", "XFCE"]
    Invocation.read (desktopSession "MATE") args = .ok (listingOn ["XFCE"]) ∧
    ∃ settings, settingsOf (desktopSession "MATE") threeOverrides (listingOn ["XFCE"]).shared =
        .ok settings ∧
      settings.searchPath.userDirectory = ⟨"mine"⟩ ∧
      settings.searchPath.systemDirectories = [⟨"system"⟩] ∧ settings.desktops = ["XFCE"] := by
  intro args
  have hread : Invocation.read (desktopSession "MATE") args = .ok (listingOn ["XFCE"]) :=
    eq_ok_of_toOption (by decide)
  have hsettings : settingsOf (desktopSession "MATE") threeOverrides (listingOn ["XFCE"]).shared =
      .ok (settingsOn "system" ["XFCE"]) := eq_ok_of_toOption (by decide +kernel)
  have hgiven : given? args "desktop" = some ["XFCE"] := by decide
  obtain ⟨-, file, -, huser, -, -, hdesktops⟩ := settings_layered hread hsettings
  have hbelow : VariableStaysBelow (desktopSession "MATE") args file :=
    .inl (by rw [hgiven]; rfl)
  refine ⟨hread, _, hsettings, huser.trans ?_, rfl, (hdesktops hbelow).trans ?_⟩
  · have hvariable : optionValues? (desktopSession "MATE") args "AUTOSTART_USER_DIR" "user-dir"
        (.one .path) = some ["mine"] := by decide
    rw [hvariable]
    rfl
  · rw [hgiven]
    rfl

/-- The desktop names of a run are not those of the option, or else of the settings file, or else of
the environment. -/
def OutOfOrder (env : Environment) (files : FileStore) (args : List String) : Prop :=
  ∃ invocation settings file, Invocation.read env args = .ok invocation ∧
    settingsOf env files invocation.shared = .ok settings ∧
    ReadsOverrides files invocation.shared.config? file ∧
    settings.desktops ≠
      layered (given? args "desktop") file.desktops? (Settings.ofEnvironment env).desktops

/-- The variable of the running desktop overrules the settings file, and without a key of the file
an empty variable stands for a desktop without a name in place of the default one. -/
theorem variable_overrules :
    let args := ["list", "--all", "--config", "settings.yaml"]
    OutOfOrder (desktopSession "MATE") threeOverrides args ∧
      OutOfOrder (desktopSession "") silentOverrides args := by
  intro args
  constructor
  · have hread : Invocation.read (desktopSession "MATE") args = .ok (listingOn ["MATE"]) :=
      eq_ok_of_toOption (by decide)
    have hsettings : settingsOf (desktopSession "MATE") threeOverrides
        (listingOn ["MATE"]).shared = .ok (settingsOn "system" ["MATE"]) :=
      eq_ok_of_toOption (by decide +kernel)
    have hfile : Overrides.load threeOverrides ⟨"settings.yaml"⟩ =
        .ok ⟨some ⟨"theirs"⟩, some [⟨"system"⟩], some ["KDE"], none, none, none⟩ :=
      eq_ok_of_toOption (by decide +kernel)
    exact ⟨_, _, _, hread, hsettings, hfile, by decide⟩
  · have hread : Invocation.read (desktopSession "") args = .ok (listingOn [""]) :=
      eq_ok_of_toOption (by decide)
    have hsettings : settingsOf (desktopSession "") silentOverrides (listingOn [""]).shared =
        .ok (settingsOn "/etc/xdg/autostart" [""]) := eq_ok_of_toOption (by decide +kernel)
    have hfile : Overrides.load silentOverrides ⟨"settings.yaml"⟩ = .ok Overrides.none :=
      eq_ok_of_toOption (by decide +kernel)
    exact ⟨_, _, _, hread, hsettings, hfile, by decide⟩

end Autostart.CommandLine
