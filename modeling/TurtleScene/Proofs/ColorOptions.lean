/-
**Colours on the command line.**

The colours that a command line allows can stand anywhere among its other arguments, in any order
and more than once. What they change is settled by which colours there are: a command line is read
as it would be without them, apart from the wording of a misuse.

* `separate` — the colours of a command line, and its other arguments.
* `EndAlike` — two readings that end in the same way: with results, with the same request for
  information, or both with a misuse.
* `Progress.Agrees` — two readings on their way, one of which has seen colours that the other has
  not. Each step on an argument keeps it (`Progress.Agrees.readLong` and its siblings), and so does
  a colour that only one of them reads (`Progress.Agrees.give`).
* `readArguments_separate` — a command line read with its colours and without them.
* **`palette_and_answers`** — what a palette accepts, and what becomes of that in runs and answers.
-/

import TurtleScene.Proofs.Acceptance

namespace TurtleScene.Command

/-! ### Colours and other arguments -/

/-- The colours that a command line allows, and its other arguments in order. Two dashes end the
options, and so does a colour option without a colour behind it. -/
def separate : List String → List String × List String
  | [] => ([], [])
  | argument :: others =>
    match Word.ofArgument argument with
    | .separator => ([], argument :: others)
    | .long name value =>
      if OptionName.ofLong? name = some .color then
        match value with
        | some color => (color :: (separate others).1, (separate others).2)
        | none =>
          match others with
          | [] => ([], [argument])
          | color :: rest =>
            if Word.ofArgument color = .plain then (color :: (separate rest).1, (separate rest).2)
            else ([], argument :: color :: rest)
      else ((separate others).1, argument :: (separate others).2)
    | .short _ | .plain => ((separate others).1, argument :: (separate others).2)

/-- An argument that is no colour option and does not end the options. -/
def IsOther (argument : String) : Prop :=
  Word.ofArgument argument ≠ .separator ∧
    ∀ name value, Word.ofArgument argument = .long name value →
      OptionName.ofLong? name ≠ some .color

theorem separate_separator {argument : String} (form : Word.ofArgument argument = .separator)
    (others : List String) : separate (argument :: others) = ([], argument :: others) := by
  cases others <;> simp only [separate, form]

theorem separate_beside {argument name color : String}
    (form : Word.ofArgument argument = .long name (some color))
    (known : OptionName.ofLong? name = some .color) (others : List String) :
    separate (argument :: others) = (color :: (separate others).1, (separate others).2) := by
  cases others <;> simp only [separate, form, known, if_true]

theorem separate_behind {argument name color : String}
    (form : Word.ofArgument argument = .long name none)
    (known : OptionName.ofLong? name = some .color) (plain : Word.ofArgument color = .plain)
    (others : List String) :
    separate (argument :: color :: others) =
      (color :: (separate others).1, (separate others).2) := by
  simp only [separate, form, known, plain, if_true]

theorem separate_incomplete {argument name : String}
    (form : Word.ofArgument argument = .long name none)
    (known : OptionName.ofLong? name = some .color) {others : List String}
    (incomplete : ∀ color ∈ others.head?, Word.ofArgument color ≠ .plain) :
    separate (argument :: others) = ([], argument :: others) := by
  cases others with
  | nil => simp only [separate, form, known, if_true]
  | cons color rest => simp only [separate, form, known, incomplete color rfl, if_true, if_false]

theorem separate_other {argument : String} (isOther : IsOther argument) (others : List String) :
    separate (argument :: others) = ((separate others).1, argument :: (separate others).2) := by
  obtain ⟨further, unlike⟩ := isOther
  cases form : Word.ofArgument argument with
  | separator => exact absurd form further
  | long name value => cases others <;> simp only [separate, form, unlike name value form, if_false]
  | short letters => cases others <;> simp only [separate, form]
  | plain => cases others <;> simp only [separate, form]

/-- Two readings end in the same way. -/
inductive EndAlike {α β : Type} (same : α → β → Prop) : Except Stop α → Except Stop β → Prop
  | ok {first : α} {second : β} : same first second → EndAlike same (.ok first) (.ok second)
  | misuse (error other : UsageError) :
    EndAlike same (.error (.misuse error)) (.error (.misuse other))
  | inform (asked : Information) : EndAlike same (.error (.inform asked)) (.error (.inform asked))

theorem EndAlike.bind {α β γ δ : Type} {same : α → β → Prop} {further : γ → δ → Prop}
    {first : Except Stop α} {second : Except Stop β} {next : α → Except Stop γ}
    {other : β → Except Stop δ} (alike : EndAlike same first second)
    (behind : ∀ result twin, same result twin → EndAlike further (next result) (other twin)) :
    EndAlike further (first >>= next) (second >>= other) := by
  cases alike with
  | ok related => exact behind _ _ related
  | misuse error other => exact .misuse error other
  | inform asked => exact .inform asked

/-- A reading that a misuse ended. -/
def Misused {α : Type} (result : Except Stop α) : Prop := ∃ error, result = .error (.misuse error)

theorem Misused.bind {α β : Type} {result : Except Stop α} (misused : Misused result)
    (next : α → Except Stop β) : Misused (result >>= next) := by
  obtain ⟨error, rfl⟩ := misused
  exact ⟨error, rfl⟩

theorem Word.ofArgument_ne_short_nil (argument : String) :
    Word.ofArgument argument ≠ .short [] := by
  intro same
  unfold Word.ofArgument at same
  split at same
  · cases same
  · dsimp only at same
    split at same <;> cases same
  · cases same
  · cases same

namespace Progress

/-- The file that was named, be it settled or not. -/
def named (progress : Progress) : Option String :=
  match progress.pending with
  | .input name => some name
  | .nothing | .color | .colorValue _ => progress.input

/-- The colours that were given, be they settled or not. -/
def given (progress : Progress) : List String :=
  match progress.pending with
  | .colorValue color => progress.colors ++ [color]
  | .nothing | .color | .input _ => progress.colors

/-- No option waits for its value, and the file that was settled has a name. -/
structure Ready (progress : Progress) : Prop where
  complete : progress.pending ≠ .color
  valid : progress.input ≠ some ""

/-- What is pending cannot be settled. -/
def Stuck (progress : Progress) : Prop := Misused progress.settle

/-- One reading has seen colours; apart from them it has seen the same as the other one. -/
structure Agrees (colors : List String) (progress other : Progress) : Prop where
  ready : progress.Ready
  otherReady : other.Ready
  named : progress.named = other.named
  choices : progress.choices = other.choices
  given : progress.given = colors

/-- The same with nothing pending. -/
structure Settled (colors : List String) (progress other : Progress) : Prop where
  idle : progress.pending = .nothing
  otherIdle : other.pending = .nothing
  valid : other.input ≠ some ""
  input : progress.input = other.input
  choices : progress.choices = other.choices
  colors : progress.colors = colors

theorem Settled.agrees {colors : List String} {progress other : Progress}
    (settled : Settled colors progress other) : Agrees colors progress other where
  ready := ⟨by simp [settled.idle], settled.input.symm ▸ settled.valid⟩
  otherReady := ⟨by simp [settled.otherIdle], settled.valid⟩
  named := by simp only [named, settled.idle, settled.otherIdle, settled.input]
  choices := settled.choices
  given := by simp only [given, settled.idle, settled.colors]

@[simp] theorem use_input (progress : Progress) (option : OptionName) :
    (progress.use option).input = progress.input := by
  unfold use
  split <;> rfl

@[simp] theorem use_colors (progress : Progress) (option : OptionName) :
    (progress.use option).colors = progress.colors := by
  unfold use
  split <;> rfl

@[simp] theorem use_choices (progress : Progress) (option : OptionName) :
    (progress.use option).choices = progress.choices := by
  unfold use
  split <;> rfl

@[simp] theorem use_pending (progress : Progress) (option : OptionName) :
    (progress.use option).pending = progress.pending := by
  unfold use
  split <;> rfl

theorem hasInput_eq (progress : Progress) : progress.hasInput = progress.named.isSome := by
  unfold hasInput named
  cases progress.pending <;> rfl

/-- What is pending can be settled, unless a file without a name is. -/
theorem Ready.settle {progress : Progress} (ready : progress.Ready) :
    progress.named = some "" ∧ progress.Stuck ∨
      progress.named ≠ some "" ∧ ∃ settled, progress.settle = .ok settled ∧
        settled.pending = .nothing ∧ settled.input = progress.named ∧
          settled.colors = progress.given ∧ settled.choices = progress.choices := by
  obtain ⟨input, colors, choices, used, pending⟩ := progress
  cases pending with
  | nothing => exact .inr ⟨ready.valid, _, rfl, rfl, rfl, rfl, rfl⟩
  | color => exact absurd rfl ready.complete
  | colorValue color =>
    exact .inr ⟨ready.valid, _, rfl, rfl, use_input _ _, rfl, use_choices _ _⟩
  | input name =>
    by_cases empty : name = ""
    · subst empty
      exact .inl ⟨rfl, _, rfl⟩
    · refine .inr ⟨fun same => empty (Option.some.inj same), ?_⟩
      exact ⟨⟨some name, colors, choices, used, .nothing⟩, by simp [Progress.settle],
        rfl, rfl, rfl, rfl⟩

/-! ### Readings that cannot go on -/

theorem Stuck.readOption {progress : Progress} (stuck : progress.Stuck) (option : OptionName) :
    Misused (Command.readOption progress option) := by
  cases option with
  | choice made => exact stuck.bind _
  | information asked =>
    obtain ⟨error, refused⟩ := stuck
    exact ⟨error, by simp only [Command.readOption, inform, refused]; rfl⟩
  | color => exact stuck.bind _

theorem Stuck.readLong {progress : Progress} (stuck : progress.Stuck) (name : String)
    (value : Option String) : Misused (Command.readLong progress name value) := by
  unfold Command.readLong
  split
  · exact stuck.bind _
  · exact stuck.readOption _
  · exact ⟨_, rfl⟩
  · exact ⟨_, rfl⟩

theorem Stuck.readShort {progress : Progress} (stuck : progress.Stuck) (letter : Char)
    (letters : List Char) : Misused (Command.readShort progress (letter :: letters)) := by
  rw [Command.readShort]
  split
  · exact (stuck.readOption _).bind _
  · exact ⟨_, rfl⟩

theorem Stuck.nameInput {progress : Progress} (stuck : progress.Stuck) (argument : String) :
    Misused (progress.nameInput argument) := by
  unfold Progress.nameInput
  split
  · exact ⟨_, rfl⟩
  · exact stuck.bind _

/-- Behind what cannot be settled only a value that is waited for leads on. -/
theorem Stuck.readFrom {progress : Progress} (stuck : progress.Stuck) {arguments : List String}
    (unmet : progress.pending = .color →
      ∀ argument ∈ arguments.head?, Word.ofArgument argument ≠ .plain) :
    Misused (Command.readFrom progress arguments >>= Progress.finish) := by
  cases arguments with
  | nil => exact stuck.bind _
  | cons argument others =>
    rw [Command.readFrom]
    cases form : Word.ofArgument argument with
    | separator =>
      cases others with
      | nil => exact stuck.bind _
      | cons name names => exact ((stuck.nameInput name).bind _).bind _
    | long name value => exact ((stuck.readLong name value).bind _).bind _
    | short letters =>
      cases letters with
      | nil => exact absurd form (Word.ofArgument_ne_short_nil argument)
      | cons letter letters => exact ((stuck.readShort letter letters).bind _).bind _
    | plain =>
      have waitsNot : progress.pending ≠ .color := fun waits =>
        unmet waits argument rfl form
      have reads : readPlain progress argument = progress.nameInput argument := if_neg waitsNot
      rw [reads]
      exact ((stuck.nameInput argument).bind _).bind _

/-! ### Two readings in step -/

section Steps

variable {colors : List String} {progress other : Progress}

/-- Both readings can settle what is pending, or none of them can. -/
theorem Agrees.settle (agrees : Agrees colors progress other) :
    progress.Stuck ∧ other.Stuck ∨
      ∃ settled twin, progress.settle = .ok settled ∧ other.settle = .ok twin ∧
        Settled colors settled twin := by
  have named := agrees.named
  rcases agrees.ready.settle with ⟨unnamed, stuck⟩ |
    ⟨valid, settled, done, idle, input, given, made⟩
  · rcases agrees.otherReady.settle with ⟨_, otherStuck⟩ | ⟨otherValid, _⟩
    · exact .inl ⟨stuck, otherStuck⟩
    · exact absurd (named ▸ unnamed) otherValid
  · rcases agrees.otherReady.settle with ⟨unnamed, _⟩ |
      ⟨otherValid, twin, otherDone, otherIdle, otherInput, _, otherMade⟩
    · exact absurd (named.trans unnamed) valid
    · exact .inr ⟨settled, twin, done, otherDone, idle, otherIdle, otherInput ▸ otherValid,
        by rw [input, otherInput, named], by rw [made, otherMade, agrees.choices],
        given.trans agrees.given⟩

theorem Agrees.endAlike_settle (agrees : Agrees colors progress other) :
    EndAlike (Settled colors) progress.settle other.settle := by
  rcases agrees.settle with ⟨⟨_, refused⟩, _, otherRefused⟩ | ⟨_, _, done, otherDone, settled⟩
  · rw [refused, otherRefused]
    exact .misuse _ _
  · rw [done, otherDone]
    exact .ok settled

theorem Agrees.nameInput (agrees : Agrees colors progress other) (argument : String) :
    EndAlike (Agrees colors) (progress.nameInput argument) (other.nameInput argument) := by
  unfold Progress.nameInput
  rw [hasInput_eq, hasInput_eq, agrees.named]
  split
  · exact .misuse _ _
  · refine agrees.endAlike_settle.bind fun settled twin same => .ok ?_
    exact ⟨⟨nofun, same.agrees.ready.valid⟩, ⟨nofun, same.valid⟩, rfl, same.choices, same.colors⟩

theorem Agrees.nameInputs (agrees : Agrees colors progress other) (names : List String) :
    EndAlike (Agrees colors) (names.foldlM Progress.nameInput progress)
      (names.foldlM Progress.nameInput other) := by
  induction names generalizing progress other with
  | nil => exact .ok agrees
  | cons name names behind =>
    rw [List.foldlM_cons, List.foldlM_cons]
    exact (agrees.nameInput name).bind fun _ _ further => behind further

theorem Agrees.choose (agrees : Agrees colors progress other) (choice : Choice) :
    EndAlike (Agrees colors) (progress.choose choice) (other.choose choice) := by
  refine agrees.endAlike_settle.bind fun settled twin same => ?_
  rw [same.choices]
  by_cases repeated : choice ∈ twin.choices
  · simp only [if_pos repeated]
    exact .misuse _ _
  · simp only [if_neg repeated]
    have made : Settled colors
        { settled.use (.choice choice) with choices := twin.choices ++ [choice] }
        { twin.use (.choice choice) with choices := twin.choices ++ [choice] } :=
      ⟨by simp [same.idle], by simp [same.otherIdle], by simp [same.valid], by simp [same.input],
        rfl, by simp [same.colors]⟩
    exact .ok made.agrees

theorem Agrees.inform (agrees : Agrees colors progress other) (asked : Information) :
    EndAlike (Agrees colors) (progress.inform asked) (other.inform asked) := by
  unfold Progress.inform
  rcases agrees.settle with ⟨⟨_, refused⟩, _, otherRefused⟩ | ⟨_, _, done, otherDone, _⟩
  · rw [refused, otherRefused]
    exact .misuse _ _
  · rw [done, otherDone]
    exact .inform asked

/-- An option that has nothing to do with colours. -/
theorem Agrees.readOption (agrees : Agrees colors progress other) {option : OptionName}
    (unlike : option ≠ .color) :
    EndAlike (Agrees colors) (Command.readOption progress option)
      (Command.readOption other option) := by
  cases option with
  | choice made => exact agrees.choose made
  | information asked => exact agrees.inform asked
  | color => exact absurd rfl unlike

theorem Agrees.readLong (agrees : Agrees colors progress other) {name : String}
    (unlike : OptionName.ofLong? name ≠ some .color) (value : Option String) :
    EndAlike (Agrees colors) (Command.readLong progress name value)
      (Command.readLong other name value) := by
  unfold Command.readLong
  cases known : OptionName.ofLong? name with
  | none => exact .misuse _ _
  | some option =>
    have notColor : option ≠ .color := fun same => unlike (same ▸ known)
    cases value with
    | none =>
      cases option with
      | color => exact absurd rfl notColor
      | choice made => exact agrees.choose made
      | information asked => exact agrees.inform asked
    | some value =>
      cases option with
      | color => exact absurd rfl notColor
      | choice made => exact .misuse _ _
      | information asked => exact .misuse _ _

theorem Agrees.readShort (agrees : Agrees colors progress other) (letters : List Char) :
    EndAlike (Agrees colors) (Command.readShort progress letters)
      (Command.readShort other letters) := by
  induction letters generalizing progress other with
  | nil => exact .ok agrees
  | cons letter letters behind =>
    rw [Command.readShort, Command.readShort]
    have unlike : OptionName.ofLetter? letter ≠ some .color := by
      unfold OptionName.ofLetter?
      split <;> nofun
    cases known : OptionName.ofLetter? letter with
    | none => exact .misuse _ _
    | some option =>
      have notColor : option ≠ .color := fun same => unlike (same ▸ known)
      exact (agrees.readOption notColor).bind fun _ _ further => behind further

theorem Agrees.readPlain (agrees : Agrees colors progress other) (argument : String) :
    EndAlike (Agrees colors) (Command.readPlain progress argument)
      (Command.readPlain other argument) := by
  rw [Command.readPlain, if_neg agrees.ready.complete, Command.readPlain,
    if_neg agrees.otherReady.complete]
  exact agrees.nameInput argument

/-- A reading that a further colour is given to, settled before. -/
theorem Agrees.give (agrees : Agrees colors progress other) :
    progress.Stuck ∧ other.Stuck ∨
      ∃ settled, progress.settle = .ok settled ∧ ∀ color,
        Agrees (colors ++ [color]) (settled.addColor color) other ∧
          Agrees (colors ++ [color]) { settled with pending := .colorValue color } other := by
  rcases agrees.ready.settle with ⟨unnamed, stuck⟩ | ⟨valid, settled, done, _, input, given, made⟩
  · rcases agrees.otherReady.settle with ⟨_, otherStuck⟩ | ⟨otherValid, _⟩
    · exact .inl ⟨stuck, otherStuck⟩
    · exact absurd (agrees.named ▸ unnamed) otherValid
  · have file : settled.input = other.named := input.trans agrees.named
    have choices : settled.choices = other.choices := made.trans agrees.choices
    have colored : settled.colors = colors := given.trans agrees.given
    refine .inr ⟨settled, done, fun color => ⟨⟨⟨nofun, ?_⟩, agrees.otherReady, ?_, ?_, ?_⟩,
      ⟨⟨nofun, input ▸ valid⟩, agrees.otherReady, file, choices, ?_⟩⟩⟩
    · simpa only [addColor, use_input, input] using valid
    · simp only [addColor, Progress.named, use_input]
      exact file
    · simp only [addColor, use_choices, choices]
    · simp only [addColor, Progress.given, colored]
    · simp only [Progress.given, colored]

end Steps

end Progress

/-! ### Whole command lines -/

/-- Options of the same check, apart from the colours; those of the first are given. -/
def SameCheck (colors : List String) (options other : Options) : Prop :=
  options.input = other.input ∧ options.choices = other.choices ∧ options.colors = colors

section Readings

open Progress

variable {colors : List String} {progress other : Progress}

theorem Misused.endAlike {α β : Type} {same : α → β → Prop} {first : Except Stop α}
    {second : Except Stop β} (misused : Misused first) (alsoMisused : Misused second) :
    EndAlike same first second := by
  obtain ⟨error, rfl⟩ := misused
  obtain ⟨twin, rfl⟩ := alsoMisused
  exact .misuse error twin

theorem Progress.Agrees.finish (agrees : Agrees colors progress other) :
    EndAlike (SameCheck colors) progress.finish other.finish := by
  refine agrees.endAlike_settle.bind fun settled twin same => ?_
  rw [same.input]
  cases twin.input with
  | none => exact .misuse _ _
  | some input => exact .ok ⟨rfl, same.choices, same.colors⟩

/-- A colour option whose colour is still to come. -/
theorem readFrom_option {settled : Progress} {argument name : String}
    (form : Word.ofArgument argument = .long name none)
    (known : OptionName.ofLong? name = some .color) (done : progress.settle = .ok settled)
    (others : List String) :
    readFrom progress (argument :: others) =
      readFrom { settled with pending := .color } others := by
  simp only [readFrom, form, readLong, known, readOption, done]
  rfl

theorem readFrom_behind {settled : Progress} {argument name color : String}
    (form : Word.ofArgument argument = .long name none)
    (known : OptionName.ofLong? name = some .color) (plain : Word.ofArgument color = .plain)
    (done : progress.settle = .ok settled) (others : List String) :
    readFrom progress (argument :: color :: others) =
      readFrom { settled with pending := .colorValue color } others := by
  rw [readFrom_option form known done]
  simp only [readFrom, plain]
  rfl

theorem readFrom_beside {settled : Progress} {argument name color : String}
    (form : Word.ofArgument argument = .long name (some color))
    (known : OptionName.ofLong? name = some .color) (done : progress.settle = .ok settled)
    (others : List String) :
    readFrom progress (argument :: others) = readFrom (settled.addColor color) others := by
  simp only [readFrom, form, readLong, known, done]
  rfl

/-- An argument that both readings see. -/
theorem Progress.Agrees.readFrom_cons {same : Options → Options → Prop} {argument : String}
    (agrees : Agrees colors progress other) (isOther : IsOther argument) {others rest : List String}
    (behind : ∀ further twin, Agrees colors further twin →
      EndAlike same (readFrom further others >>= Progress.finish)
        (readFrom twin rest >>= Progress.finish)) :
    EndAlike same (readFrom progress (argument :: others) >>= Progress.finish)
      (readFrom other (argument :: rest) >>= Progress.finish) := by
  obtain ⟨further, unlike⟩ := isOther
  rw [readFrom, readFrom]
  cases form : Word.ofArgument argument with
  | separator => exact absurd form further
  | long name value =>
    simp only [bind_assoc]
    exact (agrees.readLong (unlike name value form) value).bind behind
  | short letters =>
    simp only [bind_assoc]
    exact (agrees.readShort letters).bind behind
  | plain =>
    simp only [bind_assoc]
    exact (agrees.readPlain argument).bind behind

/-- A colour option without a colour behind it ends both readings. -/
theorem Progress.Ready.misused_of_incomplete (ready : progress.Ready) {argument name : String}
    {others : List String} (form : Word.ofArgument argument = .long name none)
    (known : OptionName.ofLong? name = some .color)
    (incomplete : ∀ color ∈ others.head?, Word.ofArgument color ≠ .plain) :
    Misused (readFrom progress (argument :: others) >>= Progress.finish) := by
  rcases ready.settle with ⟨_, stuck⟩ | ⟨_, settled, done, _⟩
  · exact stuck.readFrom fun waits => absurd waits ready.complete
  · have waits : Stuck { settled with pending := .color } := ⟨_, rfl⟩
    rw [readFrom_option form known done]
    exact waits.readFrom fun _ => incomplete

/-- Readings that cannot go on end with a misuse, whatever comes. -/
theorem Progress.Agrees.endAlike_of_stuck (agrees : Agrees colors progress other)
    (stuck : progress.Stuck ∧ other.Stuck) {same : Options → Options → Prop}
    (arguments others : List String) :
    EndAlike same (readFrom progress arguments >>= Progress.finish)
      (readFrom other others >>= Progress.finish) :=
  (stuck.1.readFrom fun waits => absurd waits agrees.ready.complete).endAlike
    (stuck.2.readFrom fun waits => absurd waits agrees.otherReady.complete)

/-- **A reading that sees colours keeps in step with one that does not.** -/
theorem Progress.Agrees.readFrom (agrees : Agrees colors progress other)
    (arguments : List String) :
    EndAlike (SameCheck (colors ++ (separate arguments).1))
      (readFrom progress arguments >>= Progress.finish)
      (readFrom other (separate arguments).2 >>= Progress.finish) := by
  induction arguments using separate.induct generalizing colors progress other with
  | case1 =>
    rw [separate, List.append_nil]
    exact agrees.finish
  | case2 argument others form =>
    rw [separate_separator form]
    simp only [Command.readFrom, form, List.append_nil]
    exact (agrees.nameInputs others).bind fun _ _ further => further.finish
  | case3 argument others name known color form behind =>
    rw [separate_beside form known]
    rcases agrees.give with stuck | ⟨settled, done, given⟩
    · exact agrees.endAlike_of_stuck stuck _ _
    · rw [readFrom_beside form known done, List.append_cons]
      exact behind (given color).1
  | case4 argument name known form =>
    have incomplete : ∀ color ∈ ([] : List String).head?, Word.ofArgument color ≠ .plain := nofun
    rw [separate_incomplete form known incomplete]
    exact (agrees.ready.misused_of_incomplete form known incomplete).endAlike
      (agrees.otherReady.misused_of_incomplete form known incomplete)
  | case5 argument name known color rest plain form behind =>
    rw [separate_behind form known plain]
    rcases agrees.give with stuck | ⟨settled, done, given⟩
    · exact agrees.endAlike_of_stuck stuck _ _
    · rw [readFrom_behind form known plain done, List.append_cons]
      exact behind (given color).2
  | case6 argument name known color rest unlike form =>
    have incomplete : ∀ first ∈ (color :: rest).head?, Word.ofArgument first ≠ .plain := by
      intro first same
      cases same
      exact unlike
    rw [separate_incomplete form known incomplete]
    exact (agrees.ready.misused_of_incomplete form known incomplete).endAlike
      (agrees.otherReady.misused_of_incomplete form known incomplete)
  | case7 argument others name value form unlike behind =>
    have isOther : IsOther argument := ⟨by simp [form], fun name value same => by
      cases form.symm.trans same
      exact unlike⟩
    rw [separate_other isOther]
    exact agrees.readFrom_cons isOther fun _ _ further => behind further
  | case8 argument others letters form behind =>
    have isOther : IsOther argument := ⟨by simp [form], by simp [form]⟩
    rw [separate_other isOther]
    exact agrees.readFrom_cons isOther fun _ _ further => behind further
  | case9 argument others form behind =>
    have isOther : IsOther argument := ⟨by simp [form], by simp [form]⟩
    rw [separate_other isOther]
    exact agrees.readFrom_cons isOther fun _ _ further => behind further

end Readings

/-- **A command line is read as it would be without its colours**, apart from the wording of a
misuse. -/
theorem readArguments_separate (arguments : List String) :
    EndAlike (SameCheck (separate arguments).1) (readArguments arguments)
      (readArguments (separate arguments).2) := by
  have start : Progress.start.Agrees [] Progress.start :=
    ⟨⟨nofun, nofun⟩, ⟨nofun, nofun⟩, rfl, rfl, rfl⟩
  exact start.readFrom arguments

/-! ### Answers -/

/-- **The answer depends on the colours by their members alone.** -/
theorem Options.answer_congr {options other : Options} (input : options.input = other.input)
    (choices : options.choices = other.choices)
    (same : ∀ color, color ∈ options.colors ↔ color ∈ other.colors) :
    options.answer = other.answer := by
  obtain ⟨file, colors, made⟩ := options
  obtain ⟨_, otherColors, _⟩ := other
  obtain rfl := input
  obtain rfl := choices
  have members : (Palette.standard.allowAll colors).SameMembers
      (Palette.standard.allowAll otherColors) := by
    intro color
    rw [Palette.mem_names_allowAll_iff, Palette.mem_names_allowAll_iff, same color]
  have runs : ∀ text, Reporter.empty.checkFile (settings ⟨file, colors, made⟩) ⟨file, text⟩ =
      Reporter.empty.checkFile (settings ⟨file, otherColors, made⟩) ⟨file, text⟩ := by
    intro text
    have run := checkSource_congr members (settings ⟨file, colors, made⟩)
      Reporter.empty.nextFile ⟨file, text⟩
    have twin : checkSource (settings ⟨file, colors, made⟩) Reporter.empty.nextFile ⟨file, text⟩ =
        checkSource (settings ⟨file, otherColors, made⟩) Reporter.empty.nextFile ⟨file, text⟩ := run
    rw [Reporter.checkFile, Reporter.checkFile, twin]
  funext read
  cases read with
  | error error => rfl
  | ok text =>
    simp only [answer, verdict, runs]
    rfl

/-- A command line that is refused. -/
def IsMisuse (arguments : List String) : Prop := Misused (readArguments arguments)

/-- The answer to a command line that is refused, in any folder. -/
theorem run_of_misuse {arguments : List String} {error : UsageError}
    (refused : readArguments arguments = .error (.misuse error)) (folder : Folder) :
    run folder arguments = ⟨2, "", error.render⟩ := by
  rw [run, request, refused]

/-- **Command lines with the same colours and the same other arguments.** Both are refused, or both
have the same answer in every folder. -/
theorem run_of_same_colors {first second : List String}
    (others : (separate first).2 = (separate second).2)
    (colors : ∀ color, color ∈ (separate first).1 ↔ color ∈ (separate second).1) :
    IsMisuse first ∧ IsMisuse second ∨ ∀ folder, run folder first = run folder second := by
  have alike := readArguments_separate first
  have twin := readArguments_separate second
  rw [← others] at twin
  simp only [IsMisuse, run, request]
  generalize readArguments (separate first).2 = plain at alike twin
  generalize readArguments first = read at alike ⊢
  generalize readArguments second = otherRead at twin ⊢
  cases alike with
  | @ok options _ same =>
    cases twin with
    | @ok twin _ alsoSame =>
      refine .inr fun folder => ?_
      have input : options.input = twin.input := same.1.trans alsoSame.1.symm
      have members : ∀ color, color ∈ options.colors ↔ color ∈ twin.colors := by
        rw [same.2.2, alsoSame.2.2]
        exact colors
      have answers := Options.answer_congr input (same.2.1.trans alsoSame.2.1.symm) members
      simp only [answers, input]
  | misuse error other =>
    cases twin with
    | misuse twin _ => exact .inl ⟨⟨error, rfl⟩, ⟨twin, rfl⟩⟩
  | inform asked =>
    cases twin with
    | inform _ => exact .inr fun _ => rfl

/-- **What a palette accepts, and what becomes of that.** Behind any additions a palette has its
first names and the new ones, each once, in the order in which they came first; it accepts these and
the colour codes of three or six hexadecimal digits. Palettes with the same members lead to the same
run. So command lines that differ in the order and the number of their colours alone lead to the
same exit code and the same output, and the same error output unless both are refused. -/
theorem palette_and_answers :
    (∀ (palette : Palette) (allowed : List String),
      (palette.allowAll allowed).names =
        palette.names ++ (allowed.filter (· ∉ palette.names)).eraseDups) ∧
    (∀ (palette : Palette) (allowed : List String) (color : String),
      (palette.allowAll allowed).accepts color = true ↔
        color ∈ palette.names ∨ color ∈ allowed ∨
          ∃ digits, color.toList = '#' :: digits ∧ (digits.length = 3 ∨ digits.length = 6) ∧
            ∀ digit ∈ digits, digit ∈ hexDigits) ∧
    (∀ first second : Palette, (∀ color, color ∈ first.names ↔ color ∈ second.names) →
      ∀ (settings : Settings) (file : Nat) (source : SourceFile),
        checkSource { settings with palette := first } file source =
          checkSource { settings with palette := second } file source) ∧
    ∀ first second : List String, (separate first).2 = (separate second).2 →
      (∀ color, color ∈ (separate first).1 ↔ color ∈ (separate second).1) →
      ∀ folder,
        (run folder first).exitCode = (run folder second).exitCode ∧
        (run folder first).output = (run folder second).output ∧
        ((run folder first).errorOutput = (run folder second).errorOutput ∨
          IsMisuse first ∧ IsMisuse second) := by
  refine ⟨Palette.names_allowAll, fun _ _ _ => Palette.accepts_allowAll_iff,
    fun first second same => checkSource_congr same, fun first second others colors folder => ?_⟩
  rcases run_of_same_colors others colors with ⟨misuse, alsoMisuse⟩ | same
  · obtain ⟨⟨_, refused⟩, ⟨_, alsoRefused⟩⟩ := And.intro misuse alsoMisuse
    rw [run_of_misuse refused, run_of_misuse alsoRefused]
    exact ⟨rfl, rfl, .inr ⟨misuse, alsoMisuse⟩⟩
  · rw [same folder]
    exact ⟨rfl, rfl, .inl rfl⟩

/-- Two colours, once in front of the file and once around it and one of them again. -/
theorem palette_and_answers_reordered :
    let folder := Folder.ofList [("a", .file "draw s".toUTF8)]
    let first := ["--allow-color=x", "--allow-color", "y", "-v", "a"]
    let second := ["--allow-color", "y", "-v", "--allow-color=x", "a", "--allow-color=y"]
    let settings := Settings.silent ⟨[]⟩
    (separate first).2 = (separate second).2 ∧
      (∀ color, color ∈ (separate first).1 ↔ color ∈ (separate second).1) ∧
      (run folder first).exitCode = (run folder second).exitCode ∧
      checkSource { settings with palette := ⟨["x", "y"]⟩ } 0 ⟨"a", "draw s"⟩ =
        checkSource { settings with palette := ⟨["y", "x", "y"]⟩ } 0 ⟨"a", "draw s"⟩ := by
  have members : ∀ color : String, color ∈ ["x", "y"] ↔ color ∈ ["y", "x", "y"] := by
    intro color
    simp only [List.mem_cons, List.not_mem_nil, or_false]
    tauto
  intro folder first second settings
  have parts : separate first = (["x", "y"], ["-v", "a"]) := by
    simp only [first]
    decide +kernel
  have otherParts : separate second = (["y", "x", "y"], ["-v", "a"]) := by
    simp only [second]
    decide +kernel
  have others : (separate first).2 = (separate second).2 := by rw [parts, otherParts]
  have colors : ∀ color, color ∈ (separate first).1 ↔ color ∈ (separate second).1 := by
    rw [parts, otherParts]
    exact members
  obtain ⟨_, _, runs, answers⟩ := palette_and_answers
  exact ⟨others, colors, (answers first second others colors folder).1,
    runs ⟨["x", "y"]⟩ ⟨["y", "x", "y"]⟩ members settings 0 ⟨"a", "draw s"⟩⟩

/-- A colour that is given again can change the usage shown for a misuse: an option counts as used
when the next one comes. -/
theorem usage_of_repeated_color :
    let folder := Folder.ofList [("a", .file "draw s".toUTF8)]
    let once := ["--allow-color", "x", "--verbose=1", "a"]
    let twice := ["--allow-color", "x", "--allow-color", "x", "--verbose=1", "a"]
    separate once = (["x"], ["--verbose=1", "a"]) ∧
      separate twice = (["x", "x"], ["--verbose=1", "a"]) ∧
      (run folder once).errorOutput ≠ (run folder twice).errorOutput := by
  intro folder once twice
  refine ⟨?_, ?_, ?_⟩
  · simp only [once]
    decide +kernel
  · simp only [twice]
    decide +kernel
  · have first : readArguments once = .error (.misuse
        (.unexpectedValue "1" (.choice .verbose) (.withOptions [.choice .verbose]))) := rfl
    have second : readArguments twice = .error (.misuse
        (.unexpectedValue "1" (.choice .verbose) (.withOneOf none))) := rfl
    rw [run_of_misuse first, run_of_misuse second]
    decide +kernel

end TurtleScene.Command
