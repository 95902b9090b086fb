/-
**Scopes tell their history.**

Names are defined, scopes are entered and scopes are left, in any order and number. What a name
means afterwards can be read off the changes themselves, without a chain of frames: by the level at
which each of them was made, and by whether that scope has been left since.

* `Scope.after` — the scope behind changes in a row, from one without definitions.
* `levelAfter` — how deep the innermost scope lies behind changes; `MadeIn` — a change was made in
  the scope that is now at a level; `Latest` — the latest definition of a name made in it; `Means` —
  the one that counts in a scope, among its own and those around it.
* `enclosing_afterAll` — balanced changes (`Balanced`) leave the frames around them as they are.
* `tells` — each frame has exactly the latest definitions of its level: by induction at the last
  change, for rules and for variables alike (`Keeps`).
* `Alike.afterAll_filter` — rules do not depend on the variables defined, nor these on rules.
* `lookups_eq_history` — **the lookups in every scope of the chain, from the history alone**.
-/

import TurtleScene.Check.Scope
import Mathlib.Data.List.Induction

namespace TurtleScene

namespace Scope

/-- What can be done to a scope. -/
inductive Change
  | defineRule (name parameter : String)
  | defineVariable (name : String) (value : Operand)
  | enter
  | exit

namespace Change

/-- The rule that a change defines, with its parameter. -/
def rule? : Change → Option (String × String)
  | .defineRule name parameter => some (name, parameter)
  | _ => none

/-- The variable that a change defines, with its value. -/
def value? : Change → Option (String × Operand)
  | .defineVariable name value => some (name, value)
  | _ => none

/-- The level of the innermost scope behind a change. Nothing lies outside level 0. -/
def level (before : Nat) : Change → Nat
  | .enter => before + 1
  | .exit => before - 1
  | _ => before

end Change

/-- The scope behind a change. Definitions are made in the innermost frame. -/
def apply (scope : Scope) : Change → Scope
  | .defineRule name parameter => scope.defineRule name parameter
  | .defineVariable name value => scope.defineVariable name value
  | .enter => scope.enter
  | .exit => scope.exit

/-- The scope behind changes in a row. -/
def afterAll (scope : Scope) (changes : List Change) : Scope := changes.foldl apply scope

/-- The scope behind changes in a row, from one without definitions. -/
def after (changes : List Change) : Scope := root.afterAll changes

/-- The level of the innermost scope behind changes in a row. -/
def levelAfter (changes : List Change) : Nat := changes.foldl Change.level 0

/-- The change at a position was made in the scope that is now at a level: it was made at this
level, and the scope has not been left since. -/
structure MadeIn (changes : List Change) (position level : Nat) : Prop where
  made : levelAfter (changes.take position) = level
  kept : ∀ later, position ≤ later → level ≤ levelAfter (changes.take later)

/-- A definition of a name, made in the scope that is now at a level, behind which no other one of
this name was made there. `defined?` tells which definitions count. -/
def Latest {α : Type} (defined? : Change → Option (String × α)) (changes : List Change)
    (level : Nat) (name : String) (value : α) : Prop :=
  ∃ position, changes[position]?.bind defined? = some (name, value) ∧
    MadeIn changes position level ∧
    ∀ later, position < later → MadeIn changes later level →
      ∀ other, changes[later]?.bind defined? ≠ some (name, other)

/-- What a name means in the scope at a level: the latest definition in the innermost scope that has
one, among this scope and those around it. -/
def Means {α : Type} (defined? : Change → Option (String × α)) (changes : List Change) (level : Nat)
    (name : String) (value : α) : Prop :=
  ∃ home ≤ level, Latest defined? changes home name value ∧
    ∀ inner, home < inner → inner ≤ level → ∀ other, ¬ Latest defined? changes inner name other

/-- Changes that leave each scope they enter, and no other one. -/
inductive Balanced : List Change → Prop
  | nil : Balanced []
  | defineRule (name parameter : String) {others : List Change} :
    Balanced others → Balanced (.defineRule name parameter :: others)
  | defineVariable (name : String) (value : Operand) {others : List Change} :
    Balanced others → Balanced (.defineVariable name value :: others)
  | nested {inside others : List Change} :
    Balanced inside → Balanced others → Balanced (.enter :: inside ++ .exit :: others)

variable {α : Type} {defined? : Change → Option (String × α)} {table : Frame → List (String × α)}
  {changes : List Change} {first second : Scope}

/-! ### Changes in a row -/

theorem after_concat (changes : List Change) (change : Change) :
    after (changes ++ [change]) = (after changes).apply change := by
  simp [after, afterAll]

theorem levelAfter_concat (changes : List Change) (change : Change) :
    levelAfter (changes ++ [change]) = change.level (levelAfter changes) := by
  simp [levelAfter]

/-- The frames around the innermost one are as many as its level says. -/
theorem depth_after (changes : List Change) : (after changes).depth = levelAfter changes := by
  induction changes using List.reverseRecOn with
  | nil => rfl
  | append_singleton changes change before =>
    rw [after_concat, levelAfter_concat, ← before]
    cases change with
    | defineRule | defineVariable | enter => rfl
    | exit =>
      rcases same : after changes with ⟨innermost, enclosing⟩
      cases enclosing <;> rfl

/-- The frames of a scope further out are the others from there on. -/
theorem frames_outward {scope : Scope} {distance : Nat} (within : distance ≤ scope.depth) :
    (scope.outward distance).frames = scope.frames.drop distance := by
  induction distance generalizing scope with
  | zero => rfl
  | succ distance further =>
    obtain ⟨innermost, enclosing⟩ := scope
    cases enclosing with
    | nil => simp [depth] at within
    | cons outer others => exact @further ⟨outer, others⟩ (Nat.le_of_succ_le_succ within)

/-- **Balanced changes leave the frames around them as they are.** -/
theorem enclosing_afterAll (balanced : Balanced changes) (scope : Scope) :
    (scope.afterAll changes).enclosing = scope.enclosing := by
  induction balanced generalizing scope with
  | nil => rfl
  | defineRule name parameter _ behind => exact behind (scope.defineRule name parameter)
  | defineVariable name value _ behind => exact behind (scope.defineVariable name value)
  | @nested inside others _ _ within behind =>
    have left : (scope.enter.afterAll inside).exit = scope := by
      rw [exit, within scope.enter]
      rfl
    have apart : scope.afterAll (.enter :: inside ++ .exit :: others) =
        (scope.enter.afterAll inside).exit.afterAll others := by
      simp [afterAll, apply]
    rw [apart, left, behind]

/-- A scope that is entered and left again leaves nothing behind. -/
theorem after_nested (changes : List Change) {inside : List Change} (balanced : Balanced inside) :
    after (changes ++ .enter :: inside ++ [.exit]) = after changes := by
  have apart : after (changes ++ .enter :: inside ++ [.exit]) =
      ((after changes).enter.afterAll inside).exit := by
    simp [after, afterAll, apply]
  rw [apart, exit, enclosing_afterAll balanced]
  rfl

/-! ### Definitions of a level -/

/-- What is still in place lies no deeper than the innermost scope. -/
theorem MadeIn.le_levelAfter {position level : Nat} (made : MadeIn changes position level) :
    level ≤ levelAfter changes := by
  have last := made.kept (max position changes.length) (Nat.le_max_left _ _)
  rwa [List.take_of_length_le (Nat.le_max_right _ _)] at last

/-- One change later, what was made before is in place unless its scope was left. -/
theorem madeIn_concat_iff (change : Change) {position level : Nat}
    (before : position < changes.length) :
    MadeIn (changes ++ [change]) position level ↔
      MadeIn changes position level ∧ level ≤ levelAfter (changes ++ [change]) := by
  have early : ∀ place, place ≤ changes.length →
      (changes ++ [change]).take place = changes.take place := fun place within =>
    List.take_append_of_le_length within
  constructor
  · intro made
    refine ⟨⟨early position (Nat.le_of_lt before) ▸ made.made, fun later behind => ?_⟩,
      made.le_levelAfter⟩
    rcases Nat.le_total later changes.length with within | beyond
    · exact early later within ▸ made.kept later behind
    · have last := made.kept changes.length (Nat.le_of_lt before)
      rwa [early _ (Nat.le_refl _), List.take_length, ← List.take_of_length_le beyond] at last
  · rintro ⟨made, still⟩
    refine ⟨(early position (Nat.le_of_lt before)).symm ▸ made.made, fun later behind => ?_⟩
    rcases Nat.lt_or_ge changes.length later with beyond | within
    · rwa [List.take_of_length_le (by simpa using Nat.succ_le_of_lt beyond)]
    · exact (early later within).symm ▸ made.kept later behind

/-- The last change is made in the innermost scope, and in place unless it leaves that scope. -/
theorem madeIn_length_iff (change : Change) {level : Nat} :
    MadeIn (changes ++ [change]) changes.length level ↔
      levelAfter changes = level ∧ level ≤ levelAfter (changes ++ [change]) := by
  constructor
  · intro made
    exact ⟨by simpa using made.made, made.le_levelAfter⟩
  · rintro ⟨here, still⟩
    refine ⟨by simpa using here, fun later behind => ?_⟩
    rcases Nat.eq_or_lt_of_le behind with rfl | beyond
    · simp [here]
    · rwa [List.take_of_length_le (by simpa using Nat.succ_le_of_lt beyond)]

theorem Latest.le_levelAfter {level : Nat} {name : String} {value : α}
    (latest : Latest defined? changes level name value) : level ≤ levelAfter changes := by
  obtain ⟨_, _, made, _⟩ := latest
  exact made.le_levelAfter

/-- **The latest definition one change later**: that change, if it defines the name at this level,
or else the one before. -/
theorem latest_concat_iff (change : Change) {level : Nat} {name : String} {value : α} :
    Latest defined? (changes ++ [change]) level name value ↔
      level ≤ levelAfter (changes ++ [change]) ∧
        (levelAfter changes = level ∧ defined? change = some (name, value) ∨
          (levelAfter changes = level → ∀ other, defined? change ≠ some (name, other)) ∧
            Latest defined? changes level name value) := by
  have early : ∀ place, place < changes.length →
      (changes ++ [change])[place]? = changes[place]? := fun place within =>
    List.getElem?_append_left within
  have last : (changes ++ [change])[changes.length]? = some change := by simp
  have beyond : ∀ place, changes.length < place → (changes ++ [change])[place]? = none := by
    intro place behind
    exact List.getElem?_eq_none (by simpa using Nat.succ_le_of_lt behind)
  constructor
  · intro latest
    refine ⟨latest.le_levelAfter, ?_⟩
    obtain ⟨position, defined, made, final⟩ := latest
    rcases Nat.lt_trichotomy position changes.length with before | rfl | behind
    · refine .inr ⟨fun here other => ?_, position, early _ before ▸ defined,
        ((madeIn_concat_iff change before).mp made).1, fun later more madeLater other => ?_⟩
      · have unlike := final _ before
          ((madeIn_length_iff change).mpr ⟨here, made.le_levelAfter⟩) other
        rwa [last] at unlike
      · rcases Nat.lt_or_ge later changes.length with within | outside
        · have unlike := final later more
            ((madeIn_concat_iff change within).mpr ⟨madeLater, made.le_levelAfter⟩) other
          rwa [early _ within] at unlike
        · simp [List.getElem?_eq_none outside]
    · exact .inl ⟨((madeIn_length_iff change).mp made).1, by rwa [last] at defined⟩
    · simp [beyond _ behind] at defined
  · rintro ⟨still, ⟨here, defined⟩ | ⟨unlike, position, defined, made, final⟩⟩
    · refine ⟨changes.length, by rwa [last], (madeIn_length_iff change).mpr ⟨here, still⟩,
        fun later behind _ other => ?_⟩
      simp [beyond _ behind]
    · have before : position < changes.length := by
        by_contra outside
        simp [List.getElem?_eq_none (Nat.le_of_not_lt outside)] at defined
      refine ⟨position, by rwa [early _ before],
        (madeIn_concat_iff change before).mpr ⟨made, still⟩, fun later more madeLater other => ?_⟩
      rcases Nat.lt_trichotomy later changes.length with within | rfl | behind
      · rw [early _ within]
        exact final later more ((madeIn_concat_iff change within).mp madeLater).1 other
      · rw [last]
        exact unlike ((madeIn_length_iff change).mp madeLater).1 other
      · simp [beyond _ behind]

/-- Without changes nothing is defined. -/
theorem not_latest_nil {level : Nat} {name : String} {value : α} :
    ¬ Latest defined? [] level name value := by
  rintro ⟨position, defined, _⟩
  simp at defined

/-- A change that defines nothing leaves the definitions of the scopes that remain as they were. -/
theorem latest_concat_of_none {change : Change} (nothing : defined? change = none) {level : Nat}
    {name : String} {value : α} :
    Latest defined? (changes ++ [change]) level name value ↔
      level ≤ levelAfter (changes ++ [change]) ∧ Latest defined? changes level name value := by
  simp [latest_concat_iff, nothing]

/-! ### Frames and the definitions of their level -/

/-- A table of each frame is about the definitions that `defined?` tells, the latest first. -/
structure Keeps {α : Type} (defined? : Change → Option (String × α))
    (table : Frame → List (String × α)) : Prop where
  empty : table .empty = []
  enter : defined? .enter = none
  exit : defined? .exit = none
  defineRule : ∀ (scope : Scope) (name parameter : String),
    table (scope.defineRule name parameter).innermost =
      (defined? (.defineRule name parameter)).toList ++ table scope.innermost
  defineVariable : ∀ (scope : Scope) (name : String) (value : Operand),
    table (scope.defineVariable name value).innermost =
      (defined? (.defineVariable name value)).toList ++ table scope.innermost

theorem keeps_rules : Keeps Change.rule? Frame.rules :=
  ⟨rfl, rfl, rfl, fun _ _ _ => rfl, fun _ _ _ => rfl⟩

theorem keeps_values : Keeps Change.value? Frame.values :=
  ⟨rfl, rfl, rfl, fun _ _ _ => rfl, fun _ _ _ => rfl⟩

/-- Each frame has exactly the latest definitions of its level. -/
def Tells (defined? : Change → Option (String × α)) (table : Frame → List (String × α))
    (changes : List Change) : Prop :=
  ∀ distance frame, (after changes).frames[distance]? = some frame → ∀ name value,
    (table frame).lookup name = some value ↔
      Latest defined? changes (levelAfter changes - distance) name value

theorem lookup_toList_append (entry : Option (String × α)) (others : List (String × α))
    (name : String) (value : α) :
    (entry.toList ++ others).lookup name = some value ↔
      entry = some (name, value) ∨
        (∀ other, entry ≠ some (name, other)) ∧ others.lookup name = some value := by
  rcases entry with _ | ⟨defined, first⟩
  · simp
  · by_cases same : name = defined
    · subst same
      simp
    · have unlike : (name == defined) = false := by simpa using same
      simp [List.lookup_cons, unlike, Ne.symm same]

/-- A definition goes to the innermost frame. -/
theorem Tells.define {change : Change} (tells : Tells defined? table changes)
    (stays : ∀ level, change.level level = level)
    (outside : ((after changes).apply change).enclosing = (after changes).enclosing)
    (inside : table ((after changes).apply change).innermost =
      (defined? change).toList ++ table (after changes).innermost) :
    Tells defined? table (changes ++ [change]) := by
  intro distance frame there name value
  rw [after_concat] at there
  rw [latest_concat_iff, levelAfter_concat, stays]
  cases distance with
  | zero =>
    obtain rfl : ((after changes).apply change).innermost = frame := by simpa [frames] using there
    rw [inside, lookup_toList_append, tells 0 _ rfl]
    simp
  | succ distance =>
    have behind : (after changes).frames[distance + 1]? = some frame := by
      simpa [frames, outside] using there
    have further : levelAfter changes ≠ levelAfter changes - (distance + 1) := by
      have within : distance + 1 < (after changes).frames.length :=
        (List.getElem?_eq_some_iff.mp behind).1
      have deep := depth_after changes
      simp only [frames, List.length_cons, depth] at within deep
      omega
    rw [tells _ frame behind]
    simp [further]

/-- The frame of a scope that is entered is that of a level without definitions. -/
theorem Tells.enter (keeps : Keeps defined? table) (tells : Tells defined? table changes) :
    Tells defined? table (changes ++ [.enter]) := by
  intro distance frame there name value
  rw [after_concat] at there
  rw [latest_concat_of_none keeps.enter, levelAfter_concat]
  cases distance with
  | zero =>
    obtain rfl : Frame.empty = frame := by simpa [frames, apply, Scope.enter] using there
    have beyond : ¬ Latest defined? changes (levelAfter changes + 1) name value := fun latest =>
      Nat.not_succ_le_self _ latest.le_levelAfter
    simp [keeps.empty, Change.level, beyond]
  | succ distance =>
    have behind : (after changes).frames[distance]? = some frame := by
      simpa [frames, apply, Scope.enter] using there
    rw [tells _ frame behind, Change.level, Nat.add_sub_add_right]
    exact ⟨fun latest => ⟨by omega, latest⟩, And.right⟩

/-- With the frame of a scope that is left go the definitions of its level. -/
theorem Tells.exit (keeps : Keeps defined? table) (tells : Tells defined? table changes) :
    Tells defined? table (changes ++ [.exit]) := by
  intro distance frame there name value
  have deep := depth_after changes
  rw [after_concat] at there
  rw [latest_concat_of_none keeps.exit, levelAfter_concat, Change.level]
  rcases same : after changes with ⟨innermost, _ | ⟨outer, others⟩⟩
  · have outermost : levelAfter changes = 0 := by simpa [same, depth] using deep.symm
    have behind : (after changes).frames[distance]? = some frame := by
      simpa [same, apply, Scope.exit] using there
    rw [tells _ frame behind, outermost]
    simp
  · have behind : (after changes).frames[distance + 1]? = some frame := by
      simpa [same, apply, Scope.exit, frames] using there
    rw [tells _ frame behind, Nat.sub_sub, Nat.add_comm 1]
    exact ⟨fun latest => ⟨by omega, latest⟩, And.right⟩

/-- **Every frame has exactly the latest definitions of its level.** -/
theorem tells (keeps : Keeps defined? table) (changes : List Change) :
    Tells defined? table changes := by
  induction changes using List.reverseRecOn with
  | nil =>
    intro distance frame there name value
    obtain rfl : Frame.empty = frame := by
      cases distance <;> simp_all [after, afterAll, root, frames]
    simp [keeps.empty, not_latest_nil]
  | append_singleton changes change before =>
    cases change with
    | defineRule name parameter =>
      exact before.define (fun _ => rfl) rfl (keeps.defineRule _ name parameter)
    | defineVariable name value =>
      exact before.define (fun _ => rfl) rfl (keeps.defineVariable _ name value)
    | enter => exact before.enter keeps
    | exit => exact before.exit keeps

/-! ### Looking up -/

/-- A name is looked up from a scope outwards, up to the first frame that defines it. -/
def lookup (table : Frame → List (String × α)) (scope : Scope) (name : String) : Option α :=
  scope.frames.findSome? fun frame => (table frame).lookup name

theorem means_zero_iff {name : String} {value : α} :
    Means defined? changes 0 name value ↔ Latest defined? changes 0 name value := by
  constructor
  · rintro ⟨home, outermost, latest, _⟩
    exact Nat.le_zero.mp outermost ▸ latest
  · intro latest
    exact ⟨0, Nat.le_refl 0, latest, fun inner deeper outermost => by omega⟩

/-- A name means what the scope itself defines, or else what it means around the scope. -/
theorem means_succ_iff {level : Nat} {name : String} {value : α} :
    Means defined? changes (level + 1) name value ↔
      Latest defined? changes (level + 1) name value ∨
        (∀ other, ¬ Latest defined? changes (level + 1) name other) ∧
          Means defined? changes level name value := by
  constructor
  · rintro ⟨home, within, latest, alone⟩
    rcases Nat.eq_or_lt_of_le within with rfl | outside
    · exact .inl latest
    · exact .inr ⟨alone _ outside (Nat.le_refl _), home, Nat.le_of_lt_succ outside, latest,
        fun inner deeper inside => alone inner deeper (Nat.le_succ_of_le inside)⟩
  · rintro (latest | ⟨unlike, home, within, latest, alone⟩)
    · exact ⟨level + 1, Nat.le_refl _, latest, fun inner deeper inside => by omega⟩
    · refine ⟨home, Nat.le_succ_of_le within, latest, fun inner deeper inside => ?_⟩
      rcases Nat.eq_or_lt_of_le inside with rfl | before
      · exact unlike
      · exact alone inner deeper (Nat.le_of_lt_succ before)

/-- The frame of a level, behind it those of the levels around it. -/
theorem drop_frames (keeps : Keeps defined? table) {level : Nat}
    (within : level ≤ (after changes).depth) :
    ∃ frame, (after changes).frames.drop ((after changes).depth - level) =
        frame :: (after changes).frames.drop ((after changes).depth - level + 1) ∧
      ∀ name value, (table frame).lookup name = some value ↔
        Latest defined? changes level name value := by
  have inChain : (after changes).depth - level < (after changes).frames.length :=
    Nat.lt_succ_of_le (Nat.sub_le _ _)
  have here : levelAfter changes - ((after changes).depth - level) = level := by
    rw [← depth_after, Nat.sub_sub_self within]
  refine ⟨_, List.drop_eq_getElem_cons inChain, fun name value => ?_⟩
  rw [tells keeps changes _ _ (List.getElem?_eq_getElem inChain), here]

/-- **What is found for a name is what the name means by the history.** -/
theorem lookup_outward_iff (keeps : Keeps defined? table) {level : Nat}
    (within : level ≤ (after changes).depth) (name : String) (value : α) :
    lookup table ((after changes).outward ((after changes).depth - level)) name = some value ↔
      Means defined? changes level name value := by
  rw [lookup, frames_outward (Nat.sub_le _ _)]
  induction level with
  | zero =>
    obtain ⟨frame, first, told⟩ := drop_frames keeps within
    have outermost : (after changes).frames.drop ((after changes).depth - 0 + 1) = [] :=
      List.drop_of_length_le (Nat.le_refl _)
    rw [first, outermost, means_zero_iff, ← told]
    cases found : (table frame).lookup name <;> simp [found]
  | succ level outside =>
    obtain ⟨frame, first, told⟩ := drop_frames keeps within
    have next : (after changes).depth - (level + 1) + 1 = (after changes).depth - level := by omega
    rw [first, next, means_succ_iff, ← told, ← outside (Nat.le_of_succ_le within),
      List.findSome?_cons]
    cases found : (table frame).lookup name with
    | none => simp [← told, found]
    | some first => simp [← told, found]

/-- A name means something where any scope from there outwards defines it. -/
theorem exists_means_iff {level : Nat} {name : String} :
    (∃ value, Means defined? changes level name value) ↔
      ∃ home ≤ level, ∃ value, Latest defined? changes home name value := by
  constructor
  · rintro ⟨value, home, within, latest, _⟩
    exact ⟨home, within, value, latest⟩
  · rintro ⟨home, within, defined⟩
    induction level with
    | zero =>
      obtain rfl := Nat.le_zero.mp within
      exact defined.imp fun _ => means_zero_iff.mpr
    | succ level outside =>
      by_cases here : ∃ value, Latest defined? changes (level + 1) name value
      · exact here.imp fun _ latest => means_succ_iff.mpr (.inl latest)
      · have before : home ≤ level := by
          refine Nat.le_of_lt_succ (Nat.lt_of_le_of_ne within ?_)
          rintro rfl
          exact here defined
        exact (outside before).imp fun _ means =>
          means_succ_iff.mpr (.inr ⟨not_exists.mp here, means⟩)

theorem isSome_lookup_iff (keeps : Keeps defined? table) {level : Nat}
    (within : level ≤ (after changes).depth) (name : String) :
    (lookup table ((after changes).outward ((after changes).depth - level)) name).isSome = true ↔
      ∃ home ≤ level, ∃ value, Latest defined? changes home name value := by
  simp only [Option.isSome_iff_exists, lookup_outward_iff keeps within, exists_means_iff]

theorem lookup_eq_none_iff (keeps : Keeps defined? table) {level : Nat}
    (within : level ≤ (after changes).depth) (name : String) :
    lookup table ((after changes).outward ((after changes).depth - level)) name = none ↔
      ∀ home ≤ level, ∀ value, ¬ Latest defined? changes home name value := by
  rw [← Option.not_isSome_iff_eq_none, isSome_lookup_iff keeps within]
  push Not
  rfl

/-! ### Rules and variables apart -/

/-- Two scopes have the same table in each frame. -/
def Alike (table : Frame → List (String × α)) (first second : Scope) : Prop :=
  first.frames.map table = second.frames.map table

theorem Alike.lookup (alike : Alike table first second) (name : String) :
    first.lookup table name = second.lookup table name := by
  have through : ∀ scope : Scope, scope.lookup table name =
      (scope.frames.map table).findSome? (List.lookup name) := by
    intro scope
    rw [List.findSome?_map]
    rfl
  rw [through, through, alike]

theorem alike_iff : Alike table first second ↔
    table first.innermost = table second.innermost ∧
      first.enclosing.map table = second.enclosing.map table := by
  simp [Alike, frames]

theorem Alike.exit (alike : Alike table first second) : Alike table first.exit second.exit := by
  obtain ⟨inside, outside⟩ := alike_iff.mp alike
  obtain ⟨innermost, enclosing⟩ := first
  obtain ⟨otherInnermost, otherEnclosing⟩ := second
  cases enclosing with
  | nil =>
    obtain rfl : otherEnclosing = [] := by simpa using outside.symm
    exact alike
  | cons outer others =>
    cases otherEnclosing with
    | nil => simp at outside
    | cons => exact outside

theorem Alike.outward (alike : Alike table first second) (distance : Nat) :
    Alike table (first.outward distance) (second.outward distance) := by
  induction distance generalizing first second with
  | zero => exact alike
  | succ distance further => exact further alike.exit

/-- The same change to scopes with the same tables. -/
theorem Alike.apply (keeps : Keeps defined? table) (alike : Alike table first second)
    (change : Change) : Alike table (first.apply change) (second.apply change) := by
  obtain ⟨inside, outside⟩ := alike_iff.mp alike
  cases change with
  | defineRule name parameter =>
    exact alike_iff.mpr ⟨by
      rw [Scope.apply, Scope.apply, keeps.defineRule, keeps.defineRule, inside], outside⟩
  | defineVariable name value =>
    exact alike_iff.mpr ⟨by
      rw [Scope.apply, Scope.apply, keeps.defineVariable, keeps.defineVariable, inside], outside⟩
  | enter => exact alike_iff.mpr ⟨rfl, alike⟩
  | exit => exact alike.exit

/-- Changes that leave a table as it is can be left out. -/
theorem Alike.afterAll_filter (keeps : Keeps defined? table) {counts : Change → Bool}
    (idle : ∀ change, counts change = false → ∀ scope, Alike table scope (scope.apply change))
    (changes : List Change) (alike : Alike table first second) :
    Alike table (first.afterAll (changes.filter counts)) (second.afterAll changes) := by
  induction changes generalizing first second with
  | nil => exact alike
  | cons change others behind =>
    cases counted : counts change with
    | true =>
      rw [List.filter_cons_of_pos counted]
      exact behind (alike.apply keeps change)
    | false =>
      rw [List.filter_cons_of_neg (by simp [counted])]
      exact behind (alike.trans (idle change counted second))

/-- Rules are looked up as if no variable had been defined. -/
theorem ruleParameter?_filter (changes : List Change) (distance : Nat) (name : String) :
    ((after (changes.filter (·.value?.isNone))).outward distance).ruleParameter? name =
      ((after changes).outward distance).ruleParameter? name := by
  refine Alike.lookup (Alike.outward (Alike.afterAll_filter keeps_rules ?_ changes rfl) _) name
  rintro (_ | _ | _ | _) idle scope <;> first | rfl | cases idle

/-- Variables are looked up as if no rule had been defined. -/
theorem variableValue?_filter (changes : List Change) (distance : Nat) (name : String) :
    ((after (changes.filter (·.rule?.isNone))).outward distance).variableValue? name =
      ((after changes).outward distance).variableValue? name := by
  refine Alike.lookup (Alike.outward (Alike.afterAll_filter keeps_values ?_ changes rfl) _) name
  rintro (_ | _ | _ | _) idle scope <;> first | rfl | cases idle

/-- **The lookups in a scope chain, from its history alone.** Behind any changes the chain has a
scope for each level up to that of the innermost one, and in each of these a rule has the parameter
that the latest definition of its name gives it, in the innermost scope from there outwards that has
one; likewise a variable. Rules and variables do not affect each other. A scope that is entered and
left again leaves the chain as it was. -/
theorem lookups_eq_history (changes : List Change) :
    (after changes).depth = levelAfter changes ∧
    (∀ level ≤ levelAfter changes, ∀ name,
      let scope := (after changes).outward (levelAfter changes - level)
      (∀ parameter, scope.ruleParameter? name = some parameter ↔
        Means Change.rule? changes level name parameter) ∧
      (scope.ruleParameter? name = none ↔
        ∀ home ≤ level, ∀ parameter, ¬ Latest Change.rule? changes home name parameter) ∧
      (scope.hasRule name = true ↔
        ∃ home ≤ level, ∃ parameter, Latest Change.rule? changes home name parameter) ∧
      (∀ value, scope.variableValue? name = some value ↔
        Means Change.value? changes level name value) ∧
      (scope.variableValue? name = none ↔
        ∀ home ≤ level, ∀ value, ¬ Latest Change.value? changes home name value) ∧
      (scope.hasVariable name = true ↔
        ∃ home ≤ level, ∃ value, Latest Change.value? changes home name value)) ∧
    (∀ distance name,
      ((after (changes.filter (·.value?.isNone))).outward distance).ruleParameter? name =
          ((after changes).outward distance).ruleParameter? name ∧
        ((after (changes.filter (·.rule?.isNone))).outward distance).variableValue? name =
          ((after changes).outward distance).variableValue? name) ∧
    ∀ inside, Balanced inside →
      after (changes ++ .enter :: inside ++ [.exit]) = after changes := by
  refine ⟨depth_after changes, fun level within name => ?_, fun distance name =>
    ⟨ruleParameter?_filter changes distance name, variableValue?_filter changes distance name⟩,
    fun inside balanced => after_nested changes balanced⟩
  rw [← depth_after] at within ⊢
  exact ⟨lookup_outward_iff keeps_rules within name, lookup_eq_none_iff keeps_rules within name,
    isSome_lookup_iff keeps_rules within name, lookup_outward_iff keeps_values within name,
    lookup_eq_none_iff keeps_values within name, isSome_lookup_iff keeps_values within name⟩

/-- A rule of the scope inside hides that of the scope around it, and a variable hides neither. -/
theorem means_inside_and_outside :
    let changes : List Change := [.defineRule "r" "n", .enter, .defineRule "r" "m",
      .defineVariable "r" ⟨.missing, ⟨0, 0⟩⟩]
    let inside : List Change := [.defineRule "r" "k", .enter, .exit]
    1 ≤ levelAfter changes ∧ Balanced inside ∧
      Means Change.rule? changes 0 "r" "n" ∧ Means Change.rule? changes 1 "r" "m" ∧
      (∀ value, ¬ Means Change.value? changes 0 "r" value) ∧
      ((after (changes ++ .enter :: inside ++ [.exit])).ruleParameter? "r") = some "m" := by
  intro changes inside
  have balanced : Balanced inside := .defineRule "r" "k" (.nested .nil .nil)
  obtain ⟨_, lookups, _, closed⟩ := lookups_eq_history changes
  refine ⟨by decide, balanced, ((lookups 0 (by decide) "r").1 "n").mp rfl,
    ((lookups 1 (by decide) "r").1 "m").mp rfl, fun value means => ?_, ?_⟩
  · have found := ((lookups 0 (by decide) "r").2.2.2.1 value).mpr means
    cases found
  · rw [closed inside balanced]
    rfl

end Scope

end TurtleScene
