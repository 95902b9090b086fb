/-
**Lists.**

What the proofs about texts and trees need of lists, whatever their members are.

* `takeWhile_append_cons`, `dropWhile_append_cons` — a run of a class in front of what stops it.
* `flatMap_map_of`, `filterMap_map_of` — the parts of changed members are the changed parts; the
  parts of one member stand together (`infix_flatMap`). What changed members have in common
  (`eq_of_map_eq`, `map_eq_map_iff`).
* `SelfDelimiting` — written forms that show where they end; values in a row, with what closes them,
  do if each of them does (`flatMap_inj`).
* `exists_of_concat_eq` — a list with one more member behind it, split in front of that member.
* `mapM_ok_iff`, `mapM_error_iff`, `exists_forall₂_iff` — answers to a list of questions.
-/

import Mathlib.Data.List.Forall2
import Mathlib.Data.List.TakeWhile

namespace TurtleScene

/-! ### Runs of a class -/

section Runs

variable {α : Type} {inClass : α → Bool} {stop : α}

theorem takeWhile_append_cons (stops : inClass stop = false) (front rest : List α) :
    (front ++ stop :: rest).takeWhile inClass = front.takeWhile inClass := by
  induction front with
  | nil => simp [stops]
  | cons head tail ih => simp [List.takeWhile_cons, ih]

theorem dropWhile_append_cons (stops : inClass stop = false) (front rest : List α) :
    (front ++ stop :: rest).dropWhile inClass = front.dropWhile inClass ++ stop :: rest := by
  induction front with
  | nil => simp [stops]
  | cons head tail ih =>
    rw [List.cons_append, List.dropWhile_cons, List.dropWhile_cons, ih]
    split <;> rfl

theorem takeWhile_append_stop {run : List α} (rest : List α)
    (each : ∀ part ∈ run, inClass part = true) (stops : inClass stop = false) :
    (run ++ stop :: rest).takeWhile inClass = run := by
  rw [takeWhile_append_cons stops, List.takeWhile_eq_self_iff.mpr each]

theorem dropWhile_append_stop {run : List α} (rest : List α)
    (each : ∀ part ∈ run, inClass part = true) (stops : inClass stop = false) :
    (run ++ stop :: rest).dropWhile inClass = stop :: rest := by
  rw [dropWhile_append_cons stops, List.dropWhile_eq_nil_iff.mpr each, List.nil_append]

end Runs

/-! ### Parts of changed members -/

section Parts

variable {α β γ δ : Type} {move : α → β} {change : γ → δ}

theorem flatMap_map_of {parts : β → List δ} {before : α → List γ}
    (each : ∀ member, parts (move member) = (before member).map change) (members : List α) :
    (members.map move).flatMap parts = (members.flatMap before).map change := by
  rw [List.flatMap_map, List.map_flatMap]
  simp only [each]

theorem filterMap_map_of {part? : β → Option δ} {before? : α → Option γ}
    (each : ∀ member, part? (move member) = (before? member).map change) (members : List α) :
    (members.map move).filterMap part? = (members.filterMap before?).map change := by
  rw [List.filterMap_map, List.map_filterMap]
  exact List.filterMap_congr fun member _ => each member

/-- Members that are told by their changed forms. -/
theorem eq_of_map_eq {members others : List α}
    (told : ∀ member ∈ members, ∀ other ∈ others, move member = move other → member = other)
    (same : members.map move = others.map move) : members = others := by
  induction members generalizing others with
  | nil => exact (List.map_eq_nil_iff.mp same.symm).symm
  | cons member more ih =>
    obtain ⟨other, further, rfl, isMember, behind⟩ := List.map_eq_cons_iff.mp same.symm
    obtain rfl := told member List.mem_cons_self other List.mem_cons_self isMember.symm
    have tails := ih (fun member inMore other inFurther =>
      told member (List.mem_cons_of_mem _ inMore) other (List.mem_cons_of_mem _ inFurther))
      behind.symm
    rw [tails]

theorem map_eq_map_iff {alike : α → α → Prop}
    (each : ∀ member other, move member = move other ↔ alike member other)
    {members others : List α} :
    members.map move = others.map move ↔ List.Forall₂ alike members others := by
  rw [← List.forall₂_eq_eq_eq, List.forall₂_map_left_iff, List.forall₂_map_right_iff]
  simp only [each]

/-- The parts of one member stand together. -/
theorem infix_flatMap {members : List α} {member : α} (present : member ∈ members)
    (parts : α → List β) : parts member <:+: members.flatMap parts := by
  rw [List.flatMap_def]
  exact List.infix_of_mem_flatten (List.mem_map_of_mem present)

end Parts

/-! ### Written forms that show where they end -/

/-- **A written form shows where it ends**: whatever begins with the form of a value begins with the
form of no other value. -/
def SelfDelimiting {Value Letter : Type} (write : Value → List Letter) : Prop :=
  ∀ ⦃first second rest others⦄, write first ++ rest = write second ++ others →
    first = second ∧ rest = others

section Delimiting

variable {Value End Letter : Type} {write : Value → List Letter} {closing : End → List Letter}

/-- A run of a class and what stops it are settled by what follows. -/
theorem append_inj_of_run {inClass : Letter → Bool} {run otherRun rest others : List Letter}
    {stop otherStop : Letter} (each : ∀ letter ∈ run, inClass letter = true)
    (otherEach : ∀ letter ∈ otherRun, inClass letter = true) (stops : inClass stop = false)
    (otherStops : inClass otherStop = false)
    (same : run ++ stop :: rest = otherRun ++ otherStop :: others) :
    run = otherRun ∧ stop = otherStop ∧ rest = others := by
  have runs := congrArg (List.takeWhile inClass) same
  rw [takeWhile_append_stop rest each stops, takeWhile_append_stop others otherEach otherStops]
    at runs
  subst runs
  exact ⟨rfl, List.cons.inj (List.append_cancel_left same)⟩

/-- A run of a class shows where it ends by a letter outside the class. -/
theorem selfDelimiting_of_run {inClass : Letter → Bool} {stop : Letter}
    (distinct : Function.Injective write)
    (each : ∀ value, ∀ letter ∈ write value, inClass letter = true)
    (stops : inClass stop = false) : SelfDelimiting fun value => write value ++ [stop] := by
  intro first second rest others same
  rw [List.append_assoc, List.append_assoc, List.singleton_append, List.singleton_append] at same
  obtain ⟨runs, _, behind⟩ :=
    append_inj_of_run (each first) (each second) stops stops same
  exact ⟨distinct runs, behind⟩

/-- A list of members is settled by what begins a member and what does not. -/
theorem flatMap_inj (begins : Letter → Bool) (delimiting : SelfDelimiting write)
    (starts : ∀ value, ∃ first others, write value = first :: others ∧ begins first = true)
    (closes : SelfDelimiting closing)
    (stops : ∀ last, ∃ first others, closing last = first :: others ∧ begins first = false)
    {values otherValues : List Value} {last otherLast : End} {rest others : List Letter}
    (same : values.flatMap write ++ (closing last ++ rest) =
      otherValues.flatMap write ++ (closing otherLast ++ others)) :
    values = otherValues ∧ last = otherLast ∧ rest = others := by
  have apart : ∀ {value : Value} {last : End} {rest others : List Letter},
      write value ++ rest ≠ closing last ++ others := by
    intro value last rest others same
    obtain ⟨first, _, isFirst, begun⟩ := starts value
    obtain ⟨stop, _, isStop, stopped⟩ := stops last
    rw [isFirst, isStop, List.cons_append, List.cons_append, List.cons.injEq] at same
    rw [same.1, stopped] at begun
    cases begun
  induction values generalizing otherValues with
  | nil =>
    cases otherValues with
    | nil => exact ⟨rfl, closes same⟩
    | cons value more =>
      rw [List.flatMap_cons, List.append_assoc] at same
      exact (apart same.symm).elim
  | cons value more ih =>
    rw [List.flatMap_cons, List.append_assoc] at same
    cases otherValues with
    | nil => exact (apart same).elim
    | cons otherValue otherMore =>
      rw [List.flatMap_cons, List.append_assoc] at same
      obtain ⟨rfl, behind⟩ := delimiting same
      obtain ⟨rfl, closed⟩ := ih behind
      exact ⟨rfl, closed⟩

end Delimiting

/-! ### One more member -/

/-- What stands behind all others stands in front of nothing. -/
theorem exists_of_concat_eq {α : Type} {members front behind : List α} {last next final : α}
    (same : members ++ [final] = front ++ last :: next :: behind) :
    ∃ more, members = front ++ last :: more ∧ more ++ [final] = next :: behind := by
  rcases List.append_eq_append_iff.mp same with ⟨tail, rfl, atEnd⟩ | ⟨tail, rfl, further⟩
  · rcases List.singleton_eq_append_iff.mp atEnd with ⟨_, short⟩ | ⟨_, short⟩ <;> cases short
  · cases tail with
    | nil => cases further
    | cons first more =>
      obtain ⟨rfl, others⟩ := List.cons.inj further
      exact ⟨more, rfl, others.symm⟩

/-! ### Answers in a row -/

section Answers

variable {α β ε : Type}

/-- All questions have an answer if each has, and the answers are those to the questions. -/
theorem mapM_ok_iff {answer : α → Except ε β} {questions : List α} {answers : List β} :
    questions.mapM answer = .ok answers ↔
      List.Forall₂ (fun question found => answer question = .ok found) questions answers := by
  induction questions generalizing answers with
  | nil =>
    rw [List.mapM_nil, List.forall₂_nil_left_iff]
    exact ⟨fun same => (Except.ok.inj same).symm, fun same => congrArg Except.ok same.symm⟩
  | cons question others ih =>
    rw [List.mapM_cons, List.forall₂_cons_left_iff]
    cases answered : answer question with
    | error error => exact ⟨nofun, fun ⟨_, _, same, _⟩ => nomatch same⟩
    | ok found =>
      cases rest : others.mapM answer with
      | error error =>
        refine ⟨nofun, fun ⟨_, further, _, each, _⟩ => ?_⟩
        rw [ih.mpr each] at rest
        cases rest
      | ok further =>
        constructor
        · intro same
          cases same
          exact ⟨found, further, rfl, ih.mp rest, rfl⟩
        · rintro ⟨_, others, same, each, rfl⟩
          cases same
          rw [ih.mpr each] at rest
          cases rest
          rfl

/-- The first question without an answer is the one that shows. -/
theorem mapM_error_of_first {answer : α → Except ε β} {front behind : List α} {question : α}
    {error : ε} (each : ∀ earlier ∈ front, ∃ found, answer earlier = .ok found)
    (failed : answer question = .error error) :
    (front ++ question :: behind).mapM answer = .error error := by
  induction front with
  | nil =>
    rw [List.nil_append, List.mapM_cons, failed]
    rfl
  | cons earlier others ih =>
    obtain ⟨⟨found, answered⟩, each⟩ := List.forall_mem_cons.mp each
    rw [List.cons_append, List.mapM_cons, answered, ih each]
    rfl

/-- **The error that shows is that of the first question without an answer.** -/
theorem mapM_error_iff {answer : α → Except ε β} {questions : List α} {error : ε} :
    questions.mapM answer = .error error ↔ ∃ front question behind,
      questions = front ++ question :: behind ∧
        (∀ earlier ∈ front, ∃ found, answer earlier = .ok found) ∧
          answer question = .error error := by
  constructor
  · intro failed
    induction questions with
    | nil => cases failed
    | cons question others ih =>
      rw [List.mapM_cons] at failed
      cases answered : answer question with
      | error first =>
        rw [answered] at failed
        cases failed
        exact ⟨[], question, others, rfl, nofun, answered⟩
      | ok found =>
        rw [answered] at failed
        cases rest : others.mapM answer with
        | error first =>
          rw [rest] at failed
          cases failed
          obtain ⟨front, other, behind, rfl, each, missing⟩ := ih rest
          exact ⟨question :: front, other, behind, rfl,
            List.forall_mem_cons.mpr ⟨⟨found, answered⟩, each⟩, missing⟩
        | ok further =>
          rw [rest] at failed
          cases failed
  · rintro ⟨front, question, behind, rfl, each, failed⟩
    exact mapM_error_of_first each failed

/-- Where an answer is missing, some question has none. -/
theorem exists_error_of_mapM {answer : α → Except ε β} {questions : List α} {error : ε}
    (failed : questions.mapM answer = .error error) :
    ∃ question ∈ questions, answer question = .error error := by
  obtain ⟨front, question, behind, rfl, _, missing⟩ := mapM_error_iff.mp failed
  exact ⟨question, List.mem_append_cons_self, missing⟩

theorem exists_forall₂_iff {related : α → β → Prop} {firsts : List α} :
    (∃ seconds, List.Forall₂ related firsts seconds) ↔
      ∀ first ∈ firsts, ∃ second, related first second := by
  induction firsts with
  | nil => simp
  | cons first others ih =>
    rw [List.forall_mem_cons, ← ih]
    simp only [List.forall₂_cons_left_iff]
    constructor
    · rintro ⟨_, second, further, here, each, _⟩
      exact ⟨⟨second, here⟩, further, each⟩
    · rintro ⟨⟨second, here⟩, further, each⟩
      exact ⟨second :: further, second, further, here, each, rfl⟩

end Answers

end TurtleScene
