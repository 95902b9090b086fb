/-
**Lines of an outline.**

A line tells its depth and its text if the text stands on one line and does not begin like an
indentation. The lines of a part go on as long as they are deeper than the first of them, so parts
one behind the other are told apart by depths alone.

* `OutlineLine.Plain`, **`OutlineLine.eq_of_print`** — lines that are given back by their text.
* `IsPart`, `partLines`, `leaf` — the lines of a part, and of the parts below it.
* **`partLines_eq_iff`** — a part is told by its lines.
-/

import TurtleScene.Proofs.Lists
import TurtleScene.Scene.Outline
import TurtleScene.Text.Lines

namespace TurtleScene

open Text OutlineLine

/-! ### Lines -/

/-- What stands in front of the text of a line. -/
def indentation (depth : Nat) : List Char := (List.replicate depth ['|', ' ', ' ']).flatten

theorem indentation_succ (depth : Nat) :
    indentation (depth + 1) = ['|', ' ', ' '] ++ indentation depth := by
  rw [indentation, List.replicate_succ, List.flatten_cons, indentation]

/-- The depth of a line is the number of bars in front of a text that begins with none. -/
theorem indentation_append_inj {depth otherDepth : Nat} {text otherText : List Char}
    (starts : text.head? ≠ some '|') (otherStarts : otherText.head? ≠ some '|')
    (same : indentation depth ++ text = indentation otherDepth ++ otherText) :
    depth = otherDepth ∧ text = otherText := by
  induction depth generalizing otherDepth with
  | zero =>
    cases otherDepth with
    | zero => exact ⟨rfl, same⟩
    | succ otherDepth =>
      rw [indentation_succ] at same
      exact (starts (congrArg List.head? same)).elim
  | succ depth ih =>
    rw [indentation_succ] at same
    cases otherDepth with
    | zero => exact (otherStarts (congrArg List.head? same.symm)).elim
    | succ otherDepth =>
      rw [indentation_succ, List.append_assoc, List.append_assoc,
        List.append_cancel_left_eq] at same
      obtain ⟨rfl, texts⟩ := ih same
      exact ⟨rfl, texts⟩

namespace OutlineLine

/-- What stands on the line. -/
def content (line : OutlineLine) : List Char := indentation line.depth ++ line.text.toList

theorem toList_print (line : OutlineLine) : line.print.toList = line.content ++ ['\n'] := by
  simp [print, content, indentation, List.flatMap_def]

/-- A text that neither begins like an indentation nor goes on in the next line. -/
def Plain (text : String) : Prop := text.toList.head? ≠ some '|' ∧ '\n' ∉ text.toList

instance : DecidablePred Plain := fun _ => inferInstanceAs (Decidable (_ ∧ _))

theorem plain_append {front behind : String} (plain : Plain front)
    (nonempty : front.toList ≠ []) (oneLine : '\n' ∉ behind.toList) : Plain (front ++ behind) := by
  rw [Plain, String.toList_append, List.head?_append_of_ne_nil _ nonempty]
  exact ⟨plain.1, List.not_mem_append plain.2 oneLine⟩

theorem newline_notMem_content {line : OutlineLine} (plain : Plain line.text) :
    '\n' ∉ line.content := by
  intro member
  rcases List.mem_append.mp member with inFront | inText
  · obtain ⟨_, isBar, inBar⟩ := List.mem_flatten.mp inFront
    rw [List.eq_of_mem_replicate isBar] at inBar
    exact absurd inBar (by decide)
  · exact plain.2 inText

theorem eq_of_content {line other : OutlineLine} (plain : Plain line.text)
    (otherPlain : Plain other.text) (same : line.content = other.content) : line = other := by
  obtain ⟨depths, texts⟩ := indentation_append_inj plain.1 otherPlain.1 same
  obtain ⟨depth, text⟩ := line
  obtain ⟨otherDepth, otherText⟩ := other
  cases depths
  cases String.toList_inj.mp texts
  rfl

/-- Lines with plain texts. -/
def AllPlain (lines : List OutlineLine) : Prop := ∀ line ∈ lines, Plain line.text

/-- **The text of an outline gives its lines back.** -/
theorem eq_of_print {lines others : List OutlineLine} (plain : AllPlain lines)
    (otherPlain : AllPlain others)
    (same : String.join (lines.map print) = String.join (others.map print)) : lines = others := by
  have text : ∀ lines : List OutlineLine, (String.join (lines.map print)).toList =
      (lines.map content).flatMap (· ++ ['\n']) := fun lines => by
    simp [List.flatMap_map, toList_print]
  have oneLine : ∀ {lines : List OutlineLine}, AllPlain lines →
      ∀ line ∈ lines.map content, '\n' ∉ line := fun plain =>
    List.forall_mem_map.mpr fun line member => newline_notMem_content (plain line member)
  have contents := lines_eq_of_flatMap (oneLine plain) (oneLine otherPlain)
    ((text lines).symm.trans ((congrArg String.toList same).trans (text others)))
  exact eq_of_map_eq (fun line member other otherMember =>
    eq_of_content (plain line member) (otherPlain other otherMember)) contents

end OutlineLine

/-! ### Parts below one another -/

/-- Lines at a depth: one at the depth itself, and deeper ones behind it. -/
def IsPart (depth : Nat) (lines : List OutlineLine) : Prop :=
  ∃ text deeper, lines = ⟨depth, text⟩ :: deeper ∧ ∀ line ∈ deeper, depth < line.depth

/-- The lines of a part: its own, and those of the parts below it. -/
def partLines (depth : Nat) (text : String) (below : List (List OutlineLine)) : List OutlineLine :=
  ⟨depth, text⟩ :: below.flatten

theorem IsPart.le_depth {depth : Nat} {lines : List OutlineLine} (isPart : IsPart depth lines) :
    ∀ line ∈ lines, depth ≤ line.depth := by
  obtain ⟨text, deeper, rfl, isDeeper⟩ := isPart
  exact List.forall_mem_cons.mpr
    ⟨Nat.le_refl _, fun line member => Nat.le_of_lt (isDeeper line member)⟩

theorem isPart_partLines {depth : Nat} {text : String} {below : List (List OutlineLine)}
    (each : ∀ part ∈ below, IsPart (depth + 1) part) :
    IsPart depth (partLines depth text below) := by
  refine ⟨text, below.flatten, rfl, fun line member => ?_⟩
  obtain ⟨part, isBelow, inPart⟩ := List.mem_flatten.mp member
  exact (each part isBelow).le_depth line inPart

/-- Where a part ends, a line begins that is not deeper, if there is one. -/
theorem takeWhile_flatten_parts {depth : Nat} {parts : List (List OutlineLine)}
    (each : ∀ part ∈ parts, IsPart depth part) :
    parts.flatten.takeWhile (fun line => depth < line.depth) = [] := by
  cases parts with
  | nil => rfl
  | cons part others =>
    obtain ⟨text, deeper, rfl, _⟩ := each part List.mem_cons_self
    simp

/-- **Parts at one depth are told by their lines.** -/
theorem parts_eq_of_flatten {depth : Nat} {parts others : List (List OutlineLine)}
    (each : ∀ part ∈ parts, IsPart depth part) (otherEach : ∀ part ∈ others, IsPart depth part)
    (same : parts.flatten = others.flatten) : parts = others := by
  induction parts generalizing others with
  | nil =>
    cases others with
    | nil => rfl
    | cons other further =>
      obtain ⟨text, deeper, rfl, _⟩ := otherEach other List.mem_cons_self
      cases same
  | cons part more ih =>
    obtain ⟨⟨text, deeper, rfl, isDeeper⟩, eachMore⟩ := List.forall_mem_cons.mp each
    cases others with
    | nil => cases same
    | cons other further =>
      obtain ⟨⟨otherText, otherDeeper, rfl, otherIsDeeper⟩, eachFurther⟩ :=
        List.forall_mem_cons.mp otherEach
      rw [List.flatten_cons, List.flatten_cons, List.cons_append, List.cons_append] at same
      obtain ⟨heads, tails⟩ := List.cons.inj same
      have upTo := congrArg (List.takeWhile fun line => decide (depth < line.depth)) tails
      rw [List.takeWhile_append_of_pos fun line member => decide_eq_true (isDeeper line member),
        List.takeWhile_append_of_pos fun line member => decide_eq_true (otherIsDeeper line member),
        takeWhile_flatten_parts eachMore, takeWhile_flatten_parts eachFurther, List.append_nil,
        List.append_nil] at upTo
      subst upTo
      rw [heads, ih eachMore eachFurther (List.append_cancel_left tails)]

/-- **A part is told by its lines**: by its own text, and by the parts below it. -/
theorem partLines_eq_iff {depth : Nat} {text otherText : String}
    {below others : List (List OutlineLine)} (each : ∀ part ∈ below, IsPart (depth + 1) part)
    (otherEach : ∀ part ∈ others, IsPart (depth + 1) part) :
    partLines depth text below = partLines depth otherText others ↔
      text = otherText ∧ below = others := by
  constructor
  · intro same
    obtain ⟨heads, tails⟩ := List.cons.inj same
    exact ⟨congrArg OutlineLine.text heads, parts_eq_of_flatten each otherEach tails⟩
  · rintro ⟨rfl, rfl⟩
    rfl

/-- A part that nothing stands below. -/
def leaf (depth : Nat) (text : String) : List OutlineLine := partLines depth text []

theorem isPart_leaf (depth : Nat) (text : String) : IsPart depth (leaf depth text) :=
  isPart_partLines nofun

theorem leaf_eq_iff {depth : Nat} {text otherText : String} :
    leaf depth text = leaf depth otherText ↔ text = otherText := by
  simp [leaf, partLines]

theorem allPlain_partLines {depth : Nat} {text : String} {below : List (List OutlineLine)}
    (plain : Plain text) (each : ∀ part ∈ below, AllPlain part) :
    AllPlain (partLines depth text below) := by
  refine List.forall_mem_cons.mpr ⟨plain, fun line member => ?_⟩
  obtain ⟨part, isBelow, inPart⟩ := List.mem_flatten.mp member
  exact each part isBelow line inPart

theorem allPlain_leaf {depth : Nat} {text : String} (plain : Plain text) :
    AllPlain (leaf depth text) :=
  allPlain_partLines plain nofun

end TurtleScene
