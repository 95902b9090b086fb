/-
**The dump of a source's tokens can be read back.**

Each token is written on a line of its own. From a line the token can be told, with its text and its
place, since every part of a line shows where it ends: a name by what follows its letters, a number
by what follows its digits, and a text by its closing quote, which is escaped within the text.

* `escape_selfDelimiting`, `quote_selfDelimiting` — characters and texts as a dump writes them.
* `TokenKind.eq_of_label` — a kind is told by its name and the text that it carries.
* `Token.dump_injective` — a token is told by its line, and does not break it
  (`Token.newline_notMem_dump`).
* **`tokenDump_faithful`** — the dump of a source: when there is one, its lines, and what it tells.
-/

import TurtleScene.Proofs.Layout
import TurtleScene.Run
import TurtleScene.Text.Lines

namespace TurtleScene

open Text

/-! ### Numbers -/

/-- The digits of a numeral are those of numbers below the base. -/
theorem exists_of_mem_toDigits {base : Nat} (enough : 1 < base) {number : Nat} {digit : Char}
    (member : digit ∈ Nat.toDigits base number) : ∃ value < base, digit = value.digitChar := by
  induction number using Nat.strong_induction_on with
  | _ number ih =>
    rw [Nat.toDigits_eq_if enough] at member
    split at member
    · exact ⟨number, ‹_›, List.mem_singleton.mp member⟩
    · rcases List.mem_append.mp member with inFront | last
      · exact ih _ (Nat.div_lt_self (by omega) enough) inFront
      · exact ⟨number % base, Nat.mod_lt _ (by omega), List.mem_singleton.mp last⟩

/-- Hexadecimal digits tell their number. -/
theorem toDigits_sixteen_injective : Function.Injective (Nat.toDigits 16) := by
  have digits : ∀ first < 16, ∀ second < 16, Nat.digitChar first = Nat.digitChar second →
      first = second := by decide
  have longer : ∀ {quotient : Nat} {digit last : Char},
      [digit] ≠ Nat.toDigits 16 quotient ++ [last] := by
    intro _ _ _ same
    rcases List.singleton_eq_append_iff.mp same with ⟨none, _⟩ | ⟨_, none⟩
    · exact Nat.toDigits_ne_nil none
    · cases none
  intro first
  induction first using Nat.strong_induction_on with
  | _ first ih =>
    intro second same
    rw [Nat.toDigits_eq_if (by decide), Nat.toDigits_eq_if (n := second) (by decide)] at same
    split_ifs at same with small otherSmall otherSmall
    · exact digits _ small _ otherSmall (List.singleton_inj.mp same)
    · exact (longer same).elim
    · exact (longer same.symm).elim
    · obtain ⟨front, last⟩ := List.append_inj' same rfl
      have quotients := ih _ (Nat.div_lt_self (by omega) (by decide)) front
      have remainders := digits _ (Nat.mod_lt _ (by decide)) _ (Nat.mod_lt _ (by decide))
        (List.singleton_inj.mp last)
      omega

/-- A number shows where it ends by a character that is no digit. -/
theorem repr_selfDelimiting {stop : Char} (stops : stop.isDigit = false) :
    SelfDelimiting fun number : Nat => number.repr.toList ++ [stop] := by
  have distinct : Function.Injective (Nat.toDigits 10) :=
    Function.LeftInverse.injective (g := fun digits => Nat.ofDigitChars 10 digits 0)
      fun _ => Nat.ofDigitChars_ten_toDigits
  simp only [Nat.toList_repr]
  exact selfDelimiting_of_run distinct
    (fun _ _ member => Nat.isDigit_of_mem_toDigits (by decide) (by decide) member) stops

/-! ### Texts between quotes -/

namespace Text

theorem isAlphanum_of_mem_codePointDigits {character digit : Char}
    (member : digit ∈ codePointDigits character) : digit.isAlphanum = true := by
  obtain ⟨value, small, rfl⟩ := exists_of_mem_toDigits (by decide) member
  have each : ∀ value < 16, (Nat.digitChar value).isAlphanum = true := by decide
  exact each value small

/-- A code point shows where it ends by the brace behind it. -/
theorem codePoint_selfDelimiting :
    SelfDelimiting fun character => codePointDigits character ++ ['\x7d'] :=
  selfDelimiting_of_run (fun _ _ same => Char.toNat_inj.mp (toDigits_sixteen_injective same))
    (fun _ _ => isAlphanum_of_mem_codePointDigits) (by decide)

/-- The characters with an escape of their own, each with the mark behind the backslash. -/
def namedEscapes : List (Char × Char) :=
  [('\x00', '0'), ('\t', 't'), ('\r', 'r'), ('\n', 'n'), ('"', '"'), ('\\', '\\')]

/-- **How a character is written**: by an escape of its own, by its code point, or as it is. -/
inductive Written (character : Char) : List Char → Prop
  | named {mark : Char} : (character, mark) ∈ namedEscapes → Written character ['\\', mark]
  | codePoint : Written character (escapeCodePoint character)
  | plain : character ≠ '\\' → character ≠ '"' → character ≠ '\n' → Written character [character]

theorem written_escape (character : Char) : Written character (escape character) := by
  unfold escape
  split
  case h_7 _ _ _ noNewline noQuote noBackslash =>
    split
    · exact .codePoint
    · exact .plain noBackslash noQuote noNewline
  all_goals exact .named (by decide)

/-- **A character shows where it ends.** Only escapes begin with a backslash, and the mark behind it
tells them apart. -/
theorem escape_selfDelimiting : SelfDelimiting escape := by
  have marks : ∀ pair ∈ namedEscapes, pair.2 ≠ 'u' ∧
      ∀ other ∈ namedEscapes, pair.2 = other.2 → pair.1 = other.1 := by decide
  intro first second rest others same
  have written := written_escape first
  have otherWritten := written_escape second
  generalize escape first = form at same written
  generalize escape second = otherForm at same otherWritten
  cases written with
  | named isNamed =>
    cases otherWritten with
    | named otherNamed =>
      obtain ⟨mark, behind⟩ := List.cons.inj (List.cons.inj same).2
      exact ⟨(marks _ isNamed).2 _ otherNamed mark, behind⟩
    | codePoint => exact ((marks _ isNamed).1 (List.cons.inj (List.cons.inj same).2).1).elim
    | plain noBackslash => exact (noBackslash (List.cons.inj same).1.symm).elim
  | codePoint =>
    cases otherWritten with
    | named isNamed =>
      exact ((marks _ isNamed).1 (List.cons.inj (List.cons.inj same).2).1.symm).elim
    | codePoint =>
      simp only [escapeCodePoint, List.append_assoc, List.append_cancel_left_eq] at same
      simp only [← List.append_assoc] at same
      exact codePoint_selfDelimiting same
    | plain noBackslash => exact (noBackslash (List.cons.inj same).1.symm).elim
  | plain noBackslash =>
    cases otherWritten with
    | named _ => exact (noBackslash (List.cons.inj same).1).elim
    | codePoint => exact (noBackslash (List.cons.inj same).1).elim
    | plain => exact List.cons.inj same

/-- A written character begins with no quote and holds no line break. -/
theorem escape_starts (character : Char) :
    (∃ head tail, escape character = head :: tail ∧ (head != '"') = true) ∧
      '\n' ∉ escape character := by
  have marks : ∀ pair ∈ namedEscapes, pair.2 ≠ '\n' := by decide
  have written := written_escape character
  generalize escape character = form at written
  cases written with
  | named isNamed =>
    refine ⟨⟨'\\', _, rfl, by decide⟩, fun newline => ?_⟩
    rcases List.mem_cons.mp newline with isBackslash | isMark
    · cases isBackslash
    · exact marks _ isNamed (List.mem_singleton.mp isMark).symm
  | codePoint =>
    refine ⟨⟨'\\', _, rfl, by decide⟩, fun newline => ?_⟩
    simp only [escapeCodePoint, List.mem_append, List.mem_cons, List.not_mem_nil,
      or_false] at newline
    rcases newline with (framing | inDigits) | framing
    · revert framing
      decide
    · exact absurd (isAlphanum_of_mem_codePointDigits inDigits) (by decide)
    · revert framing
      decide
  | plain _ noQuote noNewline =>
    exact ⟨⟨character, [], rfl, bne_iff_ne.mpr noQuote⟩,
      fun newline => noNewline (List.mem_singleton.mp newline).symm⟩

/-- **A text between quotes shows where it ends**, whatever it holds. -/
theorem quote_selfDelimiting : SelfDelimiting fun text => (quote text).toList := by
  intro first second rest others same
  have form : ∀ text rest, (quote text).toList ++ rest =
      '"' :: (text.toList.flatMap escape ++ (['"'] ++ rest)) := by
    intro text rest
    simp [quote]
  rw [form, form] at same
  have closes : SelfDelimiting fun _ : Unit => ['"'] :=
    fun _ _ _ _ same => ⟨rfl, (List.cons.inj same).2⟩
  obtain ⟨texts, _, behind⟩ : first.toList = second.toList ∧ () = () ∧ rest = others :=
    flatMap_inj (· != '"') escape_selfDelimiting (fun character => (escape_starts character).1)
      closes (fun _ => ⟨_, _, rfl, by decide⟩) (List.cons.inj same).2
  exact ⟨String.toList_inj.mp texts, behind⟩

end Text

/-! ### Tokens -/

namespace TokenKind

/-- The kinds that carry no text. -/
def bare : List TokenKind :=
  Keyword.all.map keyword ++ Mark.all.map mark ++ [endOfFile]

theorem mem_bare {kind : TokenKind} (carries : kind.payload? = none) : kind ∈ bare := by
  have words : ∀ word, word ∈ Keyword.all := by rintro (_ | _) <;> decide
  have marks : ∀ symbol, symbol ∈ Mark.all := by rintro (_ | _) <;> decide
  cases kind with
  | keyword word => simp [bare, words word]
  | mark symbol => simp [bare, marks symbol]
  | endOfFile => simp [bare]
  | identifier _ | integer _ | decimal _ | string _ | color _ => cases carries

/-- **A kind is told by its name and the text that it carries.** -/
theorem eq_of_label {kind other : TokenKind} (labels : kind.label = other.label)
    (payloads : kind.payload? = other.payload?) : kind = other := by
  cases carried : kind.payload? with
  | none =>
    have distinct : (bare.map label).Nodup := by decide
    exact List.inj_on_of_nodup_map distinct (mem_bare carried)
      (mem_bare (payloads.symm.trans carried)) labels
  | some text =>
    have otherCarried := payloads.symm.trans carried
    cases kind <;> cases carried <;> cases other <;> cases otherCarried <;>
      first
      | rfl
      | exact absurd labels (by simp [label])

/-- The name of a kind consists of letters. -/
theorem isAlpha_of_mem_label {kind : TokenKind} {letter : Char}
    (member : letter ∈ kind.label.toList) : letter.isAlpha = true := by
  have each : kind.label.toList.all Char.isAlpha = true := by
    cases kind with
    | keyword word => cases word <;> decide
    | mark symbol => cases symbol <;> decide
    | identifier _ | integer _ | decimal _ | string _ | color _ | endOfFile =>
      simp only [label]
      decide
  exact List.all_eq_true.mp each letter member

/-- A kind as it is dumped: its name, and its text if it carries one. -/
theorem dump_form (kind : TokenKind) :
    (kind.payload? = none ∧ kind.dump.toList = kind.label.toList) ∨
      ∃ text, kind.payload? = some text ∧
        kind.dump.toList = kind.label.toList ++ '(' :: ((quote text).toList ++ [')']) := by
  unfold dump
  cases carried : kind.payload? with
  | none => exact .inl ⟨rfl, rfl⟩
  | some text => exact .inr ⟨text, rfl, by simp⟩

theorem dump_selfDelimiting : SelfDelimiting fun kind : TokenKind => kind.dump.toList ++ [','] := by
  intro kind other rest others same
  -- A name ends in front of a comma, or of the parenthesis that opens a text.
  have names : ∀ {stop otherStop : Char} {behind otherBehind : List Char},
      stop.isAlpha = false → otherStop.isAlpha = false →
      kind.label.toList ++ stop :: behind = other.label.toList ++ otherStop :: otherBehind →
      kind.label = other.label ∧ stop = otherStop ∧ behind = otherBehind := by
    intro stop otherStop behind otherBehind stops otherStops same
    obtain ⟨labels, behind⟩ := append_inj_of_run (fun _ => isAlpha_of_mem_label)
      (fun _ => isAlpha_of_mem_label) stops otherStops same
    exact ⟨String.toList_inj.mp labels, behind⟩
  rcases dump_form kind with ⟨payload, form⟩ | ⟨text, payload, form⟩ <;>
    rcases dump_form other with ⟨otherPayload, otherForm⟩ | ⟨otherText, otherPayload, otherForm⟩ <;>
    simp only [form, otherForm, List.append_assoc, List.cons_append, List.nil_append] at same <;>
    obtain ⟨labels, stop, behind⟩ := names (by decide) (by decide) same
  · exact ⟨eq_of_label labels (payload.trans otherPayload.symm), behind⟩
  · cases stop
  · cases stop
  · obtain ⟨rfl, closing⟩ := Text.quote_selfDelimiting behind
    exact ⟨eq_of_label labels (payload.trans otherPayload.symm),
      (List.cons.inj (List.cons.inj closing).2).2⟩

end TokenKind

/-- The characters of a span, its numbers each with what stops it. -/
theorem Span.toList_describe (span : Span) : span.describe.toList =
    "Span \x7b start: ".toList ++ ((span.start.repr.toList ++ [',']) ++ (" end: ".toList ++
      ((span.stop.repr.toList ++ [' ']) ++ ['\x7d']))) := by
  -- Rewriting with the definition would first evaluate its texts byte by byte.
  show ("Span \x7b start: " ++ span.start.repr ++ ", end: " ++ span.stop.repr ++ " \x7d").toList = _
  simp only [String.toList_append, List.append_assoc]
  rfl

theorem Span.describe_selfDelimiting : SelfDelimiting fun span : Span => span.describe.toList := by
  intro first second rest others same
  simp only [toList_describe, List.append_assoc, List.append_cancel_left_eq] at same
  simp only [← List.append_assoc _ [','], ← List.append_assoc _ [' ']] at same
  obtain ⟨starts, behind⟩ := repr_selfDelimiting (by decide) same
  rw [List.append_cancel_left_eq] at behind
  obtain ⟨stops, closing⟩ := repr_selfDelimiting (by decide) behind
  obtain ⟨start, stop⟩ := first
  obtain ⟨otherStart, otherStop⟩ := second
  cases starts
  cases stops
  exact ⟨rfl, (List.cons.inj closing).2⟩

/-- The characters of a token, its kind with what stops it. -/
theorem Token.toList_dump (token : Token) : token.dump.toList =
    "Token \x7b kind: ".toList ++ ((token.kind.dump.toList ++ [',']) ++ (" span: ".toList ++
      (token.span.describe.toList ++ [' ', '\x7d']))) := by
  show ("Token \x7b kind: " ++ token.kind.dump ++ ", span: " ++ token.span.describe ++
    " \x7d").toList = _
  simp only [String.toList_append, List.append_assoc]
  rfl

/-- **A token is told by its line.** -/
theorem Token.dump_injective : Function.Injective Token.dump := by
  intro first second same
  have lines := congrArg String.toList same
  rw [toList_dump, toList_dump, List.append_cancel_left_eq] at lines
  obtain ⟨kinds, behind⟩ := TokenKind.dump_selfDelimiting lines
  rw [List.append_cancel_left_eq] at behind
  obtain ⟨spans, _⟩ := Span.describe_selfDelimiting behind
  obtain ⟨kind, span⟩ := first
  obtain ⟨otherKind, otherSpan⟩ := second
  cases kinds
  cases spans
  rfl

/-- Neither the name of a kind nor the text it carries breaks its line. -/
theorem TokenKind.newline_notMem_dump (kind : TokenKind) : '\n' ∉ kind.dump.toList := by
  have inLabel : '\n' ∉ kind.label.toList := fun member =>
    absurd (isAlpha_of_mem_label member) (by decide)
  rcases kind.dump_form with ⟨_, form⟩ | ⟨text, _, form⟩ <;> rw [form]
  · exact inLabel
  · have inText : '\n' ∉ (quote text).toList := by
      simpa [quote] using fun character _ => (Text.escape_starts character).2
    simpa using ⟨inLabel, inText⟩

/-- **A token does not break its line.** -/
theorem Token.newline_notMem_dump (token : Token) : '\n' ∉ token.dump.toList := by
  have inNumber : ∀ number : Nat, '\n' ∉ Nat.toDigits 10 number := fun _ member =>
    absurd (Nat.isDigit_of_mem_toDigits (by decide) (by decide) member) (by decide)
  simp [toList_dump, Span.toList_describe, token.kind.newline_notMem_dump, inNumber]

/-! ### Sources -/

theorem toList_dumpTokens (tokens : List Token) : (dumpTokens tokens).toList =
    (tokens.map fun token => token.dump.toList).flatMap (· ++ ['\n']) := by
  simp [dumpTokens, List.flatMap_map]

/-- The lines of a dump are those of its tokens, and an empty one behind the last line break. -/
theorem splitLines_dumpTokens (tokens : List Token) : splitLines (dumpTokens tokens).toList =
    tokens.map (fun token => token.dump.toList ++ ['\n']) ++ [[]] := by
  rw [toList_dumpTokens, splitLines_flatMap, List.map_map]
  · rfl
  · exact List.forall_mem_map.mpr fun token _ => token.newline_notMem_dump

theorem dumpTokens_injective : Function.Injective dumpTokens := by
  intro tokens others same
  have oneLine : ∀ tokens : List Token,
      ∀ line ∈ tokens.map fun token => token.dump.toList, '\n' ∉ line := fun tokens =>
    List.forall_mem_map.mpr fun token _ => token.newline_notMem_dump
  have lines := lines_eq_of_flatMap (oneLine tokens) (oneLine others)
    ((toList_dumpTokens tokens).symm.trans
      ((congrArg String.toList same).trans (toList_dumpTokens others)))
  have told : ∀ token other : Token, token.dump.toList = other.dump.toList → token = other :=
    fun _ _ ends => Token.dump_injective (String.toList_inj.mp ends)
  exact (List.map_inj_right told).mp lines

theorem tokenDump_of_tokens_ok {source : String} {tokens : List Token}
    (lexes : (TokenStream.ofSource source).tokens = .ok tokens) :
    tokenDump source = .ok (dumpTokens tokens) := by
  rw [tokenDump, lexes]
  rfl

/-- **The dump of a source is faithful.** There is none where the source holds a fault, and the
first fault is the error. Otherwise it has one line for each token and nothing else, the end of the
source on the last one, and each of them ends with its only line break. Two sources without faults
have one dump if and only if they have the same tokens at the same places. -/
theorem tokenDump_faithful (source : String) :
    (∀ error, tokenDump source = .error error ↔
      (TokenStream.ofSource source).tokens = .error error) ∧
    (∀ tokens, (TokenStream.ofSource source).tokens = .ok tokens → ∃ dump inside,
      tokenDump source = .ok dump ∧
      splitLines dump.toList = tokens.map (fun token => token.dump.toList ++ ['\n']) ++ [[]] ∧
      (∀ token ∈ tokens, '\n' ∉ token.dump.toList) ∧
      tokens = inside ++ [(TokenStream.ofSource source).endToken] ∧
      ∀ token ∈ inside, token.kind ≠ .endOfFile) ∧
    ∀ other tokens otherTokens, (TokenStream.ofSource source).tokens = .ok tokens →
      (TokenStream.ofSource other).tokens = .ok otherTokens →
      (tokenDump source = tokenDump other ↔ tokens = otherTokens) := by
  refine ⟨fun error => ?_, fun tokens lexes => ?_, fun other tokens otherTokens lexes others => ?_⟩
  · cases lexes : (TokenStream.ofSource source).tokens with
    | ok tokens =>
      rw [tokenDump_of_tokens_ok lexes]
      exact ⟨nofun, nofun⟩
    | error first =>
      rw [tokenDump, lexes]
      exact ⟨fun same => congrArg Except.error (Except.error.inj same),
        fun same => congrArg Except.error (Except.error.inj same)⟩
  · obtain ⟨inside, ahead, rfl⟩ := TokenStream.exists_of_tokens_ok lexes
    refine ⟨_, inside, tokenDump_of_tokens_ok lexes, splitLines_dumpTokens _,
      fun token _ => token.newline_notMem_dump, rfl, fun token member => ?_⟩
    exact (spelled_of_mem_itemsFrom
      (show _ ∈ (TokenStream.ofSource source).ahead from
        ahead ▸ List.mem_map_of_mem member)).ne_endOfFile
  · rw [tokenDump_of_tokens_ok lexes, tokenDump_of_tokens_ok others, Except.ok.injEq,
      dumpTokens_injective.eq_iff]

/-- A text of one backslash and a text of two have different dumps. -/
theorem tokenDump_faithful_backslash :
    ∃ tokens otherTokens, (TokenStream.ofSource "\"\\\"").tokens = .ok tokens ∧
      (TokenStream.ofSource "\"\\\\\"").tokens = .ok otherTokens ∧
      tokenDump "\"\\\"" ≠ tokenDump "\"\\\\\"" := by
  have lexes : (TokenStream.ofSource "\"\\\"").tokens =
      .ok [⟨.string "\\", 0, 3⟩, ⟨.endOfFile, 3, 3⟩] := by decide +kernel
  have others : (TokenStream.ofSource "\"\\\\\"").tokens =
      .ok [⟨.string "\\\\", 0, 4⟩, ⟨.endOfFile, 4, 4⟩] := by decide +kernel
  refine ⟨_, _, lexes, others, fun same => ?_⟩
  exact absurd (((tokenDump_faithful _).2.2 _ _ _ lexes others).mp same) (by decide)

end TurtleScene
